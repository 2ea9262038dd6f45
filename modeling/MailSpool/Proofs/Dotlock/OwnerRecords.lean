import Mathlib.Data.List.TakeWhile
import Mathlib.Data.Nat.Digits.Defs
import MailSpool.Dotlock.Owner

/-!
# The record of an owner

A content tells an owner if it is text whose first line is a decimal number within the limit,
perhaps behind one plus sign and between blanks. The grammar of such contents, `ContentTells`, is
stated on its own, as a way to write a line, and `ownerOfContent` agrees with it on every content.
So a record that was written is read again, unless its owner is not within the limit:
`ownerOfContent_ownerRecord`.
-/

namespace MailSpool

/-! ## Blanks around a text -/

namespace Text

theorem trim_append {before after : List Char} (text : List Char)
    (blank : ∀ character ∈ before ++ after, isBlank character = true) :
    trim (before ++ text ++ after) = trim text := by
  have front : ∀ character ∈ before, isBlank character = true :=
    fun character member => blank character (List.mem_append_left after member)
  have back : ∀ character ∈ after, isBlank character = true :=
    fun character member => blank character (List.mem_append_right before member)
  rw [trim, trim, List.append_assoc, List.dropWhile_append_of_pos front, List.dropWhile_append]
  split
  case isTrue empty =>
    simp [List.isEmpty_iff.mp empty, List.dropWhile_eq_nil_iff.mpr back]
  case isFalse =>
    have reversed : ∀ character ∈ after.reverse, isBlank character = true :=
      fun character member => back character (List.mem_reverse.mp member)
    rw [List.reverse_append, List.dropWhile_append_of_pos reversed]

theorem exists_eq_append_trim (text : List Char) :
    ∃ before after, text = before ++ trim text ++ after ∧
      ∀ character ∈ before ++ after, isBlank character = true := by
  refine ⟨text.takeWhile isBlank, ((text.dropWhile isBlank).reverse.takeWhile isBlank).reverse,
    ?_, ?_⟩
  · rw [trim, List.append_assoc, ← List.reverse_append, List.takeWhile_append_dropWhile,
      List.reverse_reverse, List.takeWhile_append_dropWhile]
  · intro character member
    rcases List.mem_append.mp member with front | back
    · exact List.mem_takeWhile_imp front
    · exact List.mem_takeWhile_imp (List.mem_reverse.mp back)

end Text

/-! ## The grammar of a record -/

/-- Decimal digits, perhaps with zeros in front, and the number that they denote. -/
structure DigitsDenote (digits : List Char) (number : Nat) : Prop where
  nonempty : digits ≠ []
  digital : ∀ digit ∈ digits, digit.isDigit = true
  value : Nat.ofDigits 10 (digits.reverse.map fun digit => digit.toNat - '0'.toNat) = number

/-- A line that tells an owner. -/
def LineTells (line : List Char) (owner : ProcessId) : Prop :=
  ∃ before sign digits after, line = before ++ (sign ++ digits) ++ after ∧
    (∀ character ∈ before ++ after, Text.isBlank character = true) ∧
    (sign = [] ∨ sign = ['+']) ∧ DigitsDenote digits owner ∧ 1 ≤ owner ∧ owner ≤ 2147483647

/-- The line with which a text starts, without the line feed that ends it. -/
def IsFirstLine (text line : List Char) : Prop :=
  '\n' ∉ line ∧ (text = line ∨ ∃ rest, text = line ++ '\n' :: rest)

/-- A content that tells an owner: all of it is text, and its first line tells the owner. -/
def ContentTells (content : ByteArray) (owner : ProcessId) : Prop :=
  ∃ text : String, text.toUTF8 = content ∧
    ∃ line, IsFirstLine text.toList line ∧ LineTells line owner

/-! ## Reading a record -/

theorem fromUTF8?_eq_some_iff {content : ByteArray} {text : String} :
    String.fromUTF8? content = some text ↔ text.toUTF8 = content := by
  unfold String.fromUTF8?
  constructor
  · intro read
    split at read
    · cases read
      rfl
    · simp at read
  · rintro rfl
    rw [dif_pos (show text.toUTF8.IsValidUTF8 from text.isValidUTF8)]
    rfl

theorem fromUTF8?_toUTF8 (text : String) : String.fromUTF8? text.toUTF8 = some text :=
  fromUTF8?_eq_some_iff.mpr rfl

theorem isBlank_of_isDigit {character : Char} (digit : character.isDigit = true) :
    Text.isBlank character = false := by
  simp only [Char.isDigit, Bool.and_eq_true, decide_eq_true_eq, ge_iff_le, UInt32.le_iff_toNat_le]
    at digit
  rcases digit with ⟨least, greatest⟩
  change 48 ≤ character.toNat at least
  change character.toNat ≤ 57 at greatest
  simp only [Text.isBlank, Text.blankRanges, List.any_cons, List.any_nil, Bool.or_eq_false_iff,
    Bool.and_eq_false_iff, decide_eq_false_iff_not, Nat.not_le, and_true]
  omega

theorem withoutPlus_of_isDigit {text : List Char} (digits : ∀ digit ∈ text, digit.isDigit = true) :
    withoutPlus text = text := by
  unfold withoutPlus
  split
  · exact absurd (digits '+' List.mem_cons_self) (by decide)
  · rfl

theorem decimal?_eq_some_iff {digits : List Char} {number : Nat} :
    decimal? digits = some number ↔ DigitsDenote digits number := by
  have value : Nat.ofDigits 10 (digits.reverse.map fun digit => digit.toNat - '0'.toNat) =
      digits.foldl (fun value digit => 10 * value + (digit.toNat - '0'.toNat)) 0 := by
    rw [Nat.ofDigits_eq_foldr, List.foldr_map, List.foldr_reverse]
    simp only [Nat.cast_id, Nat.add_comm]
  unfold decimal?
  split
  case isTrue other =>
    simp only [reduceCtorEq, false_iff]
    intro denotes
    rcases Bool.or_eq_true_iff.mp other with empty | strange
    · exact denotes.nonempty (List.isEmpty_iff.mp empty)
    · rcases List.any_eq_true.mp strange with ⟨digit, member, noDigit⟩
      simp [denotes.digital digit member] at noDigit
  case isFalse digital =>
    simp only [Bool.or_eq_true, not_or, Bool.not_eq_true, List.isEmpty_eq_false_iff,
      List.any_eq_false, Bool.not_eq_true', Bool.not_eq_false] at digital
    rw [← value, Option.some.injEq]
    exact ⟨fun same => ⟨digital.1, digital.2, same⟩, fun denotes => denotes.value⟩

theorem exists_sign (text : List Char) :
    ∃ sign, (sign = [] ∨ sign = ['+']) ∧ text = sign ++ withoutPlus text := by
  unfold withoutPlus
  split
  · exact ⟨['+'], Or.inr rfl, rfl⟩
  · exact ⟨[], Or.inl rfl, rfl⟩

theorem withoutPlus_append {sign digits : List Char} {number : Nat}
    (isSign : sign = [] ∨ sign = ['+']) (denotes : DigitsDenote digits number) :
    withoutPlus (sign ++ digits) = digits := by
  rcases isSign with rfl | rfl
  · exact withoutPlus_of_isDigit denotes.digital
  · rfl

theorem trim_signed {sign digits : List Char} {number : Nat}
    (isSign : sign = [] ∨ sign = ['+']) (denotes : DigitsDenote digits number) :
    Text.trim (sign ++ digits) = sign ++ digits := by
  have plain : ∀ character ∈ sign ++ digits, Text.isBlank character = false := by
    intro character member
    rcases List.mem_append.mp member with inSign | inDigits
    · rcases isSign with rfl | rfl
      · simp at inSign
      · rw [List.mem_singleton.mp inSign]
        decide
    · exact isBlank_of_isDigit (denotes.digital character inDigits)
  exact Text.trim_eq_self
    (fun character member => plain character (List.mem_of_mem_head? member))
    (fun character member => plain character (List.mem_of_mem_getLast? member))

theorem ownerOfLine_eq_some_iff {line : List Char} {owner : ProcessId} :
    ownerOfLine line = some owner ↔ LineTells line owner := by
  simp only [ownerOfLine, Option.filter_eq_some_iff, decimal?_eq_some_iff, Bool.and_eq_true,
    decide_eq_true_eq]
  constructor
  · rintro ⟨denotes, positive, small⟩
    rcases Text.exists_eq_append_trim line with ⟨before, after, surrounded, blank⟩
    rcases exists_sign (Text.trim line) with ⟨sign, isSign, signed⟩
    rw [signed] at surrounded
    exact ⟨before, sign, _, after, surrounded, blank, isSign, denotes, positive, small⟩
  · rintro ⟨before, sign, digits, after, rfl, blank, isSign, denotes, positive, small⟩
    rw [Text.trim_append _ blank, trim_signed isSign denotes, withoutPlus_append isSign denotes]
    exact ⟨denotes, positive, small⟩

theorem isFirstLine_iff {text line : List Char} :
    IsFirstLine text line ↔ text.takeWhile (fun character => character ≠ '\n') = line := by
  constructor
  · rintro ⟨noFeed, whole⟩
    have all : ∀ character ∈ line, decide (character ≠ '\n') = true := by
      intro character member
      rw [decide_eq_true_eq]
      rintro rfl
      exact noFeed member
    rcases whole with rfl | ⟨rest, rfl⟩
    · exact List.takeWhile_eq_self_iff.mpr all
    · rw [List.takeWhile_append_of_pos all]
      simp
  · rintro rfl
    refine ⟨fun member => by simpa using List.mem_takeWhile_imp member, ?_⟩
    have split := List.takeWhile_append_dropWhile (p := fun character => decide (character ≠ '\n'))
      (l := text)
    rcases rest : text.dropWhile (fun character => character ≠ '\n') with _ | ⟨feed, later⟩
    · rw [rest, List.append_nil] at split
      exact Or.inl split.symm
    · have isFeed := List.head?_dropWhile_not (fun character => decide (character ≠ '\n')) text
      rw [rest] at isFeed split
      obtain rfl : feed = '\n' := by simpa using isFeed
      exact Or.inr ⟨later, split.symm⟩

/-- On every content, `ownerOfContent` reads what the grammar `ContentTells`. -/
theorem ownerOfContent_eq_some_iff {content : ByteArray} {owner : ProcessId} :
    ownerOfContent content = some owner ↔ ContentTells content owner := by
  unfold ownerOfContent
  rw [Option.bind_eq_some_iff]
  constructor
  · rintro ⟨text, isText, told⟩
    refine ⟨text, fromUTF8?_eq_some_iff.mp isText, _, isFirstLine_iff.mpr rfl, ?_⟩
    exact ownerOfLine_eq_some_iff.mp told
  · rintro ⟨text, rfl, line, first, told⟩
    refine ⟨text, fromUTF8?_toUTF8 text, ?_⟩
    rw [isFirstLine_iff.mp first]
    exact ownerOfLine_eq_some_iff.mpr told

/-! ## Writing a record -/

theorem decimal?_toDigits (number : Nat) : decimal? (Nat.toDigits 10 number) = some number := by
  have digits : (Nat.toDigits 10 number).any (fun digit => !digit.isDigit) = false := by
    rw [List.any_eq_false]
    intro digit member
    simp [Nat.isDigit_of_mem_toDigits (by decide) (by decide) member]
  have nonempty : (Nat.toDigits 10 number).isEmpty = false := by
    simp [Nat.toDigits_ne_nil]
  rw [decimal?, nonempty, digits]
  simp only [Bool.or_self, Bool.false_eq_true, if_false, Option.some.injEq]
  rw [← Nat.ofDigitChars_eq_foldl]
  exact Nat.ofDigitChars_ten_toDigits

/-- The owner of an `ownerRecord` is read again if it is within `ownerLimit`, and none otherwise. -/
theorem ownerOfContent_ownerRecord (owner : UInt32) :
    ownerOfContent (ownerRecord owner) =
      if 1 ≤ owner.toNat ∧ owner.toNat ≤ ownerLimit then some owner.toNat else none := by
  have digits : ∀ digit ∈ Nat.toDigits 10 owner.toNat, digit.isDigit = true :=
    fun digit member => Nat.isDigit_of_mem_toDigits (by decide) (by decide) member
  have line : (toString owner.toNat ++ "\n").toList.takeWhile (fun character => character ≠ '\n') =
      Nat.toDigits 10 owner.toNat := by
    rw [String.toList_append, show (toString owner.toNat).toList = Nat.toDigits 10 owner.toNat from
      Nat.toList_repr, List.takeWhile_append_of_pos]
    · simp
    · intro digit member
      rw [decide_eq_true_eq]
      rintro rfl
      exact absurd (digits '\n' member) (by decide)
  have trimmed : Text.trim (Nat.toDigits 10 owner.toNat) = Nat.toDigits 10 owner.toNat :=
    Text.trim_eq_self
      (fun digit member => isBlank_of_isDigit (digits digit (List.mem_of_mem_head? member)))
      (fun digit member => isBlank_of_isDigit (digits digit (List.mem_of_mem_getLast? member)))
  simp only [ownerOfContent, ownerRecord, fromUTF8?_toUTF8, Option.bind_some, line, ownerOfLine,
    trimmed, withoutPlus_of_isDigit digits, decimal?_toDigits]
  simp [Option.filter, Nat.succ_le_iff]

end MailSpool
