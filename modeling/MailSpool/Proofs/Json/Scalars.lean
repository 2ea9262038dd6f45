import MailSpool.Json.Reader
import MailSpool.Proofs.Json.Skipping

/-!
# Reading strings, truth values and whole numbers

A reader gives the value that a text spells and leaves what stands behind it. On any other
well-formed value it may fail, but it never leaves more or less than what stands behind that value.
-/

namespace MailSpool.Json

variable {Value : Type}

/-- A reading that gives a value where only `rest` is left. -/
def Gives (reading : Except Fault (Value × Cursor)) (value : Value) (rest : List Char) : Prop :=
  ∃ behind, reading = .ok (value, behind) ∧ behind.rest = rest

theorem Gives.map {Other : Type} {reading : Except Fault (Value × Cursor)} {value : Value}
    {rest : List Char} (gives : Gives reading value rest) (change : Value → Other) :
    Gives (reading.map fun (value, behind) => (change value, behind)) (change value) rest := by
  rcases gives with ⟨behind, rfl, left⟩
  exact ⟨behind, rfl, left⟩

theorem stops_ok_iff {behind : Cursor} {rest : List Char} :
    Stops (.ok behind) rest ↔ behind.rest = rest := by
  simp [Stops]

/-- A reader that leaves what stands behind a well-formed value, if it succeeds on it. -/
def Spares (reader : Cursor → Except Fault (Value × Cursor)) : Prop :=
  ∀ (cursor behind : Cursor) (text rest : List Char) (value : Value), IsValue text → Ends rest →
    cursor.Faces (text ++ rest) → reader cursor = .ok (value, behind) → behind.rest = rest

/-! ## Strings -/

section Strings

variable {text characters rest : List Char} {cursor : Cursor}

theorem Gives.prepend {reading : Except Fault (List Char × Cursor)}
    (gives : Gives reading characters rest) (character : Char) :
    Gives (prepend character reading) (character :: characters) rest :=
  gives.map (character :: ·)

theorem surrogates_of_not_isSurrogate {unit : Nat} (single : ¬ IsSurrogate unit) :
    isLeadingSurrogate unit = false ∧ isTrailingSurrogate unit = false := by
  simp [IsSurrogate] at single
  simp [isLeadingSurrogate, isTrailingSurrogate]
  omega

theorem surrogates_of_high {high : Nat} (isHigh : high < 0x400) :
    isLeadingSurrogate (0xD800 + high) = true ∧ isTrailingSurrogate (0xD800 + high) = false := by
  simp [isLeadingSurrogate, isTrailingSurrogate]
  omega

theorem isTrailingSurrogate_of_low {low : Nat} (isLow : low < 0x400) :
    isTrailingSurrogate (0xDC00 + low) = true := by
  simp [isTrailingSurrogate]
  omega

theorem gives_stringCharacters (spells : Spells text characters) (location : Location) :
    Gives (stringCharacters none (text ++ '"' :: rest) location) characters rest := by
  induction spells generalizing location with
  | nil => exact ⟨_, rfl, rfl⟩
  | @plain character text characters isPlain _ ih =>
    rcases isPlain with ⟨visible, noQuote, noSlash⟩
    have printed : ¬ character.toNat < 0x20 := by omega
    rw [List.cons_append, stringCharacters]
    · simp only [noQuote, printed, if_false]
      exact (ih _).prepend character
    · exact noSlash
  | @short mark character text characters escape _ ih =>
    rcases shortEscape?_of_mem escape with ⟨value, noUnit⟩
    simp only [List.cons_append, stringCharacters, value]
    exact (ih _).prepend character
  | @unit digits text characters value writes single _ ih =>
    rcases codeUnit?_of_writesUnit writes with ⟨first, second, third, fourth, rfl, isValue⟩
    rcases surrogates_of_not_isSurrogate single with ⟨leading, trailing⟩
    simp only [List.cons_append, List.nil_append, stringCharacters, isValue, leading, trailing]
    exact (ih _).prepend _
  | @pair first second text characters high low writesFirst isHigh writesSecond isLow _ ih =>
    rcases codeUnit?_of_writesUnit writesFirst with ⟨a, b, c, d, rfl, isFirst⟩
    rcases codeUnit?_of_writesUnit writesSecond with ⟨a', b', c', d', rfl, isSecond⟩
    rcases surrogates_of_high isHigh with ⟨leading, notTrailing⟩
    have trailing := isTrailingSurrogate_of_low isLow
    have paired : pairedCharacter (0xD800 + high) (0xDC00 + low) =
        Char.ofNat (0x10000 + high * 0x400 + low) := by
      simp [pairedCharacter]
    simp only [List.cons_append, List.nil_append, stringCharacters, isFirst, isSecond, leading,
      notTrailing, trailing, ← paired]
    exact (ih _).prepend _

theorem gives_stringBody (spells : Spells text characters)
    (stands : cursor.rest = text ++ '"' :: rest) :
    Gives cursor.stringBody (String.ofList characters) rest := by
  rw [Cursor.stringBody, stands]
  exact (gives_stringCharacters spells _).map String.ofList

theorem gives_string (spells : Spells text characters) (expected : String)
    (faces : cursor.Faces ('"' :: (text ++ '"' :: rest))) :
    Gives (cursor.string expected) (String.ofList characters) rest := by
  have body := gives_stringBody spells (Cursor.rest_advance faces)
  simp only [Cursor.string, Cursor.valueStart, Cursor.next?_eq faces, bind, Except.bind, if_true]
  exact body

theorem exists_of_prepend {reading : Except Fault (List Char × Cursor)} {character : Char}
    {behind : Cursor} (read : prepend character reading = .ok (characters, behind)) :
    ∃ others, reading = .ok (others, behind) := by
  rcases reading with fault | ⟨others, found⟩
  · simp [prepend, Except.map] at read
  · obtain ⟨_, rfl⟩ : character :: others = characters ∧ found = behind := by
      simpa [prepend, Except.map] using read
    exact ⟨others, rfl⟩

/-- A string that is read ends where a string that is skipped does. -/
theorem rest_of_stringCharacters (isWritten : IsWritten text) {leading : Option Nat}
    {location : Location} {behind : Cursor}
    (read : stringCharacters leading (text ++ '"' :: rest) location = .ok (characters, behind)) :
    behind.rest = rest := by
  induction isWritten generalizing leading location characters with
  | nil =>
    cases leading with
    | none =>
      obtain ⟨_, rfl⟩ : [] = characters ∧ ⟨rest, location.after '"'⟩ = behind := by
        simpa [stringCharacters] using read
      rfl
    | some leading => simp [stringCharacters] at read
  | @plain character text isPlain _ ih =>
    rcases isPlain with ⟨visible, noQuote, noSlash⟩
    have printed : ¬ character.toNat < 0x20 := by omega
    cases leading with
    | none =>
      rw [List.cons_append, stringCharacters] at read
      · simp only [noQuote, printed, if_false] at read
        rcases exists_of_prepend read with ⟨others, read⟩
        exact ih read
      · exact noSlash
    | some leading =>
      rw [List.cons_append, stringCharacters] at read
      · simp at read
      · exact noSlash
  | @short mark character text escape _ ih =>
    rcases shortEscape?_of_mem escape with ⟨value, noUnit⟩
    cases leading with
    | none =>
      simp only [List.cons_append, stringCharacters, value] at read
      rcases exists_of_prepend read with ⟨others, read⟩
      exact ih read
    | some leading => simp [stringCharacters] at read
  | @unit digits text value writes _ ih =>
    rcases codeUnit?_of_writesUnit writes with ⟨first, second, third, fourth, rfl, isValue⟩
    simp only [List.cons_append, List.nil_append, stringCharacters, isValue] at read
    cases leading with
    | none =>
      simp only at read
      split at read
      · simp at read
      · split at read
        · exact ih read
        · rcases exists_of_prepend read with ⟨others, read⟩
          exact ih read
    | some leading =>
      simp only at read
      split at read
      · rcases exists_of_prepend read with ⟨others, read⟩
        exact ih read
      · simp at read

theorem rest_of_stringBody {behind : Cursor} {found : String} (isWritten : IsWritten text)
    (stands : cursor.rest = text ++ '"' :: rest)
    (read : cursor.stringBody = .ok (found, behind)) : behind.rest = rest := by
  rw [Cursor.stringBody, stands] at read
  rcases reading : stringCharacters none (text ++ '"' :: rest) cursor.location with
    fault | ⟨characters, found⟩
  · simp [reading, Except.map] at read
  · obtain ⟨_, rfl⟩ : String.ofList characters = _ ∧ found = behind := by
      simpa [reading, Except.map] using read
    exact rest_of_stringCharacters isWritten reading

end Strings

/-! ## Numbers -/

section Numbers

variable {cursor behind : Cursor} {negative : Bool} {significand : Nat} {exponent : Int}
  {number : Number} {rest : List Char}

theorem behind_of_floatingNumber
    (read : cursor.floatingNumber negative significand exponent = .ok (number, behind)) :
    cursor = behind := by
  unfold Cursor.floatingNumber at read
  split at read
  · simp only [Except.ok.injEq, Prod.mk.injEq] at read
    exact read.2
  · simp at read

theorem exists_run_cons {inClass : Char → Bool} {first : Char} (next : cursor.next? = some first)
    (inside : inClass first = true) : ∃ others, (cursor.run inClass).1 = first :: others := by
  rcases cursor with ⟨_ | ⟨found, others⟩, location⟩
  · simp [Cursor.next?] at next
  · obtain rfl : found = first := by simpa [Cursor.next?] using next
    simp [Cursor.run_eq, inside]

theorem skipExponent_of_exponentPart
    (read : cursor.exponentPart negative significand exponent = .ok (number, behind)) :
    cursor.skipExponent = .ok behind := by
  rcases signed : cursor.exponentSign with ⟨shrinks, digits⟩
  simp only [Cursor.exponentPart, signed] at read
  split at read
  case h_1 => simp at read
  case h_2 first next =>
    split at read
    case isFalse => simp at read
    case isTrue isDigit =>
      rcases exists_run_cons next isDigit with ⟨others, digits⟩
      simp only [Cursor.skipExponent, signed, digits, List.isEmpty_cons]
      split at read
      · rw [behind_of_floatingNumber read]
        simp
      · split at read
        · simp at read
        · simp only [Except.ok.injEq, Prod.mk.injEq] at read
          simp [read.2]

theorem skipOptionalExponent_of_read {mark : Char} (isMark : Cursor.isExponentMark mark = true)
    (next : cursor.next? = some mark)
    (read : cursor.advance.exponentPart negative significand exponent = .ok (number, behind)) :
    cursor.skipOptionalExponent = .ok behind := by
  simp only [Cursor.skipOptionalExponent, next, isMark, if_true]
  exact skipExponent_of_exponentPart read

theorem skipOptionalExponent_of_fractionPart
    (read : cursor.fractionPart negative significand exponent = .ok (number, behind)) :
    (cursor.run Char.isDigit).1.isEmpty = false ∧
      (cursor.run Char.isDigit).2.skipOptionalExponent = .ok behind := by
  unfold Cursor.fractionPart at read
  simp only at read
  split at read
  case isTrue => split at read <;> simp at read
  case isFalse some =>
    refine ⟨by simpa using some, ?_⟩
    split at read
    case h_1 mark next =>
      split at read
      case isTrue isMark => exact skipOptionalExponent_of_read isMark next read
      case isFalse noMark =>
        rw [behind_of_floatingNumber read] at next ⊢
        simp [Cursor.skipOptionalExponent, next, noMark]
    case h_2 next =>
      rw [behind_of_floatingNumber read] at next ⊢
      simp [Cursor.skipOptionalExponent, next]

theorem behind_of_wholeNumber
    (read : cursor.wholeNumber negative significand = .ok (number, behind)) : cursor = behind := by
  unfold Cursor.wholeNumber at read
  split at read
  · simp only [Except.ok.injEq, Prod.mk.injEq] at read
    exact read.2
  · split at read
    · simp only [Except.ok.injEq, Prod.mk.injEq] at read
      exact read.2
    · exact behind_of_floatingNumber read

theorem behind_of_integer
    (read : (if exponent = 0 then cursor.wholeNumber negative significand
      else cursor.floatingNumber negative significand exponent) = .ok (number, behind)) :
    cursor = behind := by
  split at read
  · exact behind_of_wholeNumber read
  · exact behind_of_floatingNumber read

theorem skipUnsignedNumber_of_unsignedNumber
    (read : cursor.unsignedNumber negative = .ok (number, behind)) :
    cursor.skipUnsignedNumber = .ok behind := by
  unfold Cursor.unsignedNumber at read
  split at read
  case h_1 => simp at read
  case h_2 first next =>
    split at read
    case isFalse => simp at read
    case isTrue isDigit =>
      rcases exists_run_cons next isDigit with ⟨others, digits⟩
      simp only [digits, List.length_cons] at read
      split at read
      case isTrue => simp at read
      case isFalse plain =>
        have noZero : ¬ (first = '0' ∧ others ≠ []) := by
          rintro ⟨isZero, more⟩
          exact plain ⟨isZero, by simpa using more⟩
        unfold Cursor.skipUnsignedNumber
        simp only [digits, noZero, if_false]
        split at read
        case h_1 point =>
          rcases skipOptionalExponent_of_fractionPart read with ⟨some, skipped⟩
          simp only [point, if_true, some]
          exact skipped
        case h_2 mark noPoint next =>
          have elsewhere : (cursor.run Char.isDigit).2.next? ≠ some '.' := by
            rw [next]
            simpa using noPoint
          rw [if_neg elsewhere]
          split at read
          case isTrue isMark => exact skipOptionalExponent_of_read isMark next read
          case isFalse noMark =>
            rw [behind_of_integer read] at next ⊢
            simp [Cursor.skipOptionalExponent, next, noMark]
        case h_3 next =>
          rw [behind_of_integer read] at next ⊢
          simp [Cursor.skipOptionalExponent, next]

/-- A number that `number` reads ends where `skipNumber` comes to. -/
theorem skipNumber_of_number (read : cursor.number = .ok (number, behind)) :
    cursor.skipNumber = .ok behind := by
  unfold Cursor.number at read
  unfold Cursor.skipNumber
  split at read
  · next minus =>
    rw [if_pos minus]
    exact skipUnsignedNumber_of_unsignedNumber read
  · next noMinus =>
    rw [if_neg noMinus]
    exact skipUnsignedNumber_of_unsignedNumber read

/-! ### Whole numbers -/

theorem le_ofDigitChars (digits : List Char) (start : Nat) :
    start ≤ Nat.ofDigitChars 10 digits start := by
  induction digits generalizing start with
  | nil => simp
  | cons digit others ih =>
    rw [Nat.ofDigitChars_cons]
    have later := ih (10 * start + (digit.toNat - '0'.toNat))
    omega

/-- `absorb` takes digits as long as their value fits into 64 bits. -/
theorem absorb_eq (digits : List Char) (start : Nat)
    (small : Nat.ofDigitChars 10 digits start < Number.wholeLimit) :
    Number.absorb start digits = (Nat.ofDigitChars 10 digits start, digits.length) := by
  induction digits generalizing start with
  | nil => simp [Number.absorb]
  | cons digit others ih =>
    rw [Nat.ofDigitChars_cons] at small ⊢
    have next : start * 10 + (digit.toNat - '0'.toNat) < Number.wholeLimit := by
      have later := le_ofDigitChars others (10 * start + (digit.toNat - '0'.toNat))
      omega
    rw [Nat.mul_comm 10 start] at small ⊢
    simp only [Number.absorb, next, if_true, ih _ small, List.length_cons]

theorem exists_toDigits_cons (number : Nat) :
    ∃ first others, Nat.toDigits 10 number = first :: others ∧ (first = '0' → number = 0) := by
  induction number using Nat.strongRecOn with
  | ind number ih =>
    rw [Nat.toDigits_eq_if (by decide)]
    split
    case isTrue small =>
      have onlyZero : ∀ digit < 10, Nat.digitChar digit = '0' → digit = 0 := by decide
      exact ⟨_, [], rfl, onlyZero number small⟩
    case isFalse large =>
      rcases ih (number / 10) (by omega) with ⟨first, others, digits, isZero⟩
      refine ⟨first, others ++ [Nat.digitChar (number % 10)], by rw [digits]; rfl, ?_⟩
      intro zero
      have shorter := isZero zero
      omega

theorem unsignedNumber_eq (value : Nat) (small : value < Number.wholeLimit) (ends : Ends rest)
    (stands : cursor.rest = Nat.toDigits 10 value ++ rest) (negative : Bool) :
    ∃ behind : Cursor, cursor.unsignedNumber negative = behind.wholeNumber negative value ∧
      behind.rest = rest := by
  have isDigits : ∀ digit ∈ Nat.toDigits 10 value, digit.isDigit = true :=
    fun digit member => Nat.isDigit_of_mem_toDigits (by decide) (by decide) member
  have absorbed : Number.absorb 0 (Nat.toDigits 10 value) =
      (value, (Nat.toDigits 10 value).length) := by
    rw [absorb_eq _ _ (by rw [Nat.ofDigitChars_ten_toDigits]; exact small),
      Nat.ofDigitChars_ten_toDigits]
  rcases Cursor.run_isDigit isDigits ends.noDigit stands with ⟨taken, left⟩
  rcases exists_toDigits_cons value with ⟨first, others, digits, isZero⟩
  have noZero : ¬ (first = '0' ∧ (Nat.toDigits 10 value).length ≠ 1) := by
    rintro ⟨zero, long⟩
    rw [isZero zero] at long
    exact long (by decide)
  have isDigit : first.isDigit = true := isDigits first (by rw [digits]; simp)
  have next : cursor.next? = some first := by
    rw [digits] at stands
    exact Cursor.next?_eq stands
  refine ⟨(cursor.run Char.isDigit).2, ?_, left⟩
  unfold Cursor.unsignedNumber
  simp only [next, isDigit, if_true, taken, noZero, if_false, absorbed, Int.sub_self]
  cases rest with
  | nil => simp [Cursor.next?, left]
  | cons mark others =>
    have noMark := (ends mark rfl).2
    simp only [List.mem_cons, not_or, List.not_mem_nil, not_false_eq_true, and_true] at noMark
    rw [Cursor.next?_eq left]
    simp [Cursor.isExponentMark, noMark]

/-- How a whole number is written: in decimal, with a minus if it is negative. -/
def wholeText (value : Int) : List Char :=
  (toString value).toList

theorem wholeText_natCast (value : Nat) : wholeText value = Nat.toDigits 10 value := by
  simp [wholeText, toString, Nat.repr, Int.repr]

theorem wholeText_negSucc (value : Nat) :
    wholeText (Int.negSucc value) = '-' :: Nat.toDigits 10 (value + 1) := by
  simp [wholeText, toString, Nat.repr, Int.repr]

/-- A whole number that fits into 64 bits, with or without a sign, is read as what it is. -/
theorem gives_number {value : Int} (least : -9223372036854775808 ≤ value)
    (greatest : value ≤ 18446744073709551615) (ends : Ends rest)
    (stands : cursor.rest = wholeText value ++ rest) :
    Gives cursor.number (.whole value) rest := by
  have limit : Number.wholeLimit = 18446744073709551616 := rfl
  cases value with
  | ofNat value =>
    rw [Int.ofNat_eq_natCast] at *
    rw [wholeText_natCast] at stands
    rcases exists_toDigits_cons value with ⟨first, others, digits, _⟩
    have noMinus : cursor.next? ≠ some '-' := by
      have isDigit : first.isDigit = true :=
        Nat.isDigit_of_mem_toDigits (b := 10) (n := value) (by decide) (by decide)
          (by rw [digits]; simp)
      rw [digits] at stands
      rw [Cursor.next?_eq stands]
      rintro ⟨rfl⟩
      simp at isDigit
    rcases unsignedNumber_eq value (by omega) ends stands false with ⟨behind, read, left⟩
    refine ⟨behind, ?_, left⟩
    rw [Cursor.number, if_neg noMinus, read]
    simp [Cursor.wholeNumber]
  | negSucc value =>
    rw [wholeText_negSucc] at stands
    rcases unsignedNumber_eq (value + 1) (by omega) ends (Cursor.rest_advance stands) true with
      ⟨behind, read, left⟩
    refine ⟨behind, ?_, left⟩
    have small : value + 1 ≤ 9223372036854775808 := by omega
    rw [Cursor.number, if_pos (Cursor.next?_eq stands), read]
    simp [Cursor.wholeNumber, small, Int.negSucc_eq]

theorem isNumber_wholeText (value : Int) : IsNumber (wholeText value) := by
  have written (value : Nat) : IsDigits (Nat.toDigits 10 value) ∧
      ∀ others, Nat.toDigits 10 value = '0' :: others → others = [] := by
    refine ⟨⟨Nat.toDigits_ne_nil, fun digit member =>
      Nat.isDigit_of_mem_toDigits (by decide) (by decide) member⟩, ?_⟩
    intro others isZero
    rcases exists_toDigits_cons value with ⟨first, _, digits, onlyZero⟩
    rw [digits] at isZero
    rw [onlyZero (List.cons.inj isZero).1] at digits
    exact (List.cons.inj (isZero.symm.trans digits.symm)).2
  cases value with
  | ofNat value =>
    rw [Int.ofNat_eq_natCast, wholeText_natCast]
    simpa using IsNumber.parts (by simp : [] ∈ _) (written value).1 (written value).2 .none .none
  | negSucc value =>
    rw [wholeText_negSucc]
    simpa using IsNumber.parts (by simp : ['-'] ∈ _) (written (value + 1)).1
      (written (value + 1)).2 .none .none

end Numbers

/-! ## Readers -/

section Readers

variable {cursor : Cursor} {first : Char} {others rest : List Char}

theorem valueStart_eq (faces : cursor.Faces (first :: rest)) :
    cursor.valueStart = .ok (first, cursor.skipSpace) := by
  simp [Cursor.valueStart, Cursor.next?_eq faces]

theorem IsValue.isNumber (isValue : IsValue (first :: others))
    (isFirst : first = '-' ∨ first.isDigit = true) : IsNumber (first :: others) := by
  have visible := (visible_of_isDigit isFirst).2
  simp only [List.mem_cons, not_or] at visible
  generalize whole : first :: others = text at isValue
  cases isValue with
  | word isWord =>
    simp only [words, List.mem_cons, List.not_mem_nil, or_false] at isWord
    rcases isWord with rfl | rfl | rfl <;> simp_all
  | number isNumber => exact isNumber
  | string => simp_all
  | list => simp_all [listText]
  | object => simp_all [objectText]

theorem gives_boundedNumber {least greatest value : Int} (expected : String)
    (least64 : -9223372036854775808 ≤ value) (greatest64 : value ≤ 18446744073709551615)
    (inRange : least ≤ value ∧ value ≤ greatest) (ends : Ends rest)
    (faces : cursor.Faces (wholeText value ++ rest)) :
    Gives (cursor.boundedNumber least greatest expected) value rest := by
  rcases (isNumber_wholeText value).exists_head with ⟨first, others, isText, isFirst⟩
  rcases gives_number least64 greatest64 ends faces with ⟨behind, read, left⟩
  rw [isText] at faces
  refine ⟨behind, ?_, left⟩
  simp only [Cursor.boundedNumber, valueStart_eq faces, bind, Except.bind, isFirst, if_true, read,
    inRange, and_self]

theorem spares_boundedNumber (least greatest : Int) (expected : String) :
    Spares (Cursor.boundedNumber least greatest expected) := by
  intro cursor behind text rest value isValue ends faces read
  rcases isValue.exists_head with ⟨first, others, rfl, _⟩
  simp only [Cursor.boundedNumber, valueStart_eq faces, bind, Except.bind] at read
  split at read
  case isFalse => simp at read
  case isTrue isFirst =>
    rcases number : cursor.skipSpace.number with fault | ⟨found, left⟩
    · simp [number] at read
    · have stops := Cursor.stops_skipNumber (isValue.isNumber isFirst) ends faces
      rw [skipNumber_of_number number, stops_ok_iff] at stops
      simp only [number] at read
      split at read
      · split at read
        · simp only [Except.ok.injEq, Prod.mk.injEq] at read
          rw [← read.2, stops]
        · simp at read
      · simp at read

theorem Spares.map {Value Other : Type} {reader : Cursor → Except Fault (Value × Cursor)}
    (spares : Spares reader) (change : Value → Other) :
    Spares fun cursor => (reader cursor).map fun (value, behind) => (change value, behind) := by
  intro cursor behind text rest value isValue ends faces read
  rcases found : reader cursor with fault | ⟨given, left⟩
  · simp [found, Except.map] at read
  · obtain ⟨_, rfl⟩ : change given = value ∧ left = behind := by
      simpa [found, Except.map] using read
    exact spares _ _ _ _ _ isValue ends faces found

theorem gives_int32 (value : Int32) (ends : Ends rest)
    (faces : cursor.Faces (wholeText value.toInt ++ rest)) : Gives cursor.int32 value rest := by
  have least : -2147483648 ≤ value.toInt := value.le_toInt
  have greatest : value.toInt < 2147483648 := value.toInt_lt
  have given : Gives (cursor.boundedNumber (-2147483648) 2147483647 "i32") value.toInt rest :=
    gives_boundedNumber "i32" (by omega) (by omega) ⟨least, by omega⟩ ends faces
  have converted := given.map Int32.ofInt
  rw [Int32.ofInt_toInt] at converted
  exact converted

theorem spares_int32 : Spares Cursor.int32 :=
  (spares_boundedNumber _ _ _).map Int32.ofInt

theorem gives_uint64 (value : UInt64) (ends : Ends rest)
    (faces : cursor.Faces (wholeText value.toNat ++ rest)) : Gives cursor.uint64 value rest := by
  have greatest : value.toNat < 18446744073709551616 := value.toNat_lt
  have given : Gives (cursor.boundedNumber 0 18446744073709551615 "u64") value.toNat rest :=
    gives_boundedNumber "u64" (by omega) (by omega) ⟨by omega, by omega⟩ ends faces
  have converted := given.map fun found => UInt64.ofNat found.toNat
  rw [Int.toNat_natCast, UInt64.ofNat_toNat] at converted
  exact converted

theorem spares_uint64 : Spares Cursor.uint64 :=
  (spares_boundedNumber _ _ _).map fun found => UInt64.ofNat found.toNat

def booleanText : Bool → List Char
  | true => "true".toList
  | false => "false".toList

theorem isValue_booleanText (value : Bool) : IsValue (booleanText value) := by
  cases value with
  | true => exact .word (by simp [words] : "true" ∈ words)
  | false => exact .word (by simp [words] : "false" ∈ words)

theorem stops_behindWord (word : String) (faces : cursor.Faces (first :: (word.toList ++ rest))) :
    Stops (cursor.skipSpace.behindWord word) rest :=
  Cursor.stops_word (Cursor.rest_advance faces)

theorem gives_boolean (value : Bool) (faces : cursor.Faces (booleanText value ++ rest)) :
    Gives cursor.boolean value rest := by
  cases value with
  | true =>
    have letters : cursor.Faces ('t' :: ("rue".toList ++ rest)) := faces
    rcases stops_behindWord _ letters with ⟨behind, read, left⟩
    refine ⟨behind, ?_, left⟩
    rw [Cursor.boolean, valueStart_eq letters]
    simp only [bind, Except.bind, read]
    rfl
  | false =>
    have letters : cursor.Faces ('f' :: ("alse".toList ++ rest)) := faces
    rcases stops_behindWord _ letters with ⟨behind, read, left⟩
    refine ⟨behind, ?_, left⟩
    rw [Cursor.boolean, valueStart_eq letters]
    simp only [bind, Except.bind, read]
    rfl

theorem IsNumber.visible_head {text : List Char} (isNumber : IsNumber text)
    (isFirst : text.head? = some first) :
    first ∉ [']', '\x7d', '"', '[', '\x7b', 'n', 't', 'f'] := by
  rcases isNumber.exists_head with ⟨found, others, rfl, starts⟩
  obtain rfl := Option.some.inj isFirst
  exact (visible_of_isDigit starts).2

/-- Of the well-formed values, only the words begin with letters, and each with its own. -/
theorem IsValue.eq_word (isValue : IsValue (first :: others)) (word : String)
    (isWord : word ∈ words)
    (begins : word.toList.head? = some first) : first :: others = word.toList := by
  generalize whole : first :: others = text at isValue
  simp only [words, List.mem_cons, List.not_mem_nil, or_false] at isWord
  cases isValue with
  | @word found isFound =>
    simp only [words, List.mem_cons, List.not_mem_nil, or_false] at isFound
    rcases isWord with rfl | rfl | rfl <;> rcases isFound with rfl | rfl | rfl <;> simp_all
  | number isNumber =>
    have visible := isNumber.visible_head (congrArg List.head? whole.symm)
    rcases isWord with rfl | rfl | rfl
    all_goals
      simp only [String.reduceToList, List.head?_cons, Option.some.injEq] at begins
      simp [← begins] at visible
  | string => rcases isWord with rfl | rfl | rfl <;> simp_all
  | list => rcases isWord with rfl | rfl | rfl <;> simp_all [listText]
  | object => rcases isWord with rfl | rfl | rfl <;> simp_all [objectText]

theorem IsValue.exists_string (isValue : IsValue ('"' :: others)) :
    ∃ text, others = text ++ ['"'] ∧ IsWritten text := by
  generalize whole : '"' :: others = text at isValue
  cases isValue with
  | word isWord =>
    simp only [words, List.mem_cons, List.not_mem_nil, or_false] at isWord
    rcases isWord with rfl | rfl | rfl <;> simp at whole
  | number isNumber =>
    have visible := isNumber.visible_head (congrArg List.head? whole.symm)
    simp at visible
  | @string text isWritten => exact ⟨text, (List.cons.inj whole).2, isWritten⟩
  | list => simp [listText] at whole
  | object => simp [objectText] at whole

theorem IsValue.exists_object (isValue : IsValue ('\x7b' :: others)) :
    ∃ blank members, '\x7b' :: others = objectText blank members ∧ IsBlank blank ∧
      AreMembers members := by
  generalize whole : '\x7b' :: others = text at isValue
  cases isValue with
  | word isWord =>
    simp only [words, List.mem_cons, List.not_mem_nil, or_false] at isWord
    rcases isWord with rfl | rfl | rfl <;> simp at whole
  | number isNumber =>
    have visible := isNumber.visible_head (congrArg List.head? whole.symm)
    simp at visible
  | string => simp at whole
  | list => simp [listText] at whole
  | object isBlank framed keys values => exact ⟨_, _, rfl, isBlank, framed, keys, values⟩

theorem IsValue.exists_list (isValue : IsValue ('[' :: others)) :
    ∃ blank items, '[' :: others = listText blank items ∧ IsBlank blank ∧ AreItems items := by
  generalize whole : '[' :: others = text at isValue
  cases isValue with
  | word isWord =>
    simp only [words, List.mem_cons, List.not_mem_nil, or_false] at isWord
    rcases isWord with rfl | rfl | rfl <;> simp at whole
  | number isNumber =>
    have visible := isNumber.visible_head (congrArg List.head? whole.symm)
    simp at visible
  | string => simp at whole
  | list isBlank framed values => exact ⟨_, _, rfl, isBlank, framed, values⟩
  | object => simp [objectText] at whole

theorem spares_boolean : Spares Cursor.boolean := by
  intro cursor behind text rest value isValue ends faces read
  rcases isValue.exists_head with ⟨first, others, rfl, _⟩
  rw [Cursor.boolean, valueStart_eq faces] at read
  simp only [bind, Except.bind] at read
  have stays {word : String} (letters : Stops (cursor.skipSpace.behindWord word) rest)
      {found : Bool}
      (told : (cursor.skipSpace.behindWord word).map (found, ·) = .ok (value, behind)) :
      behind.rest = rest := by
    rcases letters with ⟨left, stops, isRest⟩
    simp only [stops, Except.map, Except.ok.injEq, Prod.mk.injEq] at told
    rw [← told.2, isRest]
  split at read
  case h_1 =>
    rw [isValue.eq_word "true" (by simp [words]) rfl] at faces
    exact stays (stops_behindWord "rue" faces) read
  case h_2 =>
    rw [isValue.eq_word "false" (by simp [words]) rfl] at faces
    exact stays (stops_behindWord "alse" faces) read
  case h_3 => simp at read

theorem spares_string (expected : String) : Spares (Cursor.string expected) := by
  intro cursor behind text rest value isValue ends faces read
  rcases isValue.exists_head with ⟨first, others, rfl, _⟩
  simp only [Cursor.string, valueStart_eq faces, bind, Except.bind] at read
  split at read
  case isFalse => simp at read
  case isTrue isQuote =>
    subst isQuote
    rcases isValue.exists_string with ⟨text, rfl, isWritten⟩
    have body : cursor.skipSpace.advance.rest = text ++ '"' :: rest := by
      simpa using Cursor.rest_advance faces
    exact rest_of_stringBody isWritten body read

end Readers

end MailSpool.Json
