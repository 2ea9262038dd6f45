import MailSpool.Json.Skip
import MailSpool.Proofs.Json.Cursor

/-!
# Skipping well-formed values

Whatever is well formed is skipped, however deeply it is nested, and nothing behind it is touched.
A number is the one value that is not told from what stands behind it by its last character, so
what stands there may not continue a number.
-/

namespace MailSpool.Json

/-- A reading that ends where only `rest` is left. -/
def Stops (reading : Except Fault Cursor) (rest : List Char) : Prop :=
  ∃ behind, reading = .ok behind ∧ behind.rest = rest

/-! ## Escapes -/

theorem codeUnit?_of_writesUnit {digits : List Char} {unit : Nat}
    (writes : WritesUnit digits unit) :
    ∃ first second third fourth, digits = [first, second, third, fourth] ∧
      codeUnit? first second third fourth = some unit := by
  have value : ∀ digit ∈ hexadecimalDigits, hexadecimalValue? digit.1 = some digit.2 := by decide
  cases writes with
  | digits isFirst isSecond isThird isFourth =>
    refine ⟨_, _, _, _, rfl, ?_⟩
    simp [codeUnit?, value _ isFirst, value _ isSecond, value _ isThird, value _ isFourth]

theorem shortEscape?_of_mem {mark character : Char} (escape : (mark, character) ∈ shortEscapes) :
    shortEscape? mark = some character ∧ mark ≠ 'u' := by
  have value : ∀ pair ∈ shortEscapes, shortEscape? pair.1 = some pair.2 ∧ pair.1 ≠ 'u' := by decide
  exact value _ escape

namespace Cursor

variable {cursor : Cursor} {first : Char} {rest text blank : List Char}

/-! ## Words -/

theorem stops_word {word : List Char} (stands : cursor.rest = word ++ rest) :
    Stops (cursor.word word) rest := by
  induction word generalizing cursor with
  | nil => exact ⟨cursor, rfl, stands⟩
  | cons first others ih =>
    simp only [Cursor.word, next?_eq stands, if_true]
    exact ih (rest_advance stands)

/-! ## Numbers -/

theorem stops_skipExponent {sign digits : List Char} (signed : sign ∈ [[], ['+'], ['-']])
    (isDigits : IsDigits digits) (ends : NoDigit rest)
    (stands : cursor.rest = sign ++ (digits ++ rest)) : Stops cursor.skipExponent rest := by
  have behindSign : cursor.exponentSign.2.rest = digits ++ rest := by
    rcases isDigits with ⟨nonempty, isDigits⟩
    rcases digits with _ | ⟨digit, others⟩
    · contradiction
    · have isDigit := isDigits digit (by simp)
      simp only [List.mem_cons, List.not_mem_nil, or_false] at signed
      rcases signed with rfl | rfl | rfl
      · have noPlus : digit ≠ '+' := by rintro rfl; simp at isDigit
        have noMinus : digit ≠ '-' := by rintro rfl; simp at isDigit
        simp [exponentSign, next?, stands, noPlus, noMinus]
      · simp [exponentSign, next?, advance, stands]
      · simp [exponentSign, next?, advance, stands]
  rcases run_isDigit isDigits.2 ends behindSign with ⟨taken, left⟩
  refine ⟨_, ?_, left⟩
  simp [skipExponent, taken, isDigits.1]

theorem stops_skipOptionalExponent {exponent : List Char} (isExponent : IsExponent exponent)
    (ends : Ends rest) (stands : cursor.rest = exponent ++ rest) :
    Stops cursor.skipOptionalExponent rest := by
  cases isExponent with
  | none =>
    refine ⟨cursor, ?_, stands⟩
    cases rest with
    | nil => simp [skipOptionalExponent, next?, stands]
    | cons first others =>
      have noMark := (ends first rfl).2
      simp only [List.mem_cons, not_or] at noMark
      simp [skipOptionalExponent, next?, stands, isExponentMark, noMark]
  | @digits mark sign digits isMark signed isDigits =>
    have marked : isExponentMark mark = true := by simpa [isExponentMark] using isMark
    have next : cursor.rest = mark :: (sign ++ (digits ++ rest)) := by simpa using stands
    simp only [skipOptionalExponent, next?_eq next, marked, if_true]
    exact stops_skipExponent signed isDigits ends.noDigit (rest_advance next)

theorem noDigit_of_isExponent {exponent : List Char} (isExponent : IsExponent exponent)
    (ends : Ends rest) : NoDigit (exponent ++ rest) := by
  cases isExponent with
  | none => exact ends.noDigit
  | digits isMark =>
    intro found isFound
    obtain rfl := Option.some.inj isFound
    rcases isMark with rfl | rfl <;> decide

theorem stops_skipUnsignedNumber {whole fraction exponent : List Char} (isDigits : IsDigits whole)
    (noZero : ∀ others, whole = '0' :: others → others = []) (isFraction : IsFraction fraction)
    (isExponent : IsExponent exponent) (ends : Ends rest)
    (stands : cursor.rest = whole ++ (fraction ++ (exponent ++ rest))) :
    Stops cursor.skipUnsignedNumber rest := by
  have noDigit := noDigit_of_isExponent isExponent ends
  have pointless : (exponent ++ rest).head? ≠ some '.' := by
    cases isExponent with
    | none =>
      intro isPoint
      simpa using (ends '.' isPoint).2
    | digits isMark =>
      rcases isMark with rfl | rfl <;> simp
  have apart : NoDigit (fraction ++ (exponent ++ rest)) := by
    cases isFraction with
    | none => exact noDigit
    | digits =>
      intro found isFound
      obtain rfl := Option.some.inj isFound
      decide
  rcases isDigits with ⟨nonempty, isDigits⟩
  rcases run_isDigit isDigits apart stands with ⟨taken, left⟩
  rcases whole with _ | ⟨digit, others⟩
  · contradiction
  have plain : ¬ (digit = '0' ∧ others ≠ []) := by
    rintro ⟨rfl, more⟩
    exact more (noZero others rfl)
  unfold skipUnsignedNumber
  simp only [taken, plain, if_false]
  cases isFraction with
  | none =>
    have noPoint : (cursor.run Char.isDigit).2.next? ≠ some '.' := by
      simpa [next?, left] using pointless
    simp only [noPoint, if_false]
    exact stops_skipOptionalExponent isExponent ends left
  | @digits text isText =>
    rcases run_isDigit isText.2 noDigit (rest_advance left) with ⟨fractionTaken, behind⟩
    have some : text.isEmpty = false := by simp [isText.1]
    simp only [next?_eq left, if_true, fractionTaken, some]
    exact stops_skipOptionalExponent isExponent ends behind

theorem stops_skipNumber {number : List Char} (isNumber : IsNumber number) (ends : Ends rest)
    (stands : cursor.rest = number ++ rest) : Stops cursor.skipNumber rest := by
  cases isNumber with
  | @parts sign whole fraction exponent signed isDigits noZero isFraction isExponent =>
    simp only [List.append_assoc] at stands
    simp only [List.mem_cons, List.not_mem_nil, or_false] at signed
    unfold skipNumber
    rcases signed with rfl | rfl
    · have noMinus : cursor.next? ≠ some '-' := by
        rcases whole with _ | ⟨digit, others⟩
        · exact absurd rfl isDigits.1
        · have isDigit := isDigits.2 digit (by simp)
          rw [next?_eq stands]
          rintro ⟨rfl⟩
          simp at isDigit
      simp only [noMinus, if_false]
      exact stops_skipUnsignedNumber isDigits noZero isFraction isExponent ends stands
    · simp only [next?_eq stands, if_true]
      exact stops_skipUnsignedNumber isDigits noZero isFraction isExponent ends
        (rest_advance stands)

/-! ## Strings -/

theorem stops_skipStringCharacters {text : List Char} (isWritten : IsWritten text)
    (location : Location) : Stops (skipStringCharacters (text ++ '"' :: rest) location) rest := by
  induction isWritten generalizing location with
  | nil => exact ⟨_, rfl, rfl⟩
  | @plain character text isPlain _ ih =>
    rcases isPlain with ⟨visible, noQuote, noSlash⟩
    have printed : ¬ character.toNat < 0x20 := by omega
    rw [List.cons_append, skipStringCharacters]
    · simp only [noQuote, printed, if_false]
      exact ih _
    · exact noSlash
  | @short mark character text escape _ ih =>
    rcases shortEscape?_of_mem escape with ⟨value, noUnit⟩
    simp only [List.cons_append, skipStringCharacters, value]
    exact ih _
  | @unit digits text value writes _ ih =>
    rcases codeUnit?_of_writesUnit writes with ⟨first, second, third, fourth, rfl, isValue⟩
    simp only [List.cons_append, List.nil_append, skipStringCharacters, isValue]
    exact ih _

theorem stops_skipStringBody {text : List Char} (isWritten : IsWritten text)
    (stands : cursor.rest = text ++ '"' :: rest) : Stops cursor.skipStringBody rest := by
  rw [skipStringBody, stands]
  exact stops_skipStringCharacters isWritten _

end Cursor

/-! ## Values -/

/-- What stands behind the first item of a list: the others, each behind a comma, and the closing
bracket. -/
def trailing (others : List (List Char)) (closing : Char) (rest : List Char) : List Char :=
  others.flatMap (',' :: ·) ++ closing :: rest

@[simp]
theorem trailing_nil (closing : Char) (rest : List Char) :
    trailing [] closing rest = closing :: rest :=
  rfl

@[simp]
theorem trailing_cons (second : List Char) (others : List (List Char)) (closing : Char)
    (rest : List Char) :
    trailing (second :: others) closing rest = ',' :: (second ++ trailing others closing rest) := by
  simp [trailing]

theorem separated_cons_append (first : List Char) (others : List (List Char)) (closing : Char)
    (rest : List Char) :
    separated (first :: others) ++ closing :: rest = first ++ trailing others closing rest := by
  induction others generalizing first with
  | nil => simp [separated]
  | cons second others ih =>
    have shifted := ih second
    unfold separated at shifted ⊢
    rw [List.intercalate_cons_cons, trailing_cons, ← shifted]
    simp

theorem length_le_trailing (others : List (List Char)) (closing : Char) (rest : List Char) :
    others.length ≤ (trailing others closing rest).length := by
  induction others with
  | nil => simp
  | cons second others ih =>
    simp only [trailing_cons, List.length_cons, List.length_append]
    omega

theorem ends_trailing {blank : List Char} (isBlank : IsBlank blank) (others : List (List Char))
    {closing : Char} (closes : closing ∈ [']', '\x7d']) (rest : List Char) :
    Ends (blank ++ trailing others closing rest) := by
  apply ends_of_isBlank isBlank
  cases others with
  | nil =>
    simp only [List.mem_cons, List.not_mem_nil, or_false] at closes
    exact ends_cons (by rcases closes with rfl | rfl <;> simp)
  | cons second others =>
    rw [trailing_cons]
    exact ends_cons (by simp)

theorem visible_of_isDigit {first : Char} (isFirst : first = '-' ∨ first.isDigit = true) :
    Cursor.isSpace first = false ∧ first ∉ [']', '\x7d', '"', '[', '\x7b', 'n', 't', 'f'] := by
  have signs : ∀ character ∈ [' ', '\n', '\t', '\r', ']', '\x7d', '"', '[', '\x7b', 'n', 't', 'f'],
      character ≠ '-' ∧ character.isDigit = false := by simp
  have other : first ∉ [' ', '\n', '\t', '\r', ']', '\x7d', '"', '[', '\x7b', 'n', 't', 'f'] := by
    intro member
    rcases isFirst with rfl | isDigit
    · exact (signs _ member).1 rfl
    · simp [(signs _ member).2] at isDigit
  simp only [List.mem_cons, not_or] at other
  simp [Cursor.isSpace, other]

theorem IsNumber.exists_head {text : List Char} (isNumber : IsNumber text) :
    ∃ first others, text = first :: others ∧ (first = '-' ∨ first.isDigit = true) := by
  cases isNumber with
  | @parts sign whole fraction exponent signed isDigits =>
    simp only [List.mem_cons, List.not_mem_nil, or_false] at signed
    rcases signed with rfl | rfl
    · rcases whole with _ | ⟨digit, others⟩
      · exact absurd rfl isDigits.1
      · exact ⟨digit, _, rfl, .inr (isDigits.2 digit (by simp))⟩
    · exact ⟨'-', _, rfl, .inl rfl⟩

theorem IsValue.exists_head {text : List Char} (isValue : IsValue text) :
    ∃ first others, text = first :: others ∧ Cursor.isSpace first = false ∧
      first ≠ ']' ∧ first ≠ '\x7d' := by
  cases isValue with
  | @word word isWord =>
    simp only [words, List.mem_cons, List.not_mem_nil, or_false] at isWord
    rcases isWord with rfl | rfl | rfl <;> exact ⟨_, _, rfl, by decide⟩
  | number isNumber =>
    rcases isNumber.exists_head with ⟨first, others, rfl, isFirst⟩
    have visible := visible_of_isDigit isFirst
    simp only [List.mem_cons, not_or] at visible
    exact ⟨first, others, rfl, visible.1, visible.2.1, visible.2.2.1⟩
  | string => exact ⟨_, _, rfl, by decide⟩
  | list => exact ⟨_, _, rfl, by decide⟩
  | object => exact ⟨_, _, rfl, by decide⟩

/-- What stands from the value of an item on. -/
def Item.onward (item : Item) (others : List Item) (rest : List Char) : List Char :=
  item.value ++ (item.behind ++ trailing (others.map Item.text) ']' rest)

/-- What stands from the key of a member on. -/
def Member.onward (member : Member) (others : List Member) (rest : List Char) : List Char :=
  '"' :: (member.key ++ '"' :: (member.behind ++
    ':' :: (member.item.text ++ trailing (others.map Member.text) '\x7d' rest)))

namespace Cursor

variable {cursor : Cursor} {rest : List Char} {bound : Nat}

theorem faces_value {blank value : List Char} (stands : cursor.rest = blank ++ (value ++ rest))
    (isBlank : IsBlank blank) (isValue : IsValue value) : cursor.Faces (value ++ rest) := by
  rcases isValue.exists_head with ⟨first, others, rfl, visible, _⟩
  exact faces_of_rest stands isBlank visible

theorem faces_item {blank : List Char} {item : Item} {others : List Item}
    (isBlank : IsBlank blank)
    (stands : cursor.rest = blank ++ (item.text ++ trailing (others.map Item.text) ']' rest))
    (areItems : AreItems (item :: others)) :
    cursor.Faces (item.onward others rest) := by
  rw [Item.text, List.append_assoc, List.append_assoc, ← List.append_assoc blank] at stands
  exact faces_value stands (isBlank.append (areItems.framed item (by simp)).1)
    (areItems.values item (by simp))

theorem faces_member {blank : List Char} {member : Member} {others : List Member}
    (isBlank : IsBlank blank)
    (stands : cursor.rest = blank ++ (member.text ++ trailing (others.map Member.text) '\x7d' rest))
    (areMembers : AreMembers (member :: others)) :
    cursor.Faces (member.onward others rest) := by
  rw [Member.text] at stands
  simp only [List.append_assoc, List.cons_append] at stands
  rw [← List.append_assoc blank] at stands
  exact faces_of_rest stands (isBlank.append (areMembers.framed member (by simp)).before)
    (by decide)

/-- A value that is skipped wherever there are at least as many steps left as it has characters. -/
def Skippable (value : List Char) : Prop :=
  ∀ {cursor : Cursor} {rest : List Char} {bound : Nat}, Ends rest → value.length ≤ bound →
    cursor.Faces (value ++ rest) → Stops (skipValueWithin bound cursor) rest

theorem stops_skipItemsWithin {item : Item} {others : List Item}
    (areItems : AreItems (item :: others))
    (skippable : ∀ listed ∈ item :: others, Skippable listed.value)
    (enough : (item.value ++
      (item.behind ++ trailing (others.map Item.text) ']' [])).length ≤ bound)
    (faces : cursor.Faces (item.onward others rest)) :
    Stops (skipItemsWithin bound cursor) rest := by
  induction others generalizing item cursor bound with
  | nil =>
    simp only [List.map_nil, trailing_nil, List.length_append, List.length_cons] at enough
    rcases bound with _ | bound
    · omega
    have isFramed := areItems.framed item (by simp)
    have room : item.value.length ≤ bound := by omega
    have ends := ends_trailing isFramed.2 [] (by simp : ']' ∈ _) rest
    rcases skippable item (by simp) ends room faces with ⟨behind, skipped, left⟩
    have closing := faces_of_rest left isFramed.2 (by decide)
    simp only [skipItemsWithin, skipped, bind, Except.bind, next?_eq closing]
    exact ⟨_, rfl, rest_advance closing⟩
  | cons second others ih =>
    rw [List.map_cons, trailing_cons] at enough
    simp only [Item.text, List.length_append, List.length_cons] at enough
    rcases bound with _ | bound
    · omega
    have isFramed := areItems.framed item (by simp)
    have room : item.value.length ≤ bound := by omega
    have ends := ends_trailing isFramed.2 ((second :: others).map Item.text) (by simp : ']' ∈ _)
      rest
    rcases skippable item (by simp) ends room faces with ⟨behind, skipped, left⟩
    rw [List.map_cons, trailing_cons] at left
    have comma := faces_of_rest left isFramed.2 (by decide)
    simp only [skipItemsWithin, skipped, bind, Except.bind, next?_eq comma]
    apply ih areItems.tail (List.forall_mem_cons.mp skippable).2
    · simp only [List.length_append]
      omega
    · exact faces_item isBlank_nil (rest_advance comma) areItems.tail

theorem exists_skipped_member {member : Member} {others : List Member}
    (areMembers : AreMembers (member :: others)) (skippable : Skippable member.item.value)
    (enough : member.item.value.length ≤ bound) (faces : cursor.Faces (member.onward others rest)) :
    ∃ colon value behind, cursor.skipSpace.advance.skipStringBody = .ok colon ∧
      colon.Faces (':' :: value) ∧ skipValueWithin bound colon.skipSpace.advance = .ok behind ∧
      behind.rest = member.item.behind ++ trailing (others.map Member.text) '\x7d' rest := by
  have isFramed := areMembers.framed member (by simp)
  have isKey := areMembers.keys member (by simp)
  have isValue := areMembers.values member (by simp)
  rcases stops_skipStringBody isKey (rest_advance faces) with ⟨colon, keySkipped, left⟩
  have facesColon := faces_of_rest left isFramed.behind (by decide)
  have value := rest_advance facesColon
  rw [Item.text, List.append_assoc, List.append_assoc] at value
  have ends := ends_trailing isFramed.item.2 (others.map Member.text) (by simp : '\x7d' ∈ _) rest
  rcases skippable ends enough (faces_value value isFramed.item.1 isValue) with
    ⟨behind, skipped, stands⟩
  exact ⟨colon, _, behind, keySkipped, facesColon, skipped, stands⟩

theorem stops_skipMembersWithin {member : Member} {others : List Member}
    (areMembers : AreMembers (member :: others))
    (skippable : ∀ given ∈ member :: others, Skippable given.item.value)
    (enough : (member.item.text ++ trailing (others.map Member.text) '\x7d' []).length ≤ bound)
    (faces : cursor.Faces (member.onward others rest)) :
    Stops (skipMembersWithin bound cursor) rest := by
  have isFramed := areMembers.framed member (by simp)
  induction others generalizing member cursor bound with
  | nil =>
    simp only [List.map_nil, Item.text, trailing_nil, List.length_append, List.length_cons]
      at enough
    rcases bound with _ | bound
    · omega
    have room : member.item.value.length ≤ bound := by omega
    rcases exists_skipped_member areMembers (skippable member (by simp)) room faces with
      ⟨colon, value, behind, keySkipped, facesColon, skipped, left⟩
    have closing := faces_of_rest left isFramed.item.2 (by decide)
    simp only [skipMembersWithin, next?_eq faces, keySkipped, next?_eq facesColon, skipped, bind,
      Except.bind, next?_eq closing]
    exact ⟨_, rfl, rest_advance closing⟩
  | cons second others ih =>
    rw [List.map_cons, trailing_cons] at enough
    simp only [Item.text, Member.text, List.length_append, List.length_cons] at enough
    rcases bound with _ | bound
    · omega
    have isSecond := areMembers.tail.framed second (by simp)
    have room : member.item.value.length ≤ bound := by omega
    rcases exists_skipped_member areMembers (skippable member (by simp)) room faces with
      ⟨colon, value, behind, keySkipped, facesColon, skipped, left⟩
    rw [List.map_cons, trailing_cons] at left
    have comma := faces_of_rest left isFramed.item.2 (by decide)
    simp only [skipMembersWithin, next?_eq faces, keySkipped, next?_eq facesColon, skipped, bind,
      Except.bind, next?_eq comma]
    apply ih areMembers.tail (List.forall_mem_cons.mp skippable).2 _ _ isSecond
    · simp only [Item.text, List.length_append]
      omega
    · exact faces_member isBlank_nil (rest_advance comma) areMembers.tail

theorem skippable_word {word : String} (isWord : word ∈ words) : Skippable word.toList := by
  intro cursor rest bound _ enough faces
  simp only [words, List.mem_cons, List.not_mem_nil, or_false] at isWord
  rcases isWord with rfl | rfl | rfl
  all_goals
    rcases bound with _ | bound
    · simp at enough
    have letters : cursor.skipSpace.advance.rest = _ ++ rest := rest_advance faces
    simp only [skipValueWithin, next?_eq faces]
    exact stops_word letters

theorem skippable_number {text : List Char} (isNumber : IsNumber text) : Skippable text := by
  intro cursor rest bound ends enough faces
  rcases isNumber.exists_head with ⟨first, others, rfl, isFirst⟩
  rcases bound with _ | bound
  · simp at enough
  have other := (visible_of_isDigit isFirst).2
  simp only [List.mem_cons, not_or] at other
  rw [skipValueWithin]
  simp only [next?_eq (show cursor.skipSpace.rest = first :: (others ++ rest) from faces), isFirst,
    if_true]
  split
  case h_7 => exact stops_skipNumber isNumber ends faces
  all_goals simp at other

theorem skippable_list {blank : List Char} {items : List Item} (isBlank : IsBlank blank)
    (areItems : AreItems items) (skippable : ∀ item ∈ items, Skippable item.value) :
    Skippable (listText blank items) := by
  intro cursor rest bound _ enough faces
  have inside : cursor.skipSpace.advance.rest =
      blank ++ (separated (items.map Item.text) ++ ']' :: rest) := by
    simpa [listText] using rest_advance faces
  rcases bound with _ | bound
  · simp [listText] at enough
  simp only [skipValueWithin, next?_eq faces]
  rcases items with _ | ⟨item, others⟩
  · have closing := faces_of_rest inside isBlank (by decide)
    simp only [next?_eq closing]
    exact ⟨_, rfl, rest_advance closing⟩
  · have length := congrArg List.length
      (separated_cons_append item.text (others.map Item.text) ']' [])
    rw [List.map_cons, separated_cons_append] at inside
    simp only [listText, List.map_cons, Item.text, List.length_append, List.length_cons,
      List.length_nil] at enough length
    have facesItem := faces_item isBlank inside areItems
    rcases (areItems.values item (by simp)).exists_head with ⟨first, text, isText, _, noEnd, _⟩
    have next : cursor.skipSpace.advance.skipSpace.next? = some first := by
      rw [Item.onward, isText] at facesItem
      exact next?_eq facesItem
    simp only [next]
    apply stops_skipItemsWithin areItems skippable _ facesItem.skipSpace
    simp only [List.length_append]
    omega

theorem skippable_object {blank : List Char} {members : List Member} (isBlank : IsBlank blank)
    (areMembers : AreMembers members)
    (skippable : ∀ member ∈ members, Skippable member.item.value) :
    Skippable (objectText blank members) := by
  intro cursor rest bound _ enough faces
  have inside : cursor.skipSpace.advance.rest =
      blank ++ (separated (members.map Member.text) ++ '\x7d' :: rest) := by
    simpa [objectText] using rest_advance faces
  rcases bound with _ | bound
  · simp [objectText] at enough
  simp only [skipValueWithin, next?_eq faces]
  rcases members with _ | ⟨member, others⟩
  · have closing := faces_of_rest inside isBlank (by decide)
    simp only [next?_eq closing]
    exact ⟨_, rfl, rest_advance closing⟩
  · have length := congrArg List.length
      (separated_cons_append member.text (others.map Member.text) '\x7d' [])
    rw [List.map_cons, separated_cons_append] at inside
    simp only [objectText, List.map_cons, Member.text, List.length_append, List.length_cons,
      List.length_nil] at enough length
    have facesMember := faces_member isBlank inside areMembers
    simp only [next?_eq facesMember]
    apply stops_skipMembersWithin areMembers skippable _ facesMember.skipSpace
    simp only [List.length_append]
    omega

theorem skippable_string {text : List Char} (isWritten : IsWritten text) :
    Skippable ('"' :: text ++ ['"']) := by
  intro cursor rest bound _ enough faces
  rcases bound with _ | bound
  · simp at enough
  have body : cursor.skipSpace.advance.rest = text ++ '"' :: rest := by
    simpa using rest_advance faces
  simp only [skipValueWithin, next?_eq faces]
  exact stops_skipStringBody isWritten body

/-- Whatever `IsValue` is `Skippable`. -/
theorem skippable_of_isValue {value : List Char} (isValue : IsValue value) : Skippable value := by
  induction isValue with
  | word isWord => exact skippable_word isWord
  | number isNumber => exact skippable_number isNumber
  | string isWritten => exact skippable_string isWritten
  | list isBlank framed values ih => exact skippable_list isBlank ⟨framed, values⟩ ih
  | object isBlank framed keys values ih => exact skippable_object isBlank ⟨framed, keys, values⟩ ih

/-- `skipValue` passes over what `IsValue`, and what stands behind it is left. -/
theorem stops_skipValue {value : List Char} (isValue : IsValue value) (ends : Ends rest)
    (faces : cursor.Faces (value ++ rest)) : Stops cursor.skipValue rest := by
  apply skippable_of_isValue isValue ends _ faces
  have shorter : (value ++ rest).length ≤ cursor.rest.length := by
    rw [← faces, rest_skipSpace]
    exact List.length_dropWhile_le isSpace cursor.rest
  rw [List.length_append] at shorter
  omega

end Cursor

end MailSpool.Json
