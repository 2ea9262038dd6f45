import MailSpool.Json.Scalar

/-!
# The form of a value

What a well-formed value is, apart from any reader. A string is spelled by its characters as they
are or by escapes; an escape by a code unit may name half of a surrogate pair, and then the text is
well formed but spells no string unless the other half follows at once. Blanks may stand around
every value, around the key of a member and nowhere else.
-/

namespace MailSpool.Json

def blanks : List Char := [' ', '\t', '\n', '\r']

def IsBlank (text : List Char) : Prop :=
  text ⊆ blanks

instance (text : List Char) : Decidable (IsBlank text) :=
  List.decidableBAll (fun character => character ∈ blanks) text

/-! ## Strings -/

/-- The characters that are escaped by one mark, with their marks in front. -/
def shortEscapes : List (Char × Char) :=
  [('"', '"'), ('\\', '\\'), ('/', '/'), ('b', '\x08'), ('f', '\x0c'), ('n', '\n'), ('r', '\r'),
    ('t', '\t')]

def hexadecimalDigits : List (Char × Nat) :=
  [('0', 0), ('1', 1), ('2', 2), ('3', 3), ('4', 4), ('5', 5), ('6', 6), ('7', 7), ('8', 8),
    ('9', 9), ('a', 10), ('b', 11), ('c', 12), ('d', 13), ('e', 14), ('f', 15), ('A', 10),
    ('B', 11), ('C', 12), ('D', 13), ('E', 14), ('F', 15)]

/-- Four digits and the code unit that they write. -/
inductive WritesUnit : List Char → Nat → Prop where
  | digits {first second third fourth : Char} {a b c d : Nat} :
      (first, a) ∈ hexadecimalDigits → (second, b) ∈ hexadecimalDigits →
      (third, c) ∈ hexadecimalDigits → (fourth, d) ∈ hexadecimalDigits →
      WritesUnit [first, second, third, fourth] (((a * 16 + b) * 16 + c) * 16 + d)

def IsSurrogate (unit : Nat) : Prop :=
  0xD800 ≤ unit ∧ unit ≤ 0xDFFF

instance (unit : Nat) : Decidable (IsSurrogate unit) :=
  inferInstanceAs (Decidable (_ ∧ _))

/-- A character that stands in a string for itself. -/
def IsPlain (character : Char) : Prop :=
  0x20 ≤ character.toNat ∧ character ≠ '"' ∧ character ≠ '\\'

instance (character : Char) : Decidable (IsPlain character) :=
  inferInstanceAs (Decidable (_ ∧ _ ∧ _))

/-- What may stand between the quotes of a string. -/
inductive IsWritten : List Char → Prop where
  | nil : IsWritten []
  | plain {character : Char} {text : List Char} :
      IsPlain character → IsWritten text → IsWritten (character :: text)
  | short {mark character : Char} {text : List Char} :
      (mark, character) ∈ shortEscapes → IsWritten text → IsWritten ('\\' :: mark :: text)
  | unit {digits text : List Char} {value : Nat} :
      WritesUnit digits value → IsWritten text → IsWritten ('\\' :: 'u' :: digits ++ text)

/-- What stands between the quotes of a string, and the characters of the string. -/
inductive Spells : List Char → List Char → Prop where
  | nil : Spells [] []
  | plain {character : Char} {text characters : List Char} :
      IsPlain character → Spells text characters →
      Spells (character :: text) (character :: characters)
  | short {mark character : Char} {text characters : List Char} :
      (mark, character) ∈ shortEscapes → Spells text characters →
      Spells ('\\' :: mark :: text) (character :: characters)
  | unit {digits text characters : List Char} {value : Nat} :
      WritesUnit digits value → ¬ IsSurrogate value → Spells text characters →
      Spells ('\\' :: 'u' :: digits ++ text) (Char.ofNat value :: characters)
  | pair {first second text characters : List Char} {high low : Nat} :
      WritesUnit first (0xD800 + high) → high < 0x400 →
      WritesUnit second (0xDC00 + low) → low < 0x400 → Spells text characters →
      Spells ('\\' :: 'u' :: first ++ ('\\' :: 'u' :: second ++ text))
        (Char.ofNat (0x10000 + high * 0x400 + low) :: characters)

theorem Spells.isWritten {text characters : List Char} (spells : Spells text characters) :
    IsWritten text := by
  induction spells with
  | nil => exact .nil
  | plain isPlain _ others => exact .plain isPlain others
  | short escape _ others => exact .short escape others
  | unit writes _ _ others => exact .unit writes others
  | pair first _ second _ _ others => exact .unit first (.unit second others)

theorem spells_of_isPlain {text : List Char} (plain : text.all fun letter => IsPlain letter) :
    Spells text text := by
  induction text with
  | nil => exact .nil
  | cons character others ih =>
    rw [List.all_cons, Bool.and_eq_true, decide_eq_true_iff] at plain
    exact .plain plain.1 (ih plain.2)

/-! ## Numbers -/

def IsDigits (text : List Char) : Prop :=
  text ≠ [] ∧ ∀ digit ∈ text, digit.isDigit = true

inductive IsFraction : List Char → Prop where
  | none : IsFraction []
  | digits {text : List Char} : IsDigits text → IsFraction ('.' :: text)

inductive IsExponent : List Char → Prop where
  | none : IsExponent []
  | digits {mark : Char} {sign text : List Char} :
      mark = 'e' ∨ mark = 'E' → sign ∈ [[], ['+'], ['-']] → IsDigits text →
      IsExponent (mark :: sign ++ text)

/-- A number has digits without a needless zero in front, and may have a minus, a fraction and an
exponent. -/
inductive IsNumber : List Char → Prop where
  | parts {sign whole fraction exponent : List Char} :
      sign ∈ [[], ['-']] → IsDigits whole → (∀ others, whole = '0' :: others → others = []) →
      IsFraction fraction → IsExponent exponent → IsNumber (sign ++ whole ++ fraction ++ exponent)

/-! ## Values -/

/-- A value with the blanks around it. -/
structure Item where
  before : List Char
  value : List Char
  behind : List Char

namespace Item

def text (item : Item) : List Char :=
  item.before ++ item.value ++ item.behind

def IsFramed (item : Item) : Prop :=
  IsBlank item.before ∧ IsBlank item.behind

instance (item : Item) : Decidable item.IsFramed :=
  inferInstanceAs (Decidable (_ ∧ _))

end Item

/-- A key with the blanks around it, and the value that belongs to it. -/
structure Member where
  before : List Char
  key : List Char
  behind : List Char
  item : Item

namespace Member

def text (member : Member) : List Char :=
  member.before ++ '"' :: member.key ++ '"' :: member.behind ++ ':' :: member.item.text

structure IsFramed (member : Member) : Prop where
  before : IsBlank member.before
  behind : IsBlank member.behind
  item : member.item.IsFramed

end Member

def separated (texts : List (List Char)) : List Char :=
  [','].intercalate texts

/-- A list; the blanks count where it has no items. -/
def listText (blank : List Char) (items : List Item) : List Char :=
  '[' :: blank ++ separated (items.map Item.text) ++ [']']

def objectText (blank : List Char) (members : List Member) : List Char :=
  '\x7b' :: blank ++ separated (members.map Member.text) ++ ['\x7d']

def words : List String := ["null", "true", "false"]

inductive IsValue : List Char → Prop where
  | word {text : String} : text ∈ words → IsValue text.toList
  | number {text : List Char} : IsNumber text → IsValue text
  | string {text : List Char} : IsWritten text → IsValue ('"' :: text ++ ['"'])
  | list {blank : List Char} {items : List Item} :
      IsBlank blank → (∀ item ∈ items, item.IsFramed) → (∀ item ∈ items, IsValue item.value) →
      IsValue (listText blank items)
  | object {blank : List Char} {members : List Member} :
      IsBlank blank → (∀ member ∈ members, member.IsFramed) →
      (∀ member ∈ members, IsWritten member.key) →
      (∀ member ∈ members, IsValue member.item.value) → IsValue (objectText blank members)

/-- What a well-formed list is made of. -/
structure AreItems (items : List Item) : Prop where
  framed : ∀ item ∈ items, item.IsFramed
  values : ∀ item ∈ items, IsValue item.value

/-- What a well-formed object is made of. -/
structure AreMembers (members : List Member) : Prop where
  framed : ∀ member ∈ members, member.IsFramed
  keys : ∀ member ∈ members, IsWritten member.key
  values : ∀ member ∈ members, IsValue member.item.value

theorem AreItems.tail {item : Item} {others : List Item} (areItems : AreItems (item :: others)) :
    AreItems others :=
  ⟨(List.forall_mem_cons.mp areItems.framed).2, (List.forall_mem_cons.mp areItems.values).2⟩

theorem AreMembers.tail {member : Member} {others : List Member}
    (areMembers : AreMembers (member :: others)) : AreMembers others :=
  ⟨(List.forall_mem_cons.mp areMembers.framed).2, (List.forall_mem_cons.mp areMembers.keys).2,
    (List.forall_mem_cons.mp areMembers.values).2⟩

theorem isValue_listText {blank : List Char} {items : List Item} (isBlank : IsBlank blank)
    (areItems : AreItems items) : IsValue (listText blank items) :=
  .list isBlank areItems.framed areItems.values

theorem isValue_objectText {blank : List Char} {members : List Member} (isBlank : IsBlank blank)
    (areMembers : AreMembers members) : IsValue (objectText blank members) :=
  .object isBlank areMembers.framed areMembers.keys areMembers.values

end MailSpool.Json
