import Mathlib.Data.List.DropRight
import MailSpool.Proofs.Json.Grammar

/-!
# What a cursor faces

Blanks, digits and the ends of numbers in a text, and what is left of it when a cursor moves on.
Readings are told by the text that they leave; the locations that go with it matter for faults
only.
-/

namespace MailSpool.Json

/-! ## Blanks and ends -/

theorem isBlank_nil : IsBlank [] :=
  List.nil_subset _

theorem IsBlank.append {left right : List Char} (isLeft : IsBlank left) (isRight : IsBlank right) :
    IsBlank (left ++ right) :=
  List.append_subset.mpr ⟨isLeft, isRight⟩

theorem isSpace_of_mem_blanks {character : Char} (member : character ∈ blanks) :
    Cursor.isSpace character = true := by
  simp only [blanks, List.mem_cons, List.not_mem_nil, or_false] at member
  rcases member with rfl | rfl | rfl | rfl <;> rfl

def NoDigit (rest : List Char) : Prop :=
  ∀ first, rest.head? = some first → first.isDigit = false

/-- What stands behind a number without continuing it. -/
def Ends (rest : List Char) : Prop :=
  ∀ first, rest.head? = some first → first.isDigit = false ∧ first ∉ ['.', 'e', 'E']

theorem Ends.noDigit {rest : List Char} (ends : Ends rest) : NoDigit rest :=
  fun first isFirst => (ends first isFirst).1

theorem ends_cons {first : Char} {rest : List Char}
    (closing : first ∈ ',' :: ']' :: '\x7d' :: blanks) : Ends (first :: rest) := by
  have stays : ∀ character ∈ ',' :: ']' :: '\x7d' :: blanks,
      character.isDigit = false ∧ character ∉ ['.', 'e', 'E'] := by simp [blanks]
  intro found isFound
  obtain rfl : first = found := by simpa using isFound
  exact stays first closing

theorem ends_of_isBlank {blank rest : List Char} (isBlank : IsBlank blank) (ends : Ends rest) :
    Ends (blank ++ rest) := by
  cases blank with
  | nil => exact ends
  | cons first others =>
    have isFirst : first ∈ blanks := isBlank (by simp)
    exact ends_cons (by simp [isFirst])

namespace Cursor

variable {cursor : Cursor} {first : Char} {rest text blank : List Char}

/-! ## Cursors -/

theorem next?_eq (stands : cursor.rest = first :: rest) : cursor.next? = some first := by
  simp [next?, stands]

theorem rest_advance (stands : cursor.rest = first :: rest) : cursor.advance.rest = rest := by
  simp [advance, stands]

theorem span_eq (inClass : Char → Bool) (rest : List Char) (location : Location) :
    (span inClass rest location).1 = rest.takeWhile inClass ∧
      (span inClass rest location).2.rest = rest.dropWhile inClass := by
  induction rest generalizing location with
  | nil => exact ⟨rfl, rfl⟩
  | cons character others ih =>
    unfold span
    cases inside : inClass character <;> simp [inside, ih]

theorem run_eq (cursor : Cursor) (inClass : Char → Bool) :
    (cursor.run inClass).1 = cursor.rest.takeWhile inClass ∧
      (cursor.run inClass).2.rest = cursor.rest.dropWhile inClass :=
  span_eq inClass cursor.rest cursor.location

theorem run_isDigit {digits : List Char} (isDigits : ∀ digit ∈ digits, digit.isDigit = true)
    (noDigit : NoDigit rest) (stands : cursor.rest = digits ++ rest) :
    (cursor.run Char.isDigit).1 = digits ∧ (cursor.run Char.isDigit).2.rest = rest := by
  rcases cursor.run_eq Char.isDigit with ⟨taken, left⟩
  rw [stands, List.takeWhile_append_of_pos isDigits] at taken
  rw [stands, List.dropWhile_append_of_pos isDigits] at left
  cases rest with
  | nil => exact ⟨by simpa using taken, left⟩
  | cons first others =>
    have ended : first.isDigit = false := noDigit first rfl
    exact ⟨by simpa [ended] using taken, by simpa [ended] using left⟩

/-- Behind blanks, if there are any, a text comes next. -/
def Faces (cursor : Cursor) (text : List Char) : Prop :=
  cursor.skipSpace.rest = text

theorem rest_skipSpace (cursor : Cursor) :
    cursor.skipSpace.rest = cursor.rest.dropWhile isSpace :=
  (cursor.run_eq isSpace).2

theorem faces_of_rest (stands : cursor.rest = blank ++ first :: rest) (isBlank : IsBlank blank)
    (visible : isSpace first = false) : cursor.Faces (first :: rest) := by
  have spaces : ∀ character ∈ blank, isSpace character = true :=
    fun character member => isSpace_of_mem_blanks (isBlank member)
  rw [Faces, rest_skipSpace, stands, List.dropWhile_append_of_pos spaces]
  simp [visible]

theorem Faces.skipSpace (faces : cursor.Faces text) : cursor.skipSpace.Faces text := by
  rw [Faces, rest_skipSpace, rest_skipSpace, List.dropWhile_idempotent]
  exact cursor.rest_skipSpace.symm.trans faces

end Cursor

end MailSpool.Json
