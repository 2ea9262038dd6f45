/-!
# Blank characters

The characters with the Unicode property `White_Space`, and trimming them from both ends of a
text.
-/

namespace MailSpool.Text

/-- The blank characters, as ranges given by their first and last code point. -/
def blankRanges : List (Nat × Nat) := [
  (0x09, 0x0D), (0x20, 0x20), (0x85, 0x85), (0xA0, 0xA0), (0x1680, 0x1680), (0x2000, 0x200A),
  (0x2028, 0x2029), (0x202F, 0x202F), (0x205F, 0x205F), (0x3000, 0x3000)]

def isBlank (character : Char) : Bool :=
  blankRanges.any fun (first, last) => first ≤ character.toNat && character.toNat ≤ last

/-- A text without the blanks before its first and after its last other character. -/
def trim (text : List Char) : List Char :=
  ((text.dropWhile isBlank).reverse.dropWhile isBlank).reverse

@[simp]
theorem trim_nil : trim [] = [] := rfl

/-- A text that neither starts nor ends with a blank is its own `trim`. -/
theorem trim_eq_self {text : List Char}
    (first : ∀ character ∈ text.head?, isBlank character = false)
    (last : ∀ character ∈ text.getLast?, isBlank character = false) : trim text = text := by
  have keepsFront : text.dropWhile isBlank = text := by
    cases text with
    | nil => rfl
    | cons character rest => simp [first character (by simp)]
  have keepsBack : text.reverse.dropWhile isBlank = text.reverse := by
    cases reversed : text.reverse with
    | nil => rfl
    | cons character rest =>
      have atEnd : character ∈ text.getLast? := by
        rw [← List.head?_reverse, reversed]
        simp
      simp [last character atEnd]
  rw [trim, keepsFront, keepsBack, List.reverse_reverse]

end MailSpool.Text
