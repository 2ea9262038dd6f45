import MailSpool.RecordLock
import MailSpool.Text.Blank

/-!
# The owner in a lock file

A lock file tells in its first line which process owns the lock. Only a line that is a positive
number within 31 bits, perhaps between blanks and behind a plus sign, tells an owner; a file with
any other content, or with content that is not text, tells none.
-/

namespace MailSpool

def ownerRecord (owner : UInt32) : ByteArray :=
  (toString owner.toNat ++ "\n").toUTF8

def ownerLimit : Nat := 2147483647

/-- The number that decimal digits denote. There must be a digit, and nothing else. -/
def decimal? (digits : List Char) : Option Nat :=
  if digits.isEmpty || digits.any fun digit => !digit.isDigit then none
  else some (digits.foldl (fun value digit => 10 * value + (digit.toNat - '0'.toNat)) 0)

def withoutPlus : List Char → List Char
  | '+' :: rest => rest
  | text => text

def ownerOfLine (line : List Char) : Option ProcessId :=
  (decimal? (withoutPlus (Text.trim line))).filter fun owner => 0 < owner && owner ≤ ownerLimit

def ownerOfContent (content : ByteArray) : Option ProcessId :=
  (String.fromUTF8? content).bind fun text =>
    ownerOfLine (text.toList.takeWhile fun character => character ≠ '\n')

end MailSpool
