import MailSpool.Text.Quoted

/-!
# Writing values

Values are written without any space, the members of an object in the order they are given. In a
string the quote, the backslash and the control characters are escaped, and all else is written as
it is.
-/

namespace MailSpool.Json

/-- A value to be written. -/
inductive Value where
  | boolean (value : Bool)
  | whole (value : Int)
  | string (text : String)
  | object (members : List (String × Value))

namespace Value

def writtenCharacter (character : Char) : List Char :=
  match character with
  | '"' => ['\\', '"']
  | '\\' => ['\\', '\\']
  | '\x08' => ['\\', 'b']
  | '\x0c' => ['\\', 'f']
  | '\n' => ['\\', 'n']
  | '\r' => ['\\', 'r']
  | '\t' => ['\\', 't']
  | _ =>
    if character.toNat < 0x20 then
      ['\\', 'u', '0', '0', Nat.digitChar (character.toNat / 16),
        Nat.digitChar (character.toNat % 16)]
    else [character]

def writtenString (text : String) : List Char :=
  '"' :: text.toList.flatMap writtenCharacter ++ ['"']

mutual

def characters : Value → List Char
  | boolean true => "true".toList
  | boolean false => "false".toList
  | whole value => (toString value).toList
  | string text => writtenString text
  | object members => '\x7b' :: memberCharacters true members ++ ['\x7d']

/-- The characters of members of an object, with a comma before each but the first one. -/
def memberCharacters (isFirst : Bool) : List (String × Value) → List Char
  | [] => []
  | (key, value) :: others =>
    (if isFirst then [] else [',']) ++ writtenString key ++ ':' :: characters value ++
      memberCharacters false others

end

def render (value : Value) : String :=
  String.ofList value.characters

end Value

end MailSpool.Json
