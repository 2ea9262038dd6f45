import MailSpool.Text.Hidden

/-!
# Quoted text

How a text is shown inside a message: between double quotes, with the usual short escapes, and
with every hidden character written as its code point. Two different texts never look the same.
-/

namespace MailSpool.Text

def hexadecimal (number : Nat) : String :=
  String.ofList (Nat.toDigits 16 number)

def quotedCharacter (character : Char) : String :=
  match character with
  | '\x00' => "\\0"
  | '\t' => "\\t"
  | '\n' => "\\n"
  | '\r' => "\\r"
  | '"' => "\\\""
  | '\\' => "\\\\"
  | _ =>
    if isHidden character then
      "\\u\x7b" ++ hexadecimal character.toNat ++ "\x7d"
    else
      character.toString

/-- A text between double quotes, with its quotes, backslashes and hidden characters escaped. -/
def quoted (text : String) : String :=
  "\"" ++ String.join (text.toList.map quotedCharacter) ++ "\""

end MailSpool.Text
