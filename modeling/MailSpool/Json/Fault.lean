import MailSpool.Json.Cursor
import MailSpool.Json.Number
import MailSpool.Text.Quoted

/-!
# Faults in a text

Why a text cannot be read as the value asked for: it is not well formed, or it holds another kind
of value, a value out of range, a field twice, or a name that is not one of those known.
-/

namespace MailSpool.Json

/-- What stands where something else was expected. -/
inductive Found where
  | null
  | boolean (value : Bool)
  | number (value : Number)
  | string (text : String)
  | sequence
  | map
  deriving DecidableEq, Repr

def Found.message : Found → String
  | null => "null"
  | boolean value => "boolean `" ++ toString value ++ "`"
  | number value => value.message
  | string text => "string " ++ Text.quoted text
  | sequence => "sequence"
  | map => "map"

/-- What is wrong with a text. -/
inductive Problem where
  | endInList
  | endInObject
  | endInString
  | endInValue
  | expectedColon
  | expectedListEnd
  | expectedObjectEnd
  | expectedWord
  | expectedValue
  | invalidEscape
  | invalidNumber
  | numberOutOfRange
  | controlCharacter
  | keyNotString
  | loneSurrogate
  | surrogateCutShort
  | trailingComma
  | trailingCharacters
  | invalidType (found : Found) (expected : String)
  | invalidValue (found : Found) (expected : String)
  | duplicateField (name : String)
  | unknownName (name : String) (known : List String)
  deriving DecidableEq, Repr

/-- Names between backquotes, as a choice: two joined by a word, more as a list. -/
def choice : List String → String
  | [] => "there are no variants"
  | [only] => "expected `" ++ only ++ "`"
  | [first, second] => "expected `" ++ first ++ "` or `" ++ second ++ "`"
  | first :: others =>
    "expected one of `" ++ first ++ "`" ++ String.join (others.map fun name => ", `" ++ name ++ "`")

def Problem.message : Problem → String
  | endInList => "EOF while parsing a list"
  | endInObject => "EOF while parsing an object"
  | endInString => "EOF while parsing a string"
  | endInValue => "EOF while parsing a value"
  | expectedColon => "expected `:`"
  | expectedListEnd => "expected `,` or `]`"
  | expectedObjectEnd => "expected `,` or `\x7d`"
  | expectedWord => "expected ident"
  | expectedValue => "expected value"
  | invalidEscape => "invalid escape"
  | invalidNumber => "invalid number"
  | numberOutOfRange => "number out of range"
  | controlCharacter => "control character (\\u0000-\\u001F) found while parsing a string"
  | keyNotString => "key must be a string"
  | loneSurrogate => "lone leading surrogate in hex escape"
  | surrogateCutShort => "unexpected end of hex escape"
  | trailingComma => "trailing comma"
  | trailingCharacters => "trailing characters"
  | invalidType found expected => "invalid type: " ++ found.message ++ ", expected " ++ expected
  | invalidValue found expected => "invalid value: " ++ found.message ++ ", expected " ++ expected
  | duplicateField name => "duplicate field `" ++ name ++ "`"
  | unknownName name known => "unknown variant `" ++ name ++ "`, " ++ choice known

/-- A problem and where it was met. -/
structure Fault where
  problem : Problem
  location : Location
  deriving DecidableEq, Repr

def Fault.message (fault : Fault) : String :=
  fault.problem.message ++ " at line " ++ toString fault.location.line ++ " column " ++
    toString fault.location.column

namespace Cursor

def fault (cursor : Cursor) (problem : Problem) : Fault :=
  ⟨problem, cursor.location⟩

def faultAhead (cursor : Cursor) (problem : Problem) : Fault :=
  ⟨problem, cursor.ahead⟩

end Cursor

end MailSpool.Json
