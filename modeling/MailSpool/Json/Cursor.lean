/-!
# A place in a text

Reading keeps the characters still to come and the location reached. A location has a line,
counted from one, and a column, which is the number of bytes read in that line. A fault that lies
in the next character is located just behind its first byte.
-/

namespace MailSpool.Json

/-- A location in a text. -/
structure Location where
  line : Nat
  column : Nat
  deriving DecidableEq, Repr

namespace Location

def start : Location := ⟨1, 0⟩

def after (location : Location) (character : Char) : Location :=
  if character = '\n' then ⟨location.line + 1, 0⟩
  else ⟨location.line, location.column + character.utf8Size⟩

/-- The location behind the first `count` bytes of a text, or behind all of it if it is shorter. -/
def afterBytes (location : Location) : List Char → Nat → Location
  | [], _ => location
  | character :: rest, count =>
    if count = 0 then location
    else if character.utf8Size ≤ count then
      (location.after character).afterBytes rest (count - character.utf8Size)
    else ⟨location.line, location.column + count⟩

end Location

/-- The characters still to be read and the location reached. -/
structure Cursor where
  rest : List Char
  location : Location
  deriving DecidableEq, Repr

namespace Cursor

def start (text : String) : Cursor :=
  ⟨text.toList, Location.start⟩

def next? (cursor : Cursor) : Option Char :=
  cursor.rest.head?

def advance (cursor : Cursor) : Cursor :=
  match cursor.rest with
  | [] => cursor
  | character :: rest => ⟨rest, cursor.location.after character⟩

def ahead (cursor : Cursor) : Location :=
  cursor.location.afterBytes cursor.rest 1

/-- The longest run of characters in a class, and the cursor behind it. -/
def span (inClass : Char → Bool) (rest : List Char) (location : Location) :
    List Char × Cursor :=
  match rest with
  | [] => ([], ⟨[], location⟩)
  | character :: others =>
    if inClass character then
      let (run, cursor) := span inClass others (location.after character)
      (character :: run, cursor)
    else
      ([], ⟨character :: others, location⟩)

/-- The longest run of characters in a class from a cursor on, and the cursor behind it. -/
def run (cursor : Cursor) (inClass : Char → Bool) : List Char × Cursor :=
  span inClass cursor.rest cursor.location

def isSpace (character : Char) : Bool :=
  character = ' ' || character = '\n' || character = '\t' || character = '\r'

def skipSpace (cursor : Cursor) : Cursor :=
  (cursor.run isSpace).2

end Cursor

end MailSpool.Json
