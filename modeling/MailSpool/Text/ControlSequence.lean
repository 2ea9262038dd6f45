/-!
# Control sequences

What is left of a text when the control characters and the sequences by which a terminal is
controlled are taken out of it. A sequence starts with the escape character and is known by the
characters behind it; one that is not ended takes the rest of the text. The control characters
that part words and lines are kept.
-/

namespace MailSpool.Text

/-- What the characters read so far are part of. -/
inductive ControlState where
  /-- No sequence. -/
  | plain
  /-- A sequence of which only the escape character was read. -/
  | escape
  /-- A sequence that goes on up to a letter, a digit or a sign that is not an intermediate one. -/
  | intermediate
  /-- A sequence with parameters, up to a letter or a sign that is no part of a number. -/
  | parameters
  /-- A command to the system, up to a bell. -/
  | command
  /-- A string for a device or a program, up to the control character for the end of a string. -/
  | string
  /-- A sequence in which a control character that is kept has come. What follows is kept too, up
  to the next control character, with which the sequence goes on. -/
  | interrupted (sequence : ControlState)
  deriving DecidableEq, Repr

/-- Whether a control character parts words or lines. -/
def isKeptControl (character : Char) : Bool :=
  character = '\t' || character = '\n' || character = '\x0c' || character = '\r'

/-- Whether a character is kept where it is part of no sequence. -/
def isKeptPlain (character : Char) : Bool :=
  isKeptControl character || (' ' ≤ character && character ≠ '\x7f')

def liesWithin (first last character : Char) : Bool :=
  first ≤ character && character ≤ last

def stringEnd : UInt8 := 0x9C

namespace ControlState

def behindEscape (character : Char) : ControlState :=
  if character = '[' then .parameters
  else if character = ']' then .command
  else if ['P', 'X', '^', '_'].contains character then .string
  else if liesWithin ' ' '/' character then .intermediate
  else if liesWithin '0' '~' character then .plain
  else .escape

def step (state : ControlState) (character : Char) : ControlState × Bool :=
  if character = '\x1b' then (.escape, false)
  else if character = '\x18' || character = '\x1a' then (.plain, false)
  else
    match state with
    | .plain => (.plain, isKeptPlain character)
    | .escape =>
      if isKeptControl character then (.interrupted .escape, true)
      else (behindEscape character, false)
    | .intermediate =>
      if isKeptControl character then (.interrupted .intermediate, true)
      else if liesWithin '0' '~' character then (.plain, false)
      else (.intermediate, false)
    | .parameters =>
      if isKeptControl character then (.interrupted .parameters, true)
      else if liesWithin '@' '~' character then (.plain, false)
      else (.parameters, false)
    | .command => (if character = '\x07' then .plain else .command, false)
    | .string =>
      (if (String.utf8EncodeChar character).contains stringEnd then .plain else .string, false)
    | .interrupted sequence =>
      if '\x7f' < character then (.plain, true)
      else if isKeptPlain character then (.interrupted sequence, true)
      else (sequence, false)

end ControlState

def keptFrom : ControlState → List Char → List Char
  | _, [] => []
  | state, character :: rest =>
    let (next, isKept) := state.step character
    if isKept then character :: keptFrom next rest else keptFrom next rest

def withoutControls (text : String) : String :=
  String.ofList (keptFrom .plain text.toList)

end MailSpool.Text
