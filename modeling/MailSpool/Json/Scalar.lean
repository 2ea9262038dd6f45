import MailSpool.Json.Fault

/-!
# Words, numbers and strings

The parts of a value that hold no other values. Each reader starts at a cursor and gives what it
read and the cursor behind it, or the first fault it meets. A part can also be skipped, which
checks its form alone: a skipped number may be out of range, and a skipped string may name half of
a surrogate pair.
-/

namespace MailSpool.Json

namespace Cursor

def word : List Char → Cursor → Except Fault Cursor
  | [], cursor => .ok cursor
  | expected :: others, cursor =>
    match cursor.next? with
    | none => .error (cursor.fault .endInValue)
    | some found =>
      if found = expected then word others cursor.advance
      else .error (cursor.faultAhead .expectedWord)

def isExponentMark (character : Char) : Bool :=
  character = 'e' || character = 'E'

/-- The number with a significand and an exponent, once its last character has been read. -/
def floatingNumber (negative : Bool) (significand : Nat) (exponent : Int) (cursor : Cursor) :
    Except Fault (Number × Cursor) :=
  match Number.scaled significand exponent with
  | some magnitude => .ok (.floating negative magnitude, cursor)
  | none => .error (cursor.fault .numberOutOfRange)

/-- The greatest exponent that is taken into account. -/
def exponentLimit : Nat := 2147483648

/-- The value of the digits of an exponent, or the location behind the digit that takes it to the
limit. -/
def exponentValue (value : Nat) (location : Location) : List Char → Except Location Nat
  | [] => .ok value
  | digit :: others =>
    let next := value * 10 + (digit.toNat - '0'.toNat)
    if next < exponentLimit then exponentValue next (location.after digit) others
    else .error (location.after digit)

/-- The cursor behind the sign of an exponent, and whether the exponent is negative. -/
def exponentSign (cursor : Cursor) : Bool × Cursor :=
  match cursor.next? with
  | some '+' => (false, cursor.advance)
  | some '-' => (true, cursor.advance)
  | _ => (false, cursor)

def exponentPart (negative : Bool) (significand : Nat) (exponent : Int) (cursor : Cursor) :
    Except Fault (Number × Cursor) :=
  let (shrinks, cursor) := cursor.exponentSign
  match cursor.next? with
  | none => .error (cursor.fault .endInValue)
  | some first =>
    if first.isDigit then
      let (digits, behind) := cursor.run Char.isDigit
      match exponentValue 0 cursor.location digits with
      | .ok value =>
        floatingNumber negative significand
          (if shrinks then exponent - value else exponent + value) behind
      | .error location =>
        if significand ≠ 0 ∧ !shrinks then .error ⟨.numberOutOfRange, location⟩
        else .ok (.floating negative Decimal.Binary64.zero, behind)
    else
      .error (cursor.faultAhead .invalidNumber)

def fractionPart (negative : Bool) (significand : Nat) (exponent : Int) (cursor : Cursor) :
    Except Fault (Number × Cursor) :=
  let (digits, behind) := cursor.run Char.isDigit
  if digits.isEmpty then
    match cursor.next? with
    | none => .error (cursor.fault .endInValue)
    | some _ => .error (cursor.faultAhead .invalidNumber)
  else
    let (significand, taken) := Number.absorb significand digits
    let exponent := exponent - taken
    match behind.next? with
    | some mark =>
      if isExponentMark mark then exponentPart negative significand exponent behind.advance
      else floatingNumber negative significand exponent behind
    | none => floatingNumber negative significand exponent behind

/-- A whole number, or floating point where its sign does not leave it among the whole ones. -/
def wholeNumber (negative : Bool) (significand : Nat) (cursor : Cursor) :
    Except Fault (Number × Cursor) :=
  if !negative then .ok (.whole significand, cursor)
  else if significand ≠ 0 ∧ significand ≤ 9223372036854775808 then
    .ok (.whole (-significand), cursor)
  else floatingNumber true significand 0 cursor

def unsignedNumber (negative : Bool) (cursor : Cursor) : Except Fault (Number × Cursor) :=
  match cursor.next? with
  | none => .error (cursor.fault .endInValue)
  | some first =>
    if first.isDigit then
      let (digits, behind) := cursor.run Char.isDigit
      if first = '0' ∧ digits.length ≠ 1 then
        .error (cursor.advance.faultAhead .invalidNumber)
      else
        let (significand, taken) := Number.absorb 0 digits
        let exponent : Int := digits.length - taken
        match behind.next? with
        | some '.' => fractionPart negative significand exponent behind.advance
        | some mark =>
          if isExponentMark mark then exponentPart negative significand exponent behind.advance
          else if exponent = 0 then wholeNumber negative significand behind
          else floatingNumber negative significand exponent behind
        | none =>
          if exponent = 0 then wholeNumber negative significand behind
          else floatingNumber negative significand exponent behind
    else
      .error (cursor.faultAhead .invalidNumber)

def number (cursor : Cursor) : Except Fault (Number × Cursor) :=
  if cursor.next? = some '-' then unsignedNumber true cursor.advance
  else unsignedNumber false cursor

/-- The cursor behind the digits of an exponent that is skipped, behind the mark. -/
def skipExponent (cursor : Cursor) : Except Fault Cursor :=
  let (_, cursor) := cursor.exponentSign
  let (digits, behind) := cursor.run Char.isDigit
  if digits.isEmpty then .error (cursor.faultAhead .invalidNumber) else .ok behind

def skipOptionalExponent (cursor : Cursor) : Except Fault Cursor :=
  match cursor.next? with
  | some mark => if isExponentMark mark then skipExponent cursor.advance else .ok cursor
  | none => .ok cursor

def skipUnsignedNumber (cursor : Cursor) : Except Fault Cursor :=
  let (digits, behind) := cursor.run Char.isDigit
  match digits with
  | [] => .error (cursor.faultAhead .invalidNumber)
  | first :: others =>
    if first = '0' ∧ others ≠ [] then .error (cursor.advance.faultAhead .invalidNumber)
    else if behind.next? = some '.' then
      let point := behind.advance
      let (fraction, behind) := point.run Char.isDigit
      if fraction.isEmpty then .error (point.faultAhead .invalidNumber)
      else skipOptionalExponent behind
    else skipOptionalExponent behind

def skipNumber (cursor : Cursor) : Except Fault Cursor :=
  if cursor.next? = some '-' then skipUnsignedNumber cursor.advance
  else skipUnsignedNumber cursor

end Cursor

def shortEscape? : Char → Option Char
  | '"' => some '"'
  | '\\' => some '\\'
  | '/' => some '/'
  | 'b' => some '\x08'
  | 'f' => some '\x0c'
  | 'n' => some '\n'
  | 'r' => some '\r'
  | 't' => some '\t'
  | _ => none

def hexadecimalValue? (digit : Char) : Option Nat :=
  if '0' ≤ digit ∧ digit ≤ '9' then some (digit.toNat - '0'.toNat)
  else if 'a' ≤ digit ∧ digit ≤ 'f' then some (digit.toNat - 'a'.toNat + 10)
  else if 'A' ≤ digit ∧ digit ≤ 'F' then some (digit.toNat - 'A'.toNat + 10)
  else none

def codeUnit? (first second third fourth : Char) : Option Nat := do
  let first ← hexadecimalValue? first
  let second ← hexadecimalValue? second
  let third ← hexadecimalValue? third
  let fourth ← hexadecimalValue? fourth
  return ((first * 16 + second) * 16 + third) * 16 + fourth

def isLeadingSurrogate (unit : Nat) : Bool :=
  0xD800 ≤ unit && unit ≤ 0xDBFF

def isTrailingSurrogate (unit : Nat) : Bool :=
  0xDC00 ≤ unit && unit ≤ 0xDFFF

def pairedCharacter (leading trailing : Nat) : Char :=
  Char.ofNat (0x10000 + (leading - 0xD800) * 0x400 + (trailing - 0xDC00))

/-- The fault of digits behind `\u` that are not four hexadecimal ones: the text may also end
before four bytes have come. -/
def codeUnitFault (digits : List Char) (location : Location) : Fault :=
  let size := (digits.take 4).foldl (fun total digit => total + digit.utf8Size) 0
  ⟨if size < 4 then .endInString else .invalidEscape, location.afterBytes digits 4⟩

def prepend (character : Char) (reading : Except Fault (List Char × Cursor)) :
    Except Fault (List Char × Cursor) :=
  reading.map fun (text, cursor) => (character :: text, cursor)

/-- The characters of a string up to its closing quote, and the cursor behind the quote. A first
half of a surrogate pair that has been read waits for the second half. -/
def stringCharacters (leading : Option Nat) :
    List Char → Location → Except Fault (List Char × Cursor)
  | [], location => .error ⟨.endInString, location⟩
  | '\\' :: escaped, location =>
    let location := location.after '\\'
    match escaped with
    | [] => .error ⟨.endInString, location⟩
    | 'u' :: digits =>
      let location := location.after 'u'
      match digits with
      | first :: second :: third :: fourth :: rest =>
        match codeUnit? first second third fourth with
        | none => .error (codeUnitFault digits location)
        | some unit =>
          let behind := location.afterBytes digits 4
          match leading with
          | some leading =>
            if isTrailingSurrogate unit then
              prepend (pairedCharacter leading unit) (stringCharacters none rest behind)
            else .error ⟨.loneSurrogate, behind⟩
          | none =>
            if isTrailingSurrogate unit then .error ⟨.loneSurrogate, behind⟩
            else if isLeadingSurrogate unit then stringCharacters (some unit) rest behind
            else prepend (Char.ofNat unit) (stringCharacters none rest behind)
      | short => .error (codeUnitFault short location)
    | mark :: rest =>
      let behind := location.afterBytes (mark :: rest) 1
      match leading with
      | some _ => .error ⟨.surrogateCutShort, behind⟩
      | none =>
        match shortEscape? mark with
        | none => .error ⟨.invalidEscape, behind⟩
        | some character => prepend character (stringCharacters none rest behind)
  | character :: rest, location =>
    match leading with
    | some _ => .error ⟨.surrogateCutShort, location.afterBytes (character :: rest) 1⟩
    | none =>
      if character = '"' then .ok ([], ⟨rest, location.after character⟩)
      else if character.toNat < 0x20 then
        .error ⟨.controlCharacter, location.after character⟩
      else prepend character (stringCharacters none rest (location.after character))

def skipStringCharacters : List Char → Location → Except Fault Cursor
  | [], location => .error ⟨.endInString, location⟩
  | '\\' :: escaped, location =>
    let location := location.after '\\'
    match escaped with
    | [] => .error ⟨.endInString, location⟩
    | 'u' :: digits =>
      let location := location.after 'u'
      match digits with
      | first :: second :: third :: fourth :: rest =>
        match codeUnit? first second third fourth with
        | none => .error (codeUnitFault digits location)
        | some _ => skipStringCharacters rest (location.afterBytes digits 4)
      | short => .error (codeUnitFault short location)
    | mark :: rest =>
      let behind := location.afterBytes (mark :: rest) 1
      match shortEscape? mark with
      | none => .error ⟨.invalidEscape, behind⟩
      | some _ => skipStringCharacters rest behind
  | character :: rest, location =>
    if character = '"' then .ok ⟨rest, location.after character⟩
    else if character.toNat < 0x20 then .error ⟨.controlCharacter, location⟩
    else skipStringCharacters rest (location.after character)

namespace Cursor

def stringBody (cursor : Cursor) : Except Fault (String × Cursor) :=
  (stringCharacters none cursor.rest cursor.location).map fun (text, cursor) =>
    (String.ofList text, cursor)

/-- The cursor behind a string that is skipped, behind its opening quote. -/
def skipStringBody (cursor : Cursor) : Except Fault Cursor :=
  skipStringCharacters cursor.rest cursor.location

end Cursor

end MailSpool.Json
