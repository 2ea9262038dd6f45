import MailSpool.Json.Skip

/-!
# Reading a value of a known kind

The readers know what they look for: a number within a range, a truth value, a string, one of some
names, or a record. They stop at the first fault in the order of the text, so a value of a wrong
kind is told even if the text behind it is not well formed.

A record is an object whose members are some of its fields in any order, or a list of its fields
in their own order from the first one on. Fields that are not given keep the values that the
record had before, and members that are no fields are skipped.
-/

namespace MailSpool.Json

namespace Cursor

def valueStart (cursor : Cursor) : Except Fault (Char × Cursor) :=
  let cursor := cursor.skipSpace
  match cursor.next? with
  | none => .error (cursor.faultAhead .endInValue)
  | some first => .ok (first, cursor)

/-- The cursor behind the word of a value whose first character has been seen. -/
def behindWord (cursor : Cursor) (others : String) : Except Fault Cursor :=
  cursor.advance.word others.toList

/-- The fault of a value that is not of the kind expected. Of what stands there a word, a number
or a string is read first, and a fault in it is told instead. -/
def unexpected (cursor : Cursor) (expected : String) : Fault :=
  let wrongType (found : Found) (behind : Cursor) : Fault :=
    behind.fault (.invalidType found expected)
  let told (found : Found) (behind : Except Fault Cursor) : Fault :=
    match behind with
    | .ok behind => wrongType found behind
    | .error fault => fault
  match cursor.next? with
  | some 'n' => told .null (cursor.behindWord "ull")
  | some 't' => told (.boolean true) (cursor.behindWord "rue")
  | some 'f' => told (.boolean false) (cursor.behindWord "alse")
  | some '"' =>
    match cursor.advance.stringBody with
    | .ok (text, behind) => wrongType (.string text) behind
    | .error fault => fault
  | some '[' => wrongType .sequence cursor
  | some '\x7b' => wrongType .map cursor
  | some first =>
    if first = '-' ∨ first.isDigit then
      match cursor.number with
      | .ok (value, behind) => wrongType (.number value) behind
      | .error fault => fault
    else cursor.faultAhead .expectedValue
  | none => cursor.faultAhead .expectedValue

/-- A whole number from `least` to `greatest`, called `expected` where another value stands. -/
def boundedNumber (least greatest : Int) (expected : String) (cursor : Cursor) :
    Except Fault (Int × Cursor) := do
  let (first, cursor) ← cursor.valueStart
  if first = '-' ∨ first.isDigit then
    let (value, behind) ← cursor.number
    match value with
    | .whole whole =>
      if least ≤ whole ∧ whole ≤ greatest then .ok (whole, behind)
      else .error (behind.fault (.invalidValue (.number value) expected))
    | .floating _ _ => .error (behind.fault (.invalidType (.number value) expected))
  else .error (cursor.unexpected expected)

def int32 (cursor : Cursor) : Except Fault (Int32 × Cursor) :=
  (boundedNumber (-2147483648) 2147483647 "i32" cursor).map fun (value, behind) =>
    (Int32.ofInt value, behind)

/-- A whole number of 64 bits that is not negative. -/
def uint64 (cursor : Cursor) : Except Fault (UInt64 × Cursor) :=
  (boundedNumber 0 18446744073709551615 "u64" cursor).map fun (value, behind) =>
    (UInt64.ofNat value.toNat, behind)

def boolean (cursor : Cursor) : Except Fault (Bool × Cursor) := do
  let (first, cursor) ← cursor.valueStart
  match first with
  | 't' => return (true, ← cursor.behindWord "rue")
  | 'f' => return (false, ← cursor.behindWord "alse")
  | _ => .error (cursor.unexpected "a boolean")

/-- A string, called `expected` where another value stands. -/
def string (expected : String) (cursor : Cursor) : Except Fault (String × Cursor) := do
  let (first, cursor) ← cursor.valueStart
  if first = '"' then cursor.advance.stringBody
  else .error (cursor.unexpected expected)

def null (cursor : Cursor) : Except Fault Cursor := do
  let (first, cursor) ← cursor.valueStart
  if first = 'n' then cursor.behindWord "ull"
  else .error (cursor.unexpected "unit")

def colon (cursor : Cursor) : Except Fault Cursor :=
  let cursor := cursor.skipSpace
  match cursor.next? with
  | some ':' => .ok cursor.advance
  | some _ => .error (cursor.faultAhead .expectedColon)
  | none => .error (cursor.faultAhead .endInObject)

def knownString (known : List String) (cursor : Cursor) : Except Fault (String × Cursor) := do
  let (name, behind) ← cursor.string "variant identifier"
  if name ∈ known then .ok (name, behind)
  else .error (behind.fault (.unknownName name known))

def onlyKey (cursor : Cursor) : Except Fault Cursor :=
  let cursor := cursor.skipSpace
  match cursor.next? with
  | some '"' => .ok cursor
  | some '\x7d' => .error (cursor.faultAhead .expectedValue)
  | some _ => .error (cursor.faultAhead .keyNotString)
  | none => .error (cursor.faultAhead .endInObject)

/-- One of some names: the name as a string, or an object that gives the name the value null. -/
def name (known : List String) (cursor : Cursor) : Except Fault (String × Cursor) :=
  let cursor := cursor.skipSpace
  match cursor.next? with
  | some '\x7b' => do
    let (name, behind) ← (← cursor.advance.onlyKey).knownString known
    let behind := (← (← behind.colon).null).skipSpace
    match behind.next? with
    | some '\x7d' => .ok (name, behind.advance)
    | some _ => .error (behind.fault .expectedValue)
    | none => .error (behind.fault .endInObject)
  | some '"' => cursor.knownString known
  | some _ => .error (cursor.faultAhead .expectedValue)
  | none => .error (cursor.faultAhead .endInValue)

end Cursor

/-- A field of a record: its name, and how a value that comes next is put into the record. -/
structure SchemaField (Record : Type) where
  name : String
  assign : Record → Cursor → Except Fault (Record × Cursor)

/-- The kind of a record: what it is called where another value stands, and its fields. -/
structure Schema (Record : Type) where
  title : String
  fields : List (SchemaField Record)

namespace Schema

variable {Record : Type}

/-- Where a field that comes twice is told: behind the space that follows its name, and behind the
closing brace if that is what follows. -/
def duplicateFault (name : String) (cursor : Cursor) : Fault :=
  let cursor := cursor.skipSpace
  let cursor := if cursor.next? = some '\x7d' then cursor.advance else cursor
  cursor.fault (.duplicateField name)

/-- A record from the member on whose opening quote comes next. The names seen before may not come
again. -/
def members (schema : Schema Record) :
    Nat → List String → Record → Cursor → Except Fault (Record × Cursor)
  | 0, _, _, cursor => .error (cursor.faultAhead .endInObject)
  | bound + 1, seen, record, cursor => do
    let (key, cursor) ← cursor.advance.stringBody
    let (seen, record, cursor) ←
      match schema.fields.find? fun field => field.name = key with
      | some field =>
        if key ∈ seen then .error (duplicateFault key cursor)
        else do
          let (record, cursor) ← field.assign record (← cursor.colon)
          pure (key :: seen, record, cursor)
      | none => do
        let cursor ← (← cursor.colon).skipValue
        pure (seen, record, cursor)
    let cursor := cursor.skipSpace
    match cursor.next? with
    | some '\x7d' => .ok (record, cursor.advance)
    | some ',' =>
      let cursor := cursor.advance.skipSpace
      match cursor.next? with
      | some '"' => members schema bound seen record cursor
      | some '\x7d' => .error (cursor.faultAhead .trailingComma)
      | some _ => .error (cursor.faultAhead .keyNotString)
      | none => .error (cursor.faultAhead .endInValue)
    | some _ => .error (cursor.faultAhead .expectedObjectEnd)
    | none => .error (cursor.faultAhead .endInObject)

/-- The cursor behind a list in which no field is left to be given. -/
def listEnd (cursor : Cursor) : Except Fault Cursor :=
  let cursor := cursor.skipSpace
  match cursor.next? with
  | some ']' => .ok cursor.advance
  | some ',' =>
    let cursor := cursor.advance.skipSpace
    if cursor.next? = some ']' then .error (cursor.faultAhead .trailingComma)
    else .error (cursor.faultAhead .trailingCharacters)
  | some _ => .error (cursor.faultAhead .trailingCharacters)
  | none => .error (cursor.faultAhead .endInList)

def items : List (SchemaField Record) → Bool → Record → Cursor → Except Fault (Record × Cursor)
  | [], _, record, cursor => do return (record, ← listEnd cursor)
  | field :: others, isFirst, record, cursor =>
    let cursor := cursor.skipSpace
    match cursor.next? with
    | none => .error (cursor.faultAhead .endInList)
    | some next =>
      if next = ']' then .ok (record, cursor.advance)
      else if isFirst then do
        let (record, cursor) ← field.assign record cursor
        items others false record cursor
      else if next = ',' then
        let cursor := cursor.advance.skipSpace
        match cursor.next? with
        | none => .error (cursor.faultAhead .endInValue)
        | some ']' => .error (cursor.faultAhead .trailingComma)
        | some _ => do
          let (record, cursor) ← field.assign record cursor
          items others false record cursor
      else .error (cursor.faultAhead .expectedListEnd)

/-- A record whose fields, where they are not given, are those of another one. -/
def read (schema : Schema Record) (initial : Record) (cursor : Cursor) :
    Except Fault (Record × Cursor) := do
  let (first, cursor) ← cursor.valueStart
  match first with
  | '\x7b' =>
    let cursor := cursor.advance.skipSpace
    match cursor.next? with
    | some '\x7d' => .ok (initial, cursor.advance)
    | some '"' => schema.members (cursor.rest.length + 1) [] initial cursor
    | some _ => .error (cursor.faultAhead .keyNotString)
    | none => .error (cursor.faultAhead .endInObject)
  | '[' => items schema.fields true initial cursor.advance
  | _ => .error (cursor.unexpected schema.title)

end Schema

def readText {Value : Type} (reader : Cursor → Except Fault (Value × Cursor)) (text : String) :
    Except Fault Value := do
  let (value, cursor) ← reader (Cursor.start text)
  let cursor := cursor.skipSpace
  match cursor.next? with
  | none => .ok value
  | some _ => .error (cursor.faultAhead .trailingCharacters)

end MailSpool.Json
