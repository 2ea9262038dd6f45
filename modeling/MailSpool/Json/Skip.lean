import MailSpool.Json.Scalar

/-!
# Skipping a value

A value that nobody asked for is passed over, whatever it is and however deeply it is nested. Only
its form is checked. Each value takes at least one character, so twice the number of characters
still to come bounds the nested steps that skipping it takes.
-/

namespace MailSpool.Json

namespace Cursor

mutual

def skipValueWithin : Nat → Cursor → Except Fault Cursor
  | 0, cursor => .error (cursor.faultAhead .endInValue)
  | bound + 1, cursor =>
    let cursor := cursor.skipSpace
    match cursor.next? with
    | none => .error (cursor.faultAhead .endInValue)
    | some first =>
      match first with
      | 'n' => cursor.advance.word "ull".toList
      | 't' => cursor.advance.word "rue".toList
      | 'f' => cursor.advance.word "alse".toList
      | '"' => cursor.advance.skipStringBody
      | '[' =>
        let cursor := cursor.advance.skipSpace
        match cursor.next? with
        | none => .error (cursor.faultAhead .endInList)
        | some ']' => .ok cursor.advance
        | some _ => skipItemsWithin bound cursor
      | '\x7b' =>
        let cursor := cursor.advance.skipSpace
        match cursor.next? with
        | none => .error (cursor.faultAhead .endInObject)
        | some '\x7d' => .ok cursor.advance
        | some _ => skipMembersWithin bound cursor
      | _ =>
        if first = '-' ∨ first.isDigit then cursor.skipNumber
        else .error (cursor.faultAhead .expectedValue)

def skipItemsWithin : Nat → Cursor → Except Fault Cursor
  | 0, cursor => .error (cursor.faultAhead .endInList)
  | bound + 1, cursor => do
    let cursor := (← skipValueWithin bound cursor).skipSpace
    match cursor.next? with
    | none => .error (cursor.faultAhead .endInList)
    | some ',' => skipItemsWithin bound cursor.advance
    | some ']' => .ok cursor.advance
    | some _ => .error (cursor.faultAhead .expectedListEnd)

def skipMembersWithin : Nat → Cursor → Except Fault Cursor
  | 0, cursor => .error (cursor.faultAhead .endInObject)
  | bound + 1, cursor =>
    let cursor := cursor.skipSpace
    match cursor.next? with
    | none => .error (cursor.faultAhead .endInObject)
    | some '"' => do
      let cursor := (← cursor.advance.skipStringBody).skipSpace
      match cursor.next? with
      | none => .error (cursor.faultAhead .endInObject)
      | some ':' =>
        let cursor := (← skipValueWithin bound cursor.advance).skipSpace
        match cursor.next? with
        | none => .error (cursor.faultAhead .endInObject)
        | some ',' => skipMembersWithin bound cursor.advance
        | some '\x7d' => .ok cursor.advance
        | some _ => .error (cursor.faultAhead .expectedObjectEnd)
      | some _ => .error (cursor.faultAhead .expectedColon)
    | some _ => .error (cursor.faultAhead .keyNotString)

end

def skipValue (cursor : Cursor) : Except Fault Cursor :=
  skipValueWithin (2 * cursor.rest.length + 1) cursor

end Cursor

end MailSpool.Json
