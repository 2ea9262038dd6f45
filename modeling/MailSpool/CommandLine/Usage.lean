import MailSpool.Text.ControlSequence

/-!
# Usage of commands

What a command takes from its arguments: options with or without a value, a path, and a command of
the caller behind a double dash. A use that does not fit is told in one sentence, before anything
is done.
-/

namespace MailSpool

/-- Why a value does not fit. -/
inductive ValueFault where
  /-- There is no value, or an empty one where an empty one means nothing. -/
  | missing
  /-- The value is none of those that are known, perhaps for a reason. -/
  | invalid (value : String) (reason : Option String)
  deriving DecidableEq, Repr

/-- What does not fit in the use of a command. -/
inductive UsageFault where
  | requiredMissing
  | unexpectedArgument (argument : String)
  | unknownSubcommand (name : String)
  | value (label : String) (fault : ValueFault)
  | repeated (label : String)
  | needlessValue (label value : String)
  | subcommandMissing (command : String)
  deriving DecidableEq, Repr

/-- Why arguments are not followed: they ask for something to be shown, or do not fit. -/
inductive Refusal where
  | version
  /-- How a command is used is shown because it was asked for. -/
  | help (command about : String)
  /-- How a command is used is shown because nothing was asked for. -/
  | overview (command about : String)
  | fault (command : String) (fault : UsageFault)
  deriving DecidableEq, Repr

/-- A kind of values. -/
structure ValueRule where
  title : String
  check : String → Option ValueFault

/-- An option of a command. One without a rule for its value is a flag. -/
structure OptionRule where
  name : String
  value : Option ValueRule := none
  required : Bool := false

/-- What a command takes. -/
structure CommandRule where
  name : String
  about : String
  options : List OptionRule := []
  /-- Whether it takes a path. -/
  takesPath : Bool := false
  /-- Whether it takes a command behind a double dash, and whether it must be there. -/
  trailing : Option Bool := none
  subcommands : List String := []
  hasVersion : Bool := false

namespace UsageFault

def quotation (given : String) : String :=
  "'" ++ Text.withoutControls given ++ "'"

def message : UsageFault → String
  | requiredMissing => "the following required arguments were not provided:"
  | unexpectedArgument argument => "unexpected argument " ++ quotation argument ++ " found"
  | unknownSubcommand name => "unrecognized subcommand " ++ quotation name
  | value label .missing => "a value is required for '" ++ label ++ "' but none was supplied"
  | value label (.invalid given reason) =>
    "invalid value " ++ quotation given ++ " for '" ++ label ++ "'" ++
      reason.elim "" fun text => ": " ++ text
  | repeated label => "the argument '" ++ label ++ "' cannot be used multiple times"
  | needlessValue label given =>
    "unexpected value " ++ quotation given ++ " for '" ++ label ++
      "' found; no more were expected"
  | subcommandMissing command =>
    "'" ++ command ++ "' requires a subcommand but one was not provided"

end UsageFault

namespace ValueRule

def any (title : String) : ValueRule where
  title := title
  check _ := none

def path (title : String) : ValueRule where
  title := title
  check value := if value.isEmpty then some .missing else none

def oneOf (title : String) (names : List String) : ValueRule where
  title := title
  check value :=
    if value.isEmpty then some .missing
    else if names.contains value then none
    else some (.invalid value none)

def countLimit : Int := 4294967295

/-- The number that decimal digits denote behind a number that was read before, with a sign. Digits
beyond 64 bits are not read. -/
def signedDigits (negative : Bool) : Int → List Char → Except String Int
  | value, [] => .ok value
  | value, digit :: rest =>
    if !digit.isDigit then .error "invalid digit found in string"
    else
      let amount : Int := digit.toNat - '0'.toNat
      let next := 10 * value + (if negative then -amount else amount)
      if next < -9223372036854775808 then .error "number too small to fit in target type"
      else if 9223372036854775808 ≤ next then .error "number too large to fit in target type"
      else signedDigits negative next rest

def signed (text : String) : Except String Int :=
  match text.toList with
  | [] => .error "cannot parse integer from empty string"
  | ['+'] => .error "invalid digit found in string"
  | ['-'] => .error "invalid digit found in string"
  | '+' :: digits => signedDigits false 0 digits
  | '-' :: digits => signedDigits true 0 digits
  | digits => signedDigits false 0 digits

def count (title : String) : ValueRule where
  title := title
  check value :=
    match signed value with
    | .error reason => some (.invalid value (some reason))
    | .ok number =>
      if 0 ≤ number ∧ number ≤ countLimit then none
      else
        some (.invalid value
          (some (toString number ++ " is not in 0..=" ++ toString countLimit)))

end ValueRule

namespace OptionRule

def label (rule : OptionRule) : String :=
  "--" ++ rule.name ++ rule.value.elim "" fun value => " <" ++ value.title ++ ">"

end OptionRule

namespace CommandRule

def option? (rule : CommandRule) (name : String) : Option OptionRule :=
  rule.options.find? fun option => option.name = name

def usage (command : String) : String :=
  "Usage: " ++ command ++ " [OPTIONS]"

end CommandRule

end MailSpool
