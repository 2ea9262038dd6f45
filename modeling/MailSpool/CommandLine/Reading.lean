import MailSpool.CommandLine.Usage

/-!
# Reading arguments

The arguments of a command are read from the left. An option takes its value from behind an equals
sign or from the next argument; a value that was taken is not looked at before the next option or
path, or the end, so a later argument that does not fit at all is told first. Behind a double dash
nothing is an option.
-/

namespace MailSpool

/-- What was taken and not looked at yet. -/
inductive Pending where
  /-- An option, and its value if it was there. -/
  | option (rule : OptionRule) (value : Option String)
  | path (value : String)

/-- What was read of the arguments of one command. -/
structure Reading where
  /-- The options read, with their values. -/
  options : List (String × String) := []
  path : Option String := none
  command : List String := []
  pending : Option Pending := none
  /-- Whether a path was taken. -/
  pathTaken : Bool := false
  /-- Whether a double dash was met. -/
  trailing : Bool := false

namespace Reading

def pathRule : ValueRule := .path "PATH"

/-- Adds an option to what was read; an option comes once only, and its value has to fit. -/
def addOption (reading : Reading) (rule : OptionRule) (value : Option String) :
    Except UsageFault Reading :=
  match rule.value, value with
  | none, _ =>
    if (reading.options.lookup rule.name).isSome then .error (.repeated rule.label)
    else .ok { reading with options := reading.options ++ [(rule.name, "")] }
  | some _, none => .error (.value rule.label .missing)
  | some kind, some text =>
    if (reading.options.lookup rule.name).isSome then .error (.repeated rule.label)
    else
      match kind.check text with
      | some fault => .error (.value rule.label fault)
      | none => .ok { reading with options := reading.options ++ [(rule.name, text)] }

def settle (reading : Reading) : Except UsageFault Reading :=
  let settled := { reading with pending := none }
  match reading.pending with
  | none => .ok settled
  | some (.option rule value) => settled.addOption rule value
  | some (.path value) =>
    match pathRule.check value with
    | some fault => .error (.value ("<" ++ pathRule.title ++ ">") fault)
    | none => .ok { settled with path := some value }

def awaitsValue (reading : Reading) : Bool :=
  match reading.pending with
  | some (.option _ none) => true
  | _ => false

def giveValue (reading : Reading) (value : String) : Reading :=
  match reading.pending with
  | some (.option rule none) => { reading with pending := some (.option rule (some value)) }
  | _ => reading

/-- A text up to the first equals sign, and what is behind that sign. -/
def splitAttached (text : List Char) : String × Option String :=
  let name := text.takeWhile fun character => character ≠ '='
  match text.dropWhile fun character => character ≠ '=' with
  | [] => (String.ofList name, none)
  | _ :: value => (String.ofList name, some (String.ofList value))

/-- A reading, or the refusal of a use that does not fit. -/
def orRefuse (rule : CommandRule) (result : Except UsageFault Reading) : Except Refusal Reading :=
  result.mapError (.fault rule.name)

/-- Refuses to go on, after a look at what was taken, because something is to be shown. -/
def showing (rule : CommandRule) (reading : Reading) (refusal : Refusal) :
    Except Refusal Reading :=
  (orRefuse rule reading.settle).bind fun _ => .error refusal

def long (rule : CommandRule) (reading : Reading) (text : List Char) : Except Refusal Reading :=
  let (name, attached) := splitAttached text
  let flag (refusal : Refusal) : Except Refusal Reading :=
    match attached with
    | some value => .error (.fault rule.name (.needlessValue ("--" ++ name) value))
    | none => reading.showing rule refusal
  if name = "help" then flag (.help rule.name rule.about)
  else if name = "version" && rule.hasVersion then flag .version
  else
    match rule.option? name with
    | none => .error (.fault rule.name (.unexpectedArgument ("--" ++ name)))
    | some option =>
      match option.value, attached with
      | none, some value => .error (.fault rule.name (.needlessValue option.label value))
      | none, none =>
        orRefuse rule (reading.settle.bind fun settled => settled.addOption option none)
      | some _, some value =>
        orRefuse rule (reading.settle.bind fun settled => settled.addOption option (some value))
      | some _, none =>
        orRefuse rule (reading.settle.map fun settled =>
          { settled with pending := some (.option option none) })

/-- Reads an argument that starts with one dash, given what is behind the dash. -/
def short (rule : CommandRule) (reading : Reading) (letter : Char) : Except Refusal Reading :=
  if letter = 'h' then reading.showing rule (.help rule.name rule.about)
  else if letter = 'V' && rule.hasVersion then reading.showing rule .version
  else .error (.fault rule.name (.unexpectedArgument ("-" ++ letter.toString)))

/-- Reads an argument that is no option. The name of a subcommand comes here only from behind a
double dash, where it is not expected. -/
def positional (rule : CommandRule) (reading : Reading) (argument : String) :
    Except Refusal Reading :=
  if reading.trailing && rule.trailing.isSome then
    orRefuse rule (reading.settle.map fun settled =>
      { settled with command := settled.command ++ [argument] })
  else if rule.takesPath && !reading.pathTaken then
    orRefuse rule (reading.settle.map fun settled =>
      { settled with pending := some (.path argument), pathTaken := true })
  else if rule.subcommands.isEmpty || rule.subcommands.contains argument then
    .error (.fault rule.name (.unexpectedArgument argument))
  else .error (.fault rule.name (.unknownSubcommand argument))

/-- Reads one argument that is not the name of a subcommand. -/
def one (rule : CommandRule) (reading : Reading) (argument : String) : Except Refusal Reading :=
  if reading.trailing then reading.positional rule argument
  else
    match argument.toList with
    | ['-', '-'] => .ok { reading with trailing := true }
    | '-' :: '-' :: text => reading.long rule text
    | '-' :: letter :: _ => reading.short rule letter
    | _ =>
      if reading.awaitsValue then .ok (reading.giveValue argument)
      else reading.positional rule argument

/-- Reads arguments up to the name of a subcommand, which is given with the arguments behind it. -/
def all (rule : CommandRule) :
    Reading → List String → Except Refusal (Reading × Option (String × List String))
  | reading, [] => .ok (reading, none)
  | reading, argument :: rest =>
    if !reading.trailing && !reading.awaitsValue && rule.subcommands.contains argument then
      .ok (reading, some (argument, rest))
    else
      match reading.one rule argument with
      | .error refusal => .error refusal
      | .ok next => all rule next rest

def isComplete (rule : CommandRule) (reading : Reading) : Bool :=
  (rule.options.all fun option =>
      !option.required || (reading.options.lookup option.name).isSome) &&
    (!rule.takesPath || reading.path.isSome) &&
    (rule.trailing ≠ some true || !reading.command.isEmpty)

/-- Ends the reading of a command, of which a subcommand was named or not. -/
def finish (rule : CommandRule) (reading : Reading) (named : Bool) : Except Refusal Reading :=
  match reading.settle with
  | .error fault => .error (.fault rule.name fault)
  | .ok settled =>
    if !named && !rule.subcommands.isEmpty then
      if settled.options.isEmpty then .error (.overview rule.name rule.about)
      else .error (.fault rule.name (.subcommandMissing rule.name))
    else if settled.isComplete rule then .ok settled
    else .error (.fault rule.name .requiredMissing)

def ofArguments (rule : CommandRule) (arguments : List String) : Except Refusal Reading :=
  match all rule {} arguments with
  | .error refusal => .error refusal
  | .ok (reading, _) => reading.finish rule false

end Reading

end MailSpool
