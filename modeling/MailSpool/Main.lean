import MailSpool.CommandLine.Run

/-!
# The program

The command line on a host of its own: a machine that starts with empty spool directories, with
the clock of this one and with the file of settings that the arguments or the environment name.
-/

open MailSpool

def variableNames : List String := ["MAIL", Settings.fileVariable]

def usualDirectories : List String := ["/var/mail", "/tmp"]

def withDirectory (host : Host) (path : String) : Host :=
  (host.makeDirectories path).toOption.getD host

/-- The file of settings that arguments or an environment name. -/
def settingsFile (environment : List (String × String)) (arguments : List String) :
    Option String :=
  (Invocation.ofArguments arguments).toOption.bind fun invocation =>
    invocation.settings <|> environment.lookup Settings.fileVariable

/-- A host that has a file of this machine too, if it can be read. -/
def withFile (host : Host) (path : String) : IO Host := do
  let content ← (IO.FS.readBinFile path).toBaseIO
  match content with
  | .error _ => return host
  | .ok bytes =>
    let ready := withDirectory host ((Path.parent path).getD "")
    return (ready.overwrite 1 path bytes).toOption.getD ready

def main (arguments : List String) : IO UInt32 := do
  let values ← variableNames.mapM fun name => return (name, ← IO.getEnv name)
  let environment := values.filterMap fun (name, value) => value.map fun text => (name, text)
  let seed ← IO.rand 0 (UInt32.size - 1)
  let now ← IO.monoNanosNow
  let booted := usualDirectories.foldl withDirectory
    (Host.boot now fun count => seed + count * 2654435761)
  let host ← (settingsFile environment arguments).elim (pure booted) (withFile booted)
  match Invocation.runProgram Programs.standard host 1 environment arguments with
  | none =>
    IO.eprintln "The lock is never granted."
    return 1
  | some (outcome, _) =>
    IO.print outcome.output
    IO.eprint outcome.errors
    return .ofNat outcome.code
