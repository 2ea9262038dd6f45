import MailSpool.Host.Files
import MailSpool.Settings.Text

/-!
# Where settings come from

A process reads its settings from a file that it is told or that a variable of its environment
names; without either it has the usual ones.
-/

namespace MailSpool.Settings

/-- The variable of the environment that names the file of the settings. -/
def fileVariable : String := "MBOXLOCK_CONFIG"

def load (host : Host) (process : ProcessId) (path : String) : Except Failure Settings × Host :=
  let (content, after) := host.read process path
  (ofContent path content, after)

/-- The settings of a process that was not told a file. -/
def loadDefault (host : Host) (process : ProcessId) : Except Failure Settings × Host :=
  match host.valueOf process fileVariable with
  | some path => load host process path
  | none => (.ok {}, host)

end MailSpool.Settings
