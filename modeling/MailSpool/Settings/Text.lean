import MailSpool.Json.Reader
import MailSpool.Json.Value
import MailSpool.LockMode
import MailSpool.Settings

/-!
# Settings as text

Settings are written as one object with all fields in their usual order. They are read from an
object that gives some of the fields in any order, or from a list that gives the first of them;
the others keep their usual values. Modes and statuses are written as their names.
-/

namespace MailSpool

open Json

namespace MailSettings

def toValue (settings : MailSettings) : Value :=
  .object [
    ("spool_dir", .string settings.spoolDirectory),
    ("honor_mail_env", .boolean settings.honorMail),
    ("retry_step_ms", .whole settings.retryStep.toNat),
    ("retry_max_ms", .whole settings.retryLimit.toNat),
    ("stale_after_secs", .whole settings.staleAfter.toNat),
    ("check_owner_pid", .boolean settings.checkOwner),
    ("refresh_interval_secs", .whole settings.refreshInterval.toNat)]

def render (settings : MailSettings) : String :=
  settings.toValue.render

/-- A field whose value is read by `reader` and put into a record by `put`. -/
def field {Record Value : Type} (name : String)
    (reader : Cursor → Except Fault (Value × Cursor)) (put : Record → Value → Record) :
    SchemaField Record :=
  ⟨name, fun record cursor =>
    (reader cursor).map fun (value, behind) => (put record value, behind)⟩

def schema : Schema MailSettings where
  title := "struct MailLockConfig"
  fields := [
    field "spool_dir" (Cursor.string "path string")
      fun settings value => { settings with spoolDirectory := value },
    field "honor_mail_env" Cursor.boolean
      fun settings value => { settings with honorMail := value },
    field "retry_step_ms" Cursor.uint64 fun settings value => { settings with retryStep := value },
    field "retry_max_ms" Cursor.uint64 fun settings value => { settings with retryLimit := value },
    field "stale_after_secs" Cursor.uint64
      fun settings value => { settings with staleAfter := value },
    field "check_owner_pid" Cursor.boolean
      fun settings value => { settings with checkOwner := value },
    field "refresh_interval_secs" Cursor.uint64
      fun settings value => { settings with refreshInterval := value }]

def ofText (text : String) : Except Fault MailSettings :=
  readText (schema.read {}) text

end MailSettings

namespace Settings

def toValue (settings : Settings) : Value :=
  .object [
    ("descriptor_offset", .whole settings.descriptorOffset.toInt),
    ("precise_access_time", .boolean settings.preciseAccessTime),
    ("mail", settings.mail.toValue)]

def render (settings : Settings) : String :=
  settings.toValue.render

def schema : Schema Settings where
  title := "struct BridgeConfig"
  fields := [
    MailSettings.field "descriptor_offset" Cursor.int32
      fun settings value => { settings with descriptorOffset := value },
    MailSettings.field "precise_access_time" Cursor.boolean
      fun settings value => { settings with preciseAccessTime := value },
    MailSettings.field "mail" (MailSettings.schema.read {})
      fun settings value => { settings with mail := value }]

def ofText (text : String) : Except Fault Settings :=
  readText (schema.read {}) text

/-- Settings from the content of a file, as long as they break no rule. -/
def ofContent (path : String) (content : Except IoError ByteArray) : Except Failure Settings :=
  match content with
  | .error error => .error (.settings (.unreadable path error))
  | .ok bytes =>
    match String.fromUTF8? bytes with
    | none => .error (.settings (.unreadable path .notUtf8))
    | some text =>
      match ofText text with
      | .error fault => .error (.settings (.malformed fault))
      | .ok settings => settings.validate

end Settings

def readNamed {Item : Type} (all : List Item) (name : Item → String) (text : String) :
    Except Fault (Option Item) :=
  (readText (Cursor.name (all.map name)) text).map fun found =>
    all.find? fun item => name item = found

end MailSpool
