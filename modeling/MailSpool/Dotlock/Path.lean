import MailSpool.Settings

/-!
# Where the lock of a user lies

The lock of a user is a file next to the mailbox, with the name of the user and a suffix. The
mailbox lies in the spool directory, or where `$MAIL` says if that names a mailbox of the user.
-/

namespace MailSpool

def lockSuffix : String := ".lock"

def lockNameLimit : Nat := 255

/-- Whether a name is that of one entry of a directory: it is not empty, and holds neither a slash
nor a NUL character. -/
def isEntryName (name : String) : Bool :=
  !name.isEmpty && !name.toList.contains '/' && !name.toList.contains '\x00'

namespace MailSettings

def spoolPath (settings : MailSettings) (user : String) : String :=
  Path.join settings.spoolDirectory user

/-- The path of the lock of a user, given the value of `$MAIL`. -/
def lockPath (settings : MailSettings) (mail : Option String) (user : String) :
    Except MailLockStatus String :=
  if !isEntryName user then .error .error
  else if lockNameLimit < user.utf8ByteSize + lockSuffix.utf8ByteSize then .error .nameLength
  else
    match mail.filter fun mailbox => settings.honorMail && Path.fileName mailbox == some user with
    | some mailbox => .ok (mailbox ++ lockSuffix)
    | none => .ok (Path.join settings.spoolDirectory (user ++ lockSuffix))

end MailSettings

end MailSpool
