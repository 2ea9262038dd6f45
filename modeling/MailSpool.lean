import MailSpool.AccessTime
import MailSpool.Bridge
import MailSpool.Calendar
import MailSpool.Clock
import MailSpool.CommandLine.Invocation
import MailSpool.CommandLine.Programs
import MailSpool.CommandLine.Reading
import MailSpool.CommandLine.Run
import MailSpool.CommandLine.Usage
import MailSpool.Decimal.Binary64
import MailSpool.Decimal.Shortest
import MailSpool.Descriptor
import MailSpool.Dotlock.Acquisition
import MailSpool.Dotlock.Backoff
import MailSpool.Dotlock.Locker
import MailSpool.Dotlock.Owner
import MailSpool.Dotlock.Path
import MailSpool.Errno
import MailSpool.Failure
import MailSpool.FileSystem
import MailSpool.FileSystem.Calls
import MailSpool.FileSystem.Lookup
import MailSpool.Host
import MailSpool.Host.Files
import MailSpool.Host.Locks
import MailSpool.Host.Signals
import MailSpool.Host.Time
import MailSpool.IoError
import MailSpool.Json.Cursor
import MailSpool.Json.Fault
import MailSpool.Json.Number
import MailSpool.Json.Reader
import MailSpool.Json.Scalar
import MailSpool.Json.Skip
import MailSpool.Json.Value
import MailSpool.LockMode
import MailSpool.LockTable
import MailSpool.Main
import MailSpool.Notice
import MailSpool.Path
import MailSpool.Proofs.CommandLine.LeftInPlace
import MailSpool.Proofs.CommandLine.MailClient
import MailSpool.Proofs.CommandLine.Maintenance
import MailSpool.Proofs.CommandLine.RunLocked
import MailSpool.Proofs.Dotlock.Attempts
import MailSpool.Proofs.Dotlock.Clock
import MailSpool.Proofs.Dotlock.Conceding
import MailSpool.Proofs.Dotlock.Conclusions
import MailSpool.Proofs.Dotlock.Decisions
import MailSpool.Proofs.Dotlock.Delays
import MailSpool.Proofs.Dotlock.Findings
import MailSpool.Proofs.Dotlock.FreeLock
import MailSpool.Proofs.Dotlock.Freshness
import MailSpool.Proofs.Dotlock.Holdings
import MailSpool.Proofs.Dotlock.Leavings
import MailSpool.Proofs.Dotlock.LockPaths
import MailSpool.Proofs.Dotlock.Mailboxes
import MailSpool.Proofs.Dotlock.Names
import MailSpool.Proofs.Dotlock.NewFiles
import MailSpool.Proofs.Dotlock.Outcome
import MailSpool.Proofs.Dotlock.OwnerRecords
import MailSpool.Proofs.Dotlock.Owners
import MailSpool.Proofs.Dotlock.Progress
import MailSpool.Proofs.Dotlock.Pursuit
import MailSpool.Proofs.Dotlock.Reacquiring
import MailSpool.Proofs.Dotlock.Records
import MailSpool.Proofs.Dotlock.Refusal
import MailSpool.Proofs.Dotlock.Remains
import MailSpool.Proofs.Dotlock.Rests
import MailSpool.Proofs.Dotlock.Rounds
import MailSpool.Proofs.Dotlock.Siblings
import MailSpool.Proofs.Dotlock.Standing
import MailSpool.Proofs.Dotlock.Steps
import MailSpool.Proofs.Dotlock.Temporaries
import MailSpool.Proofs.Dotlock.Turns
import MailSpool.Proofs.Dotlock.Verdicts
import MailSpool.Proofs.FileSystem.Beside
import MailSpool.Proofs.FileSystem.Calls
import MailSpool.Proofs.FileSystem.Entries
import MailSpool.Proofs.FileSystem.Inherits
import MailSpool.Proofs.FileSystem.Kept
import MailSpool.Proofs.FileSystem.Lasting
import MailSpool.Proofs.FileSystem.Leads
import MailSpool.Proofs.FileSystem.Overwriting
import MailSpool.Proofs.FileSystem.Renames
import MailSpool.Proofs.FileSystem.Resets
import MailSpool.Proofs.FileSystem.Times
import MailSpool.Proofs.FileSystem.Ways
import MailSpool.Proofs.Guard.Acquire
import MailSpool.Proofs.Guard.BothLocks
import MailSpool.Proofs.Guard.Clients
import MailSpool.Proofs.Guard.Exclusion
import MailSpool.Proofs.Guard.Failure
import MailSpool.Proofs.Guard.Inside
import MailSpool.Proofs.Guard.Refreshing
import MailSpool.Proofs.Guard.Silence
import MailSpool.Proofs.Guard.Tags
import MailSpool.Proofs.Guard.Taking
import MailSpool.Proofs.Guard.Thread
import MailSpool.Proofs.Guard.Unwinding
import MailSpool.Proofs.Host.AccessTimes
import MailSpool.Proofs.Host.Files
import MailSpool.Proofs.Host.Harm
import MailSpool.Proofs.Host.Keeps
import MailSpool.Proofs.Host.Occupied
import MailSpool.Proofs.Host.Probing
import MailSpool.Proofs.Host.Quiet
import MailSpool.Proofs.Host.RecordLocks
import MailSpool.Proofs.Host.Stillness
import MailSpool.Proofs.Host.Time
import MailSpool.Proofs.Json.Cursor
import MailSpool.Proofs.Json.Grammar
import MailSpool.Proofs.Json.Records
import MailSpool.Proofs.Json.Scalars
import MailSpool.Proofs.Json.Skipping
import MailSpool.Proofs.Locks.Holders
import MailSpool.Proofs.Locks.Queues
import MailSpool.Proofs.Locks.Table
import MailSpool.Proofs.Settings.Overlay
import MailSpool.Proofs.Settings.RoundTrip
import MailSpool.Proofs.Signals.Polls
import MailSpool.Proofs.Signals.Watches
import MailSpool.Proofs.Spool.Breaking
import MailSpool.Proofs.Spool.Careers
import MailSpool.Proofs.Spool.Moves
import MailSpool.Proofs.Spool.MutualExclusion
import MailSpool.Proofs.Spool.Ownership
import MailSpool.Proofs.Spool.Peace
import MailSpool.Proofs.Spool.Renewal
import MailSpool.Proofs.Spool.Shared
import MailSpool.Proofs.Spool.Tidiness
import MailSpool.Proofs.Spool.Trust
import MailSpool.Proofs.Spool.Yielding
import MailSpool.RecordLock
import MailSpool.Refresher
import MailSpool.Settings
import MailSpool.Settings.Load
import MailSpool.Settings.Text
import MailSpool.Signals
import MailSpool.SpoolGuard
import MailSpool.SpoolGuard.Drop
import MailSpool.Status
import MailSpool.Text.Blank
import MailSpool.Text.ControlSequence
import MailSpool.Text.Hidden
import MailSpool.Text.Quoted
