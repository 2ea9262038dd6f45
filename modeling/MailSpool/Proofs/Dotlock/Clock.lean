import MailSpool.Dotlock.Acquisition
import MailSpool.Proofs.Host.Files

/-!
# What steps leave as it was

A step of an acquisition changes files, tells something and draws random numbers. It moves no clock
and makes no appointment, by `sameClock_step`: time passes only between the steps, while the locker
rests. Nor does it start or end a process, or open a file for good. A record lock goes in one step
only: to read the owner of a lock opens the lock file and closes it again, and this costs the
process its lock on that file.
-/

namespace MailSpool

structure Host.SameClock (before after : Host) : Prop where
  now : after.now = before.now
  agenda : after.agenda = before.agenda

/-- Hosts that differ in their files, in what was told and in what was drawn. -/
structure Host.SameWorld (before after : Host) : Prop extends Host.SameClock before after where
  process : after.process = before.process
  locks : after.locks = before.locks

namespace Host

variable {host before between after : Host} {path : String}

theorem SameClock.refl (host : Host) : SameClock host host := ⟨rfl, rfl⟩

theorem SameWorld.refl (host : Host) : SameWorld host host := ⟨⟨rfl, rfl⟩, rfl, rfl⟩

theorem SameWorld.trans (first : SameWorld before between) (second : SameWorld between after) :
    SameWorld before after where
  now := second.now.trans first.now
  agenda := second.agenda.trans first.agenda
  process := second.process.trans first.process
  locks := second.locks.trans first.locks

theorem sameWorld_withFiles (host : Host) (files : FileSystem) :
    SameWorld host (host.withFiles files) := ⟨⟨rfl, rfl⟩, rfl, rfl⟩

theorem sameWorld_tell (host : Host) (id : ProcessId) (notice : Notice) :
    SameWorld host (host.tell id notice) := ⟨⟨rfl, rfl⟩, rfl, rfl⟩

theorem sameWorld_draw (host : Host) (bound : Nat) : SameWorld host (host.draw bound).2 :=
  ⟨⟨rfl, rfl⟩, rfl, rfl⟩

theorem sameWorld_create {id : FileId} (created : host.create path = .ok (id, after)) :
    SameWorld host after := by
  rw [(create_eq_ok created).2]
  exact sameWorld_withFiles _ _

theorem sameWorld_fill {id : FileId} {content : ByteArray}
    (filled : host.fill id content = .ok after) : SameWorld host after := by
  rw [fill_eq_ok filled]
  exact sameWorld_withFiles _ _

theorem sameWorld_link {existing : String} (linked : host.link existing path = .ok after) :
    SameWorld host after := by
  rw [(link_eq_ok linked).2.1]
  exact sameWorld_withFiles _ _

theorem sameWorld_unlink (removed : host.unlink path = .ok after) : SameWorld host after := by
  rw [(unlink_eq_ok removed).2]
  exact sameWorld_withFiles _ _

theorem sameWorld_remaining (host : Host) (path : String) :
    SameWorld host ((host.unlink path).toOption.getD host) := by
  rcases removed : host.unlink path with error | after
  · exact .refl host
  · exact sameWorld_unlink removed

theorem sameWorld_touch (touched : host.touch path = .ok after) : SameWorld host after := by
  rw [(touch_eq_ok touched).2]
  exact sameWorld_withFiles _ _

/-- To `read` a file costs the process its lock on it, and does nothing else. -/
theorem read_snd (host : Host) (process : ProcessId) (path : String) :
    (host.read process path).2 = host ∨ ∃ file found, host.stat path = .ok (file, found) ∧
      (host.read process path).2 = host.loseLock process file := by
  unfold read stat
  split
  · exact Or.inl rfl
  case h_2 file found looked => exact Or.inr ⟨file, found, looked, rfl⟩

theorem sameClock_read (host : Host) (process : ProcessId) (path : String) :
    SameClock host (host.read process path).2 := by
  rcases host.read_snd process path with same | ⟨file, found, _, lost⟩
  · rw [same]
    exact .refl host
  · rw [lost]
    exact ⟨rfl, rfl⟩

end Host

theorem Locker.sameWorld_release (locker : Locker) (host : Host) :
    host.SameWorld (locker.release host).2 := by
  unfold release
  split
  · exact .refl host
  · split
    case h_1 removed unlinked =>
      exact (Host.sameWorld_unlink unlinked).trans (removed.sameWorld_tell _ _)
    case h_2 => exact host.sameWorld_tell _ _

theorem RefreshTask.sameWorld_run (task : RefreshTask) (host : Host) :
    host.SameWorld (task.run host) := by
  unfold run
  split
  case h_1 touched isTouched => exact Host.sameWorld_touch isTouched
  case h_2 => exact host.sameWorld_tell _ _

theorem Locker.sameWorld_refresh (locker : Locker) (host : Host) :
    host.SameWorld (locker.refresh host) := by
  unfold refresh
  split
  · exact .refl host
  case h_2 task _ => exact task.sameWorld_run host

namespace Acquisition

variable (work : Acquisition) (host : Host)

/-- What is left of the record locks at a step: reading the owner of a lock closes a file. -/
def closing : Host :=
  match work.stage with
  | .readingOwner _ => (host.read work.locker.process work.lock).2
  | _ => host

theorem sameWorld_wait : host.SameWorld (work.wait host).2 := by
  unfold wait
  split
  · exact .refl host
  · exact host.sameWorld_draw (work.locker.settings.jitterLimit.toNat + 1)

theorem sameWorld_notLinked (refusal : Option IoError) :
    host.SameWorld (work.notLinked host refusal).2 := by
  unfold notLinked
  split
  · exact .refl host
  · split
    · exact .refl host
    · exact host.sameWorld_tell _ _

theorem sameWorld_notBroken (error : IoError) :
    host.SameWorld (work.notBroken host error).2 := by
  unfold notBroken
  split
  · exact .refl host
  · exact host.sameWorld_tell _ _

theorem sameWorld_finish (status : MailLockStatus) :
    host.SameWorld (work.finish host status).2 := by
  unfold finish
  split <;> exact host.sameWorld_tell _ _

/-- But for the file of an owner, which reading it is `closing`, a step leaves the `SameWorld`. -/
theorem sameWorld_step : (work.closing host).SameWorld (work.step host).2 := by
  cases stage : work.stage with
  | releasing =>
      simp only [closing, step, stage]
      exact work.locker.sameWorld_release host
  | creating =>
      simp only [closing, step, stage]
      split
      case h_1 file created made => exact Host.sameWorld_create made
      case h_2 => exact host.sameWorld_tell _ _
  | writing file =>
      simp only [closing, step, stage]
      split
      case h_1 written filled => exact Host.sameWorld_fill filled
      case h_2 => exact host.sameWorld_tell _ _
  | discarding =>
      simp only [closing, step, stage]
      exact Host.sameWorld_remaining host work.temporary
  | linking =>
      simp only [closing, step, stage]
      split
      case h_1 after linked => exact Host.sameWorld_link linked
      case h_2 => exact .refl host
  | comparing refusal =>
      simp only [closing, step, stage]
      split
      · exact .refl host
      · exact work.sameWorld_notLinked host _
  | comparingLock refusal file =>
      simp only [closing, step, stage]
      split
      · split
        · exact .refl host
        · exact work.sameWorld_notLinked host _
      · exact work.sameWorld_notLinked host _
  | judging =>
      simp only [closing, step, stage]
      split
      · split
        · exact .refl host
        · split
          · exact .refl host
          · exact work.sameWorld_wait host
      · exact work.sameWorld_wait host
  | readingOwner found =>
      simp only [closing, step, stage]
      split
      case h_1 content closed read =>
        rw [read]
        split
        · exact .refl closed
        · exact work.sameWorld_wait closed
      case h_2 error closed read =>
        rw [read]
        exact work.sameWorld_wait closed
  | askingOwner found owner =>
      simp only [closing, step, stage]
      split
      · exact work.sameWorld_wait host
      · exact .refl host
  | rechecking stale =>
      simp only [closing, step, stage]
      split
      · exact .refl host
      · exact work.sameWorld_notBroken host _
  | breaking stale =>
      simp only [closing, step, stage]
      split
      case h_1 removed unlinked =>
        exact (Host.sameWorld_unlink unlinked).trans (removed.sameWorld_tell _ _)
      case h_2 => exact work.sameWorld_notBroken host _
  | resting wake =>
      simp only [closing, step, stage]
      exact .refl host
  | clearing status =>
      simp only [closing, step, stage]
      exact (Host.sameWorld_remaining host work.temporary).trans
        (work.sameWorld_finish _ status)
  | finished status =>
      simp only [closing, step, stage]
      exact .refl host

/-- No step moves the clock or makes an appointment. -/
theorem sameClock_step : host.SameClock (work.step host).2 := by
  have closed : host.SameClock (work.closing host) := by
    unfold closing
    split
    · exact host.sameClock_read _ _
    · exact .refl host
  have world := work.sameWorld_step host
  exact ⟨world.now.trans closed.now, world.agenda.trans closed.agenda⟩

end Acquisition

end MailSpool
