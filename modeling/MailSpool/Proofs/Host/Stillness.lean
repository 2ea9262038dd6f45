import MailSpool.Proofs.Host.RecordLocks

/-!
# Stillness

Where nobody is going to act on files, the passing of time changes none of them: processes end,
signals come, and the clock goes on. The clock is never set back, and a process that has ended does
not come back, so what is not too late for a lock, and which owner is alive, can be told from the
end of a while for all of it.
-/

namespace MailSpool

/-- A deed that acts on a file. -/
def Deed.ActsOnFiles : Deed → Prop
  | .unlink _ | .touch _ => True
  | .exit _ | .signal _ _ => False

/-- Nobody is going to act on a file. -/
def Host.IsStill (host : Host) : Prop :=
  host.Expects fun deed => ¬deed.ActsOnFiles

/-- The clock was not set back, and no process has come back to life. -/
structure Host.Precedes (before after : Host) : Prop where
  now : before.now ≤ after.now
  alive : ∀ id, after.isAlive id = true → before.isAlive id = true

namespace Host

variable {host before between after : Host}

theorem IsStill.of_agenda (still : before.IsStill) (same : after.agenda = before.agenda) :
    after.IsStill := by
  intro appointment member
  rw [same] at member
  exact still appointment member

theorem isStill_of_agenda_eq_nil (noAppointment : host.agenda = []) : host.IsStill := by
  intro appointment member
  simp [noAppointment] at member

theorem files_perform_of_still (host : Host) {deed : Deed} (still : ¬deed.ActsOnFiles) :
    (host.perform deed).files = host.files := by
  cases deed with
  | unlink path => exact absurd trivial still
  | touch path => exact absurd trivial still
  | exit process => rfl
  | signal process number => exact host.files_changeProcess process _

/-- Where a host `IsStill`, no file changes by `elapseUntil`. -/
theorem IsStill.elapseUntil (still : host.IsStill) (time : Instant) :
    (host.elapseUntil time).files = host.files ∧ (host.elapseUntil time).IsStill := by
  refine elapseUntil_induction (fun later => later.files = host.files) (fun _ _ _ same => same) ?_
    time still rfl
  intro later deed allowed same
  rw [files_perform_of_still later allowed, same]

theorem now_perform (host : Host) (deed : Deed) : (host.perform deed).now = host.now := by
  cases deed with
  | unlink path => exact (sameWorld_remaining host path).now
  | touch path =>
      simp only [perform]
      rcases touched : host.touch path with failure | after
      · rfl
      · exact (sameWorld_touch touched).now
  | exit process => rfl
  | signal process number =>
      simp only [perform, signal, changeProcess]
      split <;> rfl

theorem now_elapseUntil (host : Host) (time : Instant) :
    (host.elapseUntil time).now = max host.now time := by
  unfold Host.elapseUntil
  generalize host.occurrences time = steps
  induction steps generalizing host with
  | zero => rfl
  | succ steps ih =>
      simp only [elapseWithin]
      split
      case h_1 appointment _ =>
        split
        case isTrue due =>
          rw [ih, keep, now_perform]
          change max (max host.now appointment.due) time = max host.now time
          rw [Int.max_assoc, Int.max_eq_right due]
        case isFalse => rfl
      case h_2 => rfl

theorem now_le_elapseUntil (host : Host) (time : Instant) :
    host.now ≤ (host.elapseUntil time).now := by
  rw [now_elapseUntil]
  exact Int.le_max_left host.now time

namespace Precedes

theorem refl (host : Host) : Precedes host host :=
  ⟨Int.le_refl _, fun _ alive => alive⟩

theorem trans (first : Precedes before between) (second : Precedes between after) :
    Precedes before after :=
  ⟨Int.le_trans first.now second.now, fun id alive => first.alive id (second.alive id alive)⟩

theorem elapseUntil (host : Host) (time : Instant) : Precedes host (host.elapseUntil time) :=
  have wears : Wears (fun _ => False) host (host.elapseUntil time) := wears_elapseUntil host time
  ⟨host.now_le_elapseUntil time, fun _ alive => wears.isAlive alive⟩

theorem exit (host : Host) (id : ProcessId) : Precedes host (host.exit id) :=
  have wears : Wears (fun _ => False) host (host.exit id) := wears_exit host id
  ⟨Int.le_refl _, fun _ alive => wears.isAlive alive⟩

end Precedes

end Host

namespace Acquisition

theorem precedes_step (work : Acquisition) (host : Host) :
    host.Precedes (work.step host).2 :=
  ⟨Int.le_of_eq (work.sameClock_step host).now.symm,
    fun _ alive => (work.wears_step host).isAlive alive⟩

end Acquisition

end MailSpool
