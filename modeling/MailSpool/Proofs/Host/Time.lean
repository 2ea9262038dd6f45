import MailSpool.Host.Time
import MailSpool.Proofs.Host.Files

/-!
# What the passing of time preserves

As time passes, the clock is set, appointments are taken from the agenda or made anew after their
period, and deeds are done. No deed makes an appointment, so only deeds of the kind that was
expected are ever done. What these preserve, and the setting of the clock, holds at any later time.
-/

namespace MailSpool

namespace Host

/-- Nothing but deeds of a kind is going to happen. -/
def Expects (host : Host) (allowed : Deed → Prop) : Prop :=
  ∀ appointment ∈ host.agenda, allowed appointment.deed

variable {host after : Host} {allowed : Deed → Prop}

theorem files_changeProcess (host : Host) (id : ProcessId) (change : Process → Process) :
    (host.changeProcess id change).files = host.files := by
  unfold changeProcess
  split <;> rfl

theorem agenda_changeProcess (host : Host) (id : ProcessId) (change : Process → Process) :
    (host.changeProcess id change).agenda = host.agenda := by
  unfold changeProcess
  split <;> rfl

theorem agenda_unlink {path : String} (removed : host.unlink path = .ok after) :
    after.agenda = host.agenda := by
  rw [(unlink_eq_ok removed).2]
  rfl

theorem agenda_perform (host : Host) (deed : Deed) : (host.perform deed).agenda = host.agenda := by
  cases deed with
  | unlink path =>
      simp only [perform]
      rcases removed : host.unlink path with error | after
      · rfl
      · exact agenda_unlink removed
  | touch path =>
      simp only [perform]
      rcases touched : host.touch path with failure | after
      · rfl
      · rw [(touch_eq_ok touched).2]
        rfl
  | exit process => rfl
  | signal process number => exact host.agenda_changeProcess process _

theorem sameEntries_perform (host : Host) {deed : Deed}
    (removesNothing : ∀ path, deed ≠ .unlink path) :
    FileSystem.SameEntries host.files (host.perform deed).files := by
  cases deed with
  | unlink path => exact absurd rfl (removesNothing path)
  | touch path =>
      simp only [perform]
      rcases touched : host.touch path with failure | after
      · exact .refl host.files
      · rcases FileSystem.touch_spec (touch_eq_ok touched).1 with ⟨_, _, _, _, same, _, _⟩
        exact same
  | exit process => exact .refl host.files
  | signal process number =>
      have same : (host.perform (.signal process number)).files = host.files :=
        host.files_changeProcess process _
      rw [same]
      exact .refl host.files

theorem mem_of_earliest? {agenda : List Appointment} {appointment : Appointment}
    (earliest : Appointment.earliest? agenda = some appointment) : appointment ∈ agenda := by
  induction agenda generalizing appointment with
  | nil => simp [Appointment.earliest?] at earliest
  | cons first others ih =>
      unfold Appointment.earliest? at earliest
      split at earliest
      · cases earliest
        exact List.mem_cons_self
      case h_2 other otherEarliest =>
        split at earliest
        · cases earliest
          exact List.mem_cons_of_mem _ (ih otherEarliest)
        · cases earliest
          exact List.mem_cons_self

theorem le_now_elapseUntil (host : Host) (time : Instant) :
    time ≤ (host.elapseUntil time).now := by
  unfold elapseUntil
  generalize host.occurrences time = steps
  induction steps generalizing host with
  | zero => exact Int.le_max_right host.now time
  | succ steps ih =>
      simp only [elapseWithin]
      split
      · split
        · exact ih _
        · exact Int.le_max_right host.now time
      · exact Int.le_max_right host.now time

variable (Invariant : Host → Prop)

theorem keep_induction {appointment : Appointment}
    (clock : ∀ host now agenda, Invariant host →
      Invariant { host with now := now, agenda := agenda })
    (perform : ∀ host deed, allowed deed → Invariant host → Invariant (host.perform deed))
    (expects : host.Expects allowed) (member : appointment ∈ host.agenda)
    (initial : Invariant host) :
    Invariant (host.keep appointment) ∧ (host.keep appointment).Expects allowed := by
  unfold keep
  refine ⟨perform _ _ (expects appointment member) (clock host _ _ initial), ?_⟩
  intro kept keptMember
  rw [agenda_perform] at keptMember
  have others : ∀ other ∈ host.agenda.erase appointment, allowed other.deed := by
    intro other otherMember
    exact expects other (List.mem_of_mem_erase otherMember)
  dsimp only at keptMember
  split at keptMember
  · exact others kept keptMember
  · rcases List.mem_append.mp keptMember with old | anew
    · exact others kept old
    · rw [List.mem_singleton.mp anew]
      exact expects appointment member

theorem elapseWithin_induction
    (clock : ∀ host now agenda, Invariant host →
      Invariant { host with now := now, agenda := agenda })
    (perform : ∀ host deed, allowed deed → Invariant host → Invariant (host.perform deed))
    (time : Instant) (steps : Nat) (expects : host.Expects allowed) (initial : Invariant host) :
    Invariant (host.elapseWithin time steps) ∧ (host.elapseWithin time steps).Expects allowed := by
  have rests : ∀ host : Host, host.Expects allowed → Invariant host →
      Invariant { host with now := max host.now time } ∧
        { host with now := max host.now time }.Expects allowed := by
    intro host expects holds
    exact ⟨clock host _ host.agenda holds, expects⟩
  induction steps generalizing host with
  | zero => exact rests host expects initial
  | succ steps ih =>
      unfold elapseWithin
      split
      case h_1 appointment earliest =>
        split
        · rcases keep_induction Invariant clock perform expects (mem_of_earliest? earliest)
            initial with
            ⟨holds, stillExpects⟩
          exact ih stillExpects holds
        · exact rests host expects initial
      case h_2 => exact rests host expects initial

/-- What every `Deed` preserves that a host `Expects` still holds after `elapseUntil`. -/
theorem elapseUntil_induction
    (clock : ∀ host now agenda, Invariant host →
      Invariant { host with now := now, agenda := agenda })
    (perform : ∀ host deed, allowed deed → Invariant host → Invariant (host.perform deed))
    (time : Instant) (expects : host.Expects allowed) (initial : Invariant host) :
    Invariant (host.elapseUntil time) ∧ (host.elapseUntil time).Expects allowed :=
  elapseWithin_induction Invariant clock perform time _ expects initial

end Host

end MailSpool
