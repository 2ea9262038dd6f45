import MailSpool.Proofs.Dotlock.Clock
import MailSpool.Proofs.Dotlock.Temporaries
import MailSpool.Proofs.Host.Time

/-!
# Quiet times

While a locker rests, others may give back their locks, processes may end and signals may come. As
long as all that happens `IsQuiet`, all files keep their content and their times, and the temporary
files stay where they are.
-/

namespace MailSpool

open FileSystem

/-- A deed that removes a lock, if it acts on files at all. -/
def Deed.IsQuiet : Deed → Prop
  | .unlink path => path.toList.getLast? = some 'k'
  | .touch _ => False
  | .exit _ | .signal _ _ => True

/-- Nothing but quiet deeds is going to happen. -/
def Host.IsQuiet (host : Host) : Prop :=
  ∀ appointment ∈ host.agenda, appointment.deed.IsQuiet

theorem Host.SameClock.isQuiet {before after : Host} (clock : before.SameClock after)
    (quiet : before.IsQuiet) : after.IsQuiet := by
  intro appointment member
  rw [clock.agenda] at member
  exact quiet appointment member

/-- What a quiet time leaves as it was. -/
structure Host.Passes (before after : Host) : Prop where
  spares : Spares before.files after.files fun _ => False
  retains : Retains before.files after.files fun _ => False
  quiet : before.IsQuiet → after.IsQuiet

namespace Host

/-- A `Deed` that `IsQuiet` turns no temporary file aside and changes no content. -/
theorem spares_perform (host : Host) {deed : Deed} (quiet : deed.IsQuiet) :
    Spares host.files (host.perform deed).files (fun _ => False) ∧
      Retains host.files (host.perform deed).files fun _ => False := by
  cases deed with
  | unlink path => exact ⟨.remaining_lock host _ quiet, host.retains_remaining path _⟩
  | touch path => exact False.elim quiet
  | exit process => exact ⟨.refl _ _, .refl _ _⟩
  | signal process number =>
      have same : (host.perform (.signal process number)).files = host.files :=
        host.files_changeProcess process _
      rw [same]
      exact ⟨.refl _ _, .refl _ _⟩

theorem passes_elapseUntil (host : Host) (time : Instant) (quiet : host.IsQuiet) :
    Passes host (host.elapseUntil time) := by
  have passed := elapseUntil_induction
    (fun later => Spares host.files later.files (fun _ => False) ∧
      Retains host.files later.files fun _ => False)
    (fun _ _ _ passes => passes) ?_ time quiet ⟨.refl _ _, .refl _ _⟩
  · exact ⟨passed.1.1, passed.1.2, fun _ => passed.2⟩
  · rintro later deed isQuiet ⟨spares, retains⟩
    rcases later.spares_perform isQuiet with ⟨nextSpares, nextRetains⟩
    exact ⟨spares.trans nextSpares, retains.trans nextRetains⟩

end Host

end MailSpool
