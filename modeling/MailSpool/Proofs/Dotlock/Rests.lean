import MailSpool.Dotlock.Acquisition
import MailSpool.Proofs.Host.Stillness

/-!
# The rests of a locker

What a locker comes upon after it has rested a number of times depends on its settings and on the
host at its first attempt, and on nothing that it does between the rests: to read the owner of a
lock may cost its process a record lock, and no files, no clock and no process depend on these. Nor
do they depend on what was told. Hosts that differ in nothing else are `Alike`.
-/

namespace MailSpool

namespace Host

/-- Hosts that differ in record locks and in what was told. -/
def Alike (host other : Host) : Prop :=
  ∃ locks notices, other = { host with locks := locks, notices := notices }

namespace Alike

variable {host other last : Host}

theorem refl (host : Host) : Alike host host :=
  ⟨host.locks, host.notices, rfl⟩

theorem symm (alike : Alike host other) : Alike other host := by
  rcases alike with ⟨_, _, rfl⟩
  exact ⟨host.locks, host.notices, rfl⟩

theorem trans (first : Alike host other) (second : Alike other last) : Alike host last := by
  rcases first with ⟨_, _, rfl⟩
  rcases second with ⟨locks, notices, rfl⟩
  exact ⟨locks, notices, rfl⟩

theorem tell (alike : Alike host other) (id : ProcessId) (notice : Notice) :
    Alike host (other.tell id notice) :=
  alike.trans ⟨other.locks, _, rfl⟩

theorem read (alike : Alike host other) (process : ProcessId) (path : String) :
    Alike host (other.read process path).2 := by
  refine alike.trans ?_
  rcases other.read_snd process path with same | ⟨file, _, _, same⟩
  · rw [same]
    exact .refl other
  · rw [same]
    exact ⟨_, other.notices, rfl⟩

theorem files (alike : Alike host other) : other.files = host.files := by
  rcases alike with ⟨_, _, rfl⟩
  rfl

theorem now (alike : Alike host other) : other.now = host.now := by
  rcases alike with ⟨_, _, rfl⟩
  rfl

theorem agenda (alike : Alike host other) : other.agenda = host.agenda := by
  rcases alike with ⟨_, _, rfl⟩
  rfl

theorem isAlive (alike : Alike host other) (id : ProcessId) :
    other.isAlive id = host.isAlive id := by
  rcases alike with ⟨_, _, rfl⟩
  rfl

theorem draw (alike : Alike host other) (bound : Nat) :
    (other.draw bound).1 = (host.draw bound).1 ∧
      Alike (host.draw bound).2 (other.draw bound).2 := by
  rcases alike with ⟨locks, notices, rfl⟩
  exact ⟨rfl, locks, notices, rfl⟩

theorem link_eq_ok (alike : Alike host other) {existing path : String} {linked : Host}
    (made : host.link existing path = .ok linked) :
    ∃ after, other.link existing path = .ok after ∧ Alike linked after := by
  rcases alike with ⟨locks, notices, rfl⟩
  unfold Host.link at made ⊢
  rcases map_eq_ok_iff.mp made with ⟨files, called, rfl⟩
  exact ⟨_, map_eq_ok_iff.mpr ⟨files, called, rfl⟩, locks, notices, rfl⟩

theorem link_eq_error (alike : Alike host other) {existing path : String} {error : IoError}
    (refused : host.link existing path = .error error) :
    other.link existing path = .error error := by
  rcases alike with ⟨locks, notices, rfl⟩
  unfold Host.link at refused ⊢
  rcases called : calling [existing, path] (host.files.link existing path host.now) with
    failure | files
  · rw [called] at refused
    cases refused
    rfl
  · rw [called] at refused
    cases refused

theorem unlink_eq_ok (alike : Alike host other) {path : String} {removed : Host}
    (unlinked : host.unlink path = .ok removed) :
    ∃ after, other.unlink path = .ok after ∧ Alike removed after := by
  rcases alike with ⟨locks, notices, rfl⟩
  unfold Host.unlink at unlinked ⊢
  rcases map_eq_ok_iff.mp unlinked with ⟨files, called, rfl⟩
  exact ⟨_, map_eq_ok_iff.mpr ⟨files, called, rfl⟩, locks, notices, rfl⟩

theorem perform (alike : Alike host other) (deed : Deed) :
    Alike (host.perform deed) (other.perform deed) := by
  rcases alike with ⟨locks, notices, rfl⟩
  cases deed with
  | unlink path =>
      simp only [Host.perform, Host.unlink]
      rcases calling [path] (host.files.unlink path host.now) with error | files
      · exact ⟨locks, notices, rfl⟩
      · exact ⟨locks, notices, rfl⟩
  | touch path =>
      simp only [Host.perform, Host.touch]
      split
      · exact ⟨locks, notices, rfl⟩
      · rcases host.files.touch path host.now with errno | files
        · exact ⟨locks, notices, rfl⟩
        · exact ⟨locks, notices, rfl⟩
  | exit process => exact ⟨locks.releaseAll process, notices, rfl⟩
  | signal process number =>
      simp only [Host.perform, Host.signal, Host.changeProcess]
      split
      · exact ⟨locks, notices, rfl⟩
      · exact ⟨locks, notices, rfl⟩

theorem keep (alike : Alike host other) (appointment : Appointment) :
    Alike (host.keep appointment) (other.keep appointment) := by
  rcases alike with ⟨locks, notices, rfl⟩
  exact perform ⟨locks, notices, rfl⟩ appointment.deed

theorem elapseUntil (alike : Alike host other) (time : Instant) :
    Alike (host.elapseUntil time) (other.elapseUntil time) := by
  have sameCount : other.occurrences time = host.occurrences time := by
    rcases alike with ⟨_, _, rfl⟩
    rfl
  unfold Host.elapseUntil
  rw [sameCount]
  clear sameCount
  generalize host.occurrences time = steps
  induction steps generalizing host other with
  | zero =>
      rcases alike with ⟨locks, notices, rfl⟩
      exact ⟨locks, notices, rfl⟩
  | succ steps ih =>
      simp only [elapseWithin, alike.agenda]
      split
      case h_1 appointment _ =>
        split
        · exact ih (alike.keep appointment)
        · rcases alike with ⟨locks, notices, rfl⟩
          exact ⟨locks, notices, rfl⟩
      case h_2 =>
        rcases alike with ⟨locks, notices, rfl⟩
        exact ⟨locks, notices, rfl⟩

end Alike

end Host

namespace MailSettings

/-- How long a locker rests on a host before an attempt, in nanoseconds. -/
def pause (settings : MailSettings) (host : Host) (attempt : UInt32) : Nat :=
  let jitter := (host.draw (settings.jitterLimit.toNat + 1)).1
  milliseconds (settings.backoff attempt (.ofNat jitter)).toNat

/-- A host after a locker has rested on it before an attempt. -/
def rest (settings : MailSettings) (host : Host) (attempt : UInt32) : Host :=
  (host.draw (settings.jitterLimit.toNat + 1)).2.elapseUntil
    (host.now + settings.pause host attempt)

/-- A host after a locker has rested on it a number of times. -/
def rested (settings : MailSettings) (host : Host) : Nat → Host
  | 0 => host
  | count + 1 => settings.rest (settings.rested host count) (.ofNat (count + 1))

theorem pause_of_alike (settings : MailSettings) {host other : Host} (alike : host.Alike other)
    (attempt : UInt32) : settings.pause other attempt = settings.pause host attempt := by
  unfold pause
  rw [(alike.draw _).1]

theorem now_rest (settings : MailSettings) (host : Host) (attempt : UInt32) :
    (settings.rest host attempt).now = host.now + settings.pause host attempt := by
  rw [rest, Host.now_elapseUntil]
  exact Int.max_eq_right (Int.le_add_of_nonneg_right (Int.natCast_nonneg _))

/-- In a still time a locker that has `rested` finds the same files. -/
theorem rested_of_still (settings : MailSettings) {host : Host} (still : host.IsStill)
    (count : Nat) :
    (settings.rested host count).files = host.files ∧ (settings.rested host count).IsStill := by
  induction count with
  | zero => exact ⟨rfl, still⟩
  | succ count ih =>
      have drawn : ((settings.rested host count).draw (settings.jitterLimit.toNat + 1)).2.IsStill :=
        ih.2.of_agenda rfl
      exact ⟨(drawn.elapseUntil _).1.trans ih.1, (drawn.elapseUntil _).2⟩

end MailSettings

end MailSpool
