import MailSpool.Dotlock.Acquisition
import MailSpool.Proofs.Dotlock.Findings

/-!
# How long a locker rests

A locker rests before an attempt for one step more than before the last one, up to a limit, and
for a random part of at most a quarter of a step. Its numbers have 64 bits. The product of the step
and the attempt is bounded by the largest of them, and the limit makes that bound disappear, so
what is not random is as it should be, and never less than before the last attempt.

The sum with the random part is not bounded. By `backoff_exact_iff_fits` it is as it should be
exactly if it is a number of 64 bits. Settings that break no rule may be so large that it is not,
and the locker rests for less than a quarter of a step then.
-/

namespace MailSpool

namespace MailSettings

/-- How long a locker should rest before an attempt, in milliseconds. -/
def delay (settings : MailSettings) (attempt jitter : Nat) : Nat :=
  min (settings.retryStep.toNat * attempt) settings.retryLimit.toNat + jitter

variable {settings : MailSettings}

theorem toNat_saturatingProduct (first second : UInt64) :
    (saturatingProduct first second).toNat =
      min (first.toNat * second.toNat) (UInt64.size - 1) := by
  rw [saturatingProduct, UInt64.toNat_ofNat_of_lt']
  exact Nat.lt_of_le_of_lt (Nat.min_le_right ..) (by decide)

/-- The bound of `saturatingProduct` is of no effect under the limit. -/
theorem toNat_backoffBase (settings : MailSettings) (attempt : UInt32) :
    (settings.backoffBase attempt).toNat = settings.delay attempt.toNat 0 := by
  have small := settings.retryLimit.toNat_lt
  rw [backoffBase, UInt64.toNat_min, toNat_saturatingProduct, UInt32.toNat_toUInt64, delay,
    Nat.min_assoc, Nat.min_eq_right (show _ ≤ UInt64.size - 1 from Nat.le_pred_of_lt small)]
  rfl

theorem toNat_jitterLimit (settings : MailSettings) :
    settings.jitterLimit.toNat = settings.retryStep.toNat / 4 := by
  rw [jitterLimit, UInt64.toNat_div]
  rfl

theorem toNat_backoff (settings : MailSettings) (attempt : UInt32) (jitter : UInt64) :
    (settings.backoff attempt jitter).toNat =
      settings.delay attempt.toNat jitter.toNat % UInt64.size := by
  rw [backoff, UInt64.toNat_add, toNat_backoffBase]
  rfl

theorem delay_mono (settings : MailSettings) {early late jitter more : Nat} (before : early ≤ late)
    (less : jitter ≤ more) : settings.delay early jitter ≤ settings.delay late more := by
  have grows := Nat.mul_le_mul_left settings.retryStep.toNat before
  unfold delay
  omega

theorem backoffBase_mono (settings : MailSettings) {early late : UInt32} (before : early ≤ late) :
    settings.backoffBase early ≤ settings.backoffBase late := by
  rw [UInt64.le_iff_toNat_le, toNat_backoffBase, toNat_backoffBase]
  exact settings.delay_mono (UInt32.le_iff_toNat_le.mp before) (Nat.le_refl 0)

theorem toNat_backoff_eq_delay_iff (settings : MailSettings) (attempt : UInt32) (jitter : UInt64) :
    (settings.backoff attempt jitter).toNat = settings.delay attempt.toNat jitter.toNat ↔
      settings.delay attempt.toNat jitter.toNat < UInt64.size := by
  rw [toNat_backoff]
  exact ⟨fun same => same ▸ Nat.mod_lt _ (by decide), Nat.mod_eq_of_lt⟩

/-- A `delay` that is too large for 64 bits makes a `backoff` of less than a quarter of a step. -/
theorem backoff_lt_of_delay {attempt : UInt32} {jitter : UInt64}
    (within : jitter ≤ settings.jitterLimit)
    (large : UInt64.size ≤ settings.delay attempt.toNat jitter.toNat) :
    (settings.backoff attempt jitter).toNat + UInt64.size =
        settings.delay attempt.toNat jitter.toNat ∧
      (settings.backoff attempt jitter).toNat < settings.retryStep.toNat / 4 := by
  have small := settings.retryLimit.toNat_lt_size
  have step := settings.retryStep.toNat_lt_size
  have few := UInt64.le_iff_toNat_le.mp within
  rw [toNat_jitterLimit] at few
  have below : settings.delay attempt.toNat jitter.toNat <
      UInt64.size + settings.retryStep.toNat / 4 := by
    unfold delay
    omega
  have wrapped : settings.delay attempt.toNat jitter.toNat % UInt64.size =
      settings.delay attempt.toNat jitter.toNat - UInt64.size := by
    rw [Nat.mod_eq_sub_mod large, Nat.mod_eq_of_lt (by omega)]
  rw [toNat_backoff, wrapped]
  omega

/-- Every `backoff` is the `delay` if the longest of them is. -/
theorem forall_toNat_backoff_iff (settings : MailSettings) :
    (∀ (attempt : UInt32) (jitter : UInt64), jitter ≤ settings.jitterLimit →
      (settings.backoff attempt jitter).toNat = settings.delay attempt.toNat jitter.toNat) ↔
      settings.delay 4294967295 (settings.retryStep.toNat / 4) < UInt64.size := by
  constructor
  · intro correct
    rw [← toNat_jitterLimit]
    exact (toNat_backoff_eq_delay_iff settings 4294967295 settings.jitterLimit).mp
      (correct 4294967295 settings.jitterLimit (UInt64.le_refl _))
  · intro fits attempt jitter within
    have few := UInt64.le_iff_toNat_le.mp within
    rw [toNat_jitterLimit] at few
    have last : attempt.toNat ≤ 4294967295 := Nat.le_pred_of_lt attempt.toNat_lt
    exact (toNat_backoff_eq_delay_iff settings attempt jitter).mpr
      (Nat.lt_of_le_of_lt (settings.delay_mono last few) fits)

end MailSettings

namespace Acquisition

/-- A locker that may retry counts the attempt and rests for the `backoff` before it, with some
random part up to `jitterLimit`. -/
theorem exists_backoff_of_wait {work : Acquisition} (host : Host)
    (may : work.attempt < work.retries) :
    (work.wait host).1.attempt.toNat = work.attempt.toNat + 1 ∧
      ∃ jitter ≤ work.locker.settings.jitterLimit, (work.wait host).1.stage =
        .resting (host.now + milliseconds
          (work.locker.settings.backoff (work.wait host).1.attempt jitter).toNat) := by
  have more := UInt32.lt_iff_toNat_lt.mp may
  have bounded := work.retries.toNat_lt
  rw [wait_of_lt (UInt32.not_le.mpr may)]
  refine ⟨?_, .ofNat (host.draw (work.locker.settings.jitterLimit.toNat + 1)).1, ?_, rfl⟩
  · change (work.attempt + 1).toNat = _
    rw [UInt32.toNat_add]
    exact Nat.mod_eq_of_lt (by simpa using by omega)
  · have drawn : (host.draw (work.locker.settings.jitterLimit.toNat + 1)).1 <
        work.locker.settings.jitterLimit.toNat + 1 := Nat.mod_lt _ (Nat.succ_pos _)
    have limited := work.locker.settings.jitterLimit.toNat_lt
    rw [UInt64.le_iff_toNat_le, UInt64.toNat_ofNat_of_lt' (by simpa [UInt64.size] using by omega)]
    exact Nat.le_of_lt_succ drawn

end Acquisition

namespace MailSettings

/-- How long a locker with some settings rests before its attempts. -/
structure BacksOff (settings : MailSettings) : Prop where
  /-- A rest is as long as it should be exactly if that is a number of 64 bits. -/
  exactly : ∀ (attempt : UInt32) (jitter : UInt64), jitter ≤ settings.jitterLimit →
    ((settings.backoff attempt jitter).toNat = settings.delay attempt.toNat jitter.toNat ↔
      settings.delay attempt.toNat jitter.toNat < UInt64.size)
  /-- Otherwise it is short by the number of all words, and shorter than a quarter of a step. -/
  carried : ∀ (attempt : UInt32) (jitter : UInt64), jitter ≤ settings.jitterLimit →
    UInt64.size ≤ settings.delay attempt.toNat jitter.toNat →
      (settings.backoff attempt jitter).toNat + UInt64.size =
          settings.delay attempt.toNat jitter.toNat ∧
        (settings.backoff attempt jitter).toNat < settings.retryStep.toNat / 4
  /-- All rests are as they should be if the longest one is. -/
  all : (∀ (attempt : UInt32) (jitter : UInt64), jitter ≤ settings.jitterLimit →
    (settings.backoff attempt jitter).toNat = settings.delay attempt.toNat jitter.toNat) ↔
      settings.delay 4294967295 (settings.retryStep.toNat / 4) < UInt64.size
  /-- The random part is at most a quarter of a step. -/
  jitter : settings.jitterLimit.toNat = settings.retryStep.toNat / 4
  /-- Without its random part a rest is always as it should be. -/
  base : ∀ attempt : UInt32, (settings.backoffBase attempt).toNat =
    min (settings.retryStep.toNat * attempt.toNat) settings.retryLimit.toNat
  grows : ∀ early late : UInt32, early ≤ late →
    settings.backoffBase early ≤ settings.backoffBase late
  /-- A locker that may retry counts the attempt and rests that long. -/
  waits : ∀ (work : Acquisition) (host : Host), work.locker.settings = settings →
    work.attempt < work.retries →
      (work.wait host).1.attempt.toNat = work.attempt.toNat + 1 ∧
        ∃ jitter ≤ settings.jitterLimit, (work.wait host).1.stage =
          .resting (host.now + milliseconds
            (settings.backoff (work.wait host).1.attempt jitter).toNat)

/-- For all settings, `backoff` is `delay` exactly if that fits into 64 bits, and `backoffBase` is
`delay` without the random part. -/
theorem backoff_exact_iff_fits (settings : MailSettings) : settings.BacksOff where
  exactly attempt jitter _ := toNat_backoff_eq_delay_iff settings attempt jitter
  carried _ _ within := backoff_lt_of_delay within
  all := forall_toNat_backoff_iff settings
  jitter := toNat_jitterLimit settings
  base := toNat_backoffBase settings
  grows _ _ := settings.backoffBase_mono
  waits := by
    rintro work host rfl may
    exact Acquisition.exists_backoff_of_wait host may

/-- A locker that waits for another one for the first time. -/
def firstWait : Acquisition where
  locker := { process := 1, settings := {} }
  user := "u"
  lock := "/var/mail/u.lock"
  temporary := "/var/mail/.lk0000100000000"
  retries := 3
  stage := .judging

theorem backoff_exact_iff_fits_usual :
    (backoff {} 7 1000).toNat = 36000 ∧ (backoff {} 4000000000 1250).toNat = 61250 ∧
      backoffBase {} 7 ≤ backoffBase {} 4000000000 ∧
      ∃ jitter ≤ jitterLimit {}, (firstWait.wait (Host.boot 0 id)).1.stage =
        .resting (0 + milliseconds
          (backoff {} (firstWait.wait (Host.boot 0 id)).1.attempt jitter).toNat) := by
  have rests := backoff_exact_iff_fits {}
  have fits := rests.all.mpr (by decide)
  exact ⟨(rests.exactly 7 1000 (by decide)).mpr (by decide), fits 4000000000 1250 (by decide),
    rests.grows 7 4000000000 (by decide),
    (rests.waits firstWait (Host.boot 0 id) rfl (by decide)).2⟩

/-- Steps and a limit that are as large as they can be. -/
def endlessSettings : MailSettings :=
  { retryStep := 18446744073709551615, retryLimit := 18446744073709551615 }

/-- Settings in which `problem?` finds nothing make a locker not rest at all. -/
theorem no_rest_of_endlessSettings :
    endlessSettings.problem? = none ∧ 1 ≤ endlessSettings.jitterLimit ∧
      endlessSettings.delay 1 1 = 18446744073709551616 ∧ endlessSettings.backoff 1 1 = 0 := by
  decide

end MailSettings

end MailSpool
