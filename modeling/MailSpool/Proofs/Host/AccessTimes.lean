import Mathlib.Order.Bounds.Basic
import MailSpool.Bridge
import MailSpool.Proofs.Host.Files

/-!
# Access times as numbers

While the milliseconds of an access time are numbers of 64 bits, the precise ones count every whole
millisecond since the epoch, before the epoch downwards, and the others are the largest multiple of
a thousand that is not above.

Minus one stands for a time that is not known, but by `minus_one_iff_unknown_or_early` not for that
alone. A multiple of a thousand is never mistaken for it, but a precise time is: that of a file that
was last accessed in the last millisecond before the epoch.
-/

namespace MailSpool

namespace AccessTime

/-- The milliseconds of an instant are numbers of 64 bits, the precise ones and those to the whole
second. -/
structure Fits (instant : Int) : Prop where
  least : -9223372036854775808 ≤ 1000 * (instant / 1000000000)
  greatest : instant / 1000000 ≤ 9223372036854775807

theorem bmod_of_fits {value : Int} (least : -9223372036854775808 ≤ value)
    (greatest : value ≤ 9223372036854775807) : value.bmod UInt64.size = value :=
  Int.bmod_eq_of_le least (Int.lt_of_le_of_lt greatest (by decide))

variable {instant : Int}

theorem toInt_seconds (fits : Fits instant) :
    (ofInstant instant).seconds.toInt = instant / 1000000000 := by
  have least := fits.least
  have greatest := fits.greatest
  change (Int64.ofInt (instant / 1000000000)).toInt = _
  rw [Int64.toInt_ofInt]
  exact bmod_of_fits (by omega) (by omega)

theorem toInt_nanoseconds (instant : Int) :
    (ofInstant instant).nanoseconds.toInt = instant % 1000000000 := by
  change (Int64.ofInt (instant % 1000000000)).toInt = _
  rw [Int64.toInt_ofInt]
  exact bmod_of_fits (by omega) (by omega)

theorem toInt_truncatedMilliseconds (fits : Fits instant) :
    (ofInstant instant).truncatedMilliseconds.toInt = 1000 * (instant / 1000000000) := by
  have least := fits.least
  have greatest := fits.greatest
  rw [truncatedMilliseconds, Int64.toInt_mul, toInt_seconds fits,
    show (1000 : Int64).toInt = 1000 from rfl, Int.mul_comm]
  exact bmod_of_fits (by omega) (by omega)

theorem toInt_preciseMilliseconds (fits : Fits instant) :
    (ofInstant instant).preciseMilliseconds.toInt = instant / 1000000 := by
  have least := fits.least
  have greatest := fits.greatest
  have parts : ((ofInstant instant).nanoseconds / 1000000).toInt =
      instant % 1000000000 / 1000000 := by
    rw [Int64.toInt_div_of_ne_right _ _ (by decide), toInt_nanoseconds,
      show (1000000 : Int64).toInt = 1000000 from rfl]
    exact Int.tdiv_eq_ediv_of_nonneg (by omega)
  have whole := toInt_truncatedMilliseconds fits
  have sum : 1000 * (instant / 1000000000) + instant % 1000000000 / 1000000 =
      instant / 1000000 := by
    omega
  rw [truncatedMilliseconds] at whole
  rw [preciseMilliseconds, Int64.toInt_add, whole, parts, sum]
  exact bmod_of_fits (by omega) greatest

/-- `truncatedMilliseconds` is the largest multiple of a thousand that is not above
`preciseMilliseconds`. -/
theorem isGreatest_truncatedMilliseconds (fits : Fits instant) :
    IsGreatest {multiple : Int | 1000 ∣ multiple ∧
        multiple ≤ (ofInstant instant).preciseMilliseconds.toInt}
      (ofInstant instant).truncatedMilliseconds.toInt := by
  rw [toInt_truncatedMilliseconds fits, toInt_preciseMilliseconds fits]
  refine ⟨⟨Int.dvd_mul_right .., by omega⟩, ?_⟩
  rintro _ ⟨⟨count, rfl⟩, below⟩
  omega

theorem milliseconds_eq_neg_one_iff (fits : Fits instant) (precise : Bool) :
    (ofInstant instant).milliseconds precise = -1 ↔
      precise = true ∧ -1000000 ≤ instant ∧ instant < 0 := by
  rw [← Int64.toInt_inj, show (-1 : Int64).toInt = -1 from rfl]
  cases precise with
  | false =>
      rw [milliseconds, if_neg (by decide), toInt_truncatedMilliseconds fits]
      simp only [Bool.false_eq_true, false_and, iff_false]
      omega
  | true =>
      rw [milliseconds, if_pos rfl, toInt_preciseMilliseconds fits]
      simp only [true_and]
      omega

end AccessTime

/-- The `accessTime` is known of a path that leads to a file, and of no other. -/
theorem Host.accessTime_cases (host : Host) (path : String) :
    (∃ failure, host.accessTime path = .error failure) ∨
      ∃ id file, host.stat path = .ok (id, file) ∧
        host.accessTime path = .ok (.ofInstant file.accessed) := by
  unfold accessTime
  split
  case isTrue => exact Or.inl ⟨_, rfl⟩
  case isFalse plain =>
    split
    case h_1 id file looked =>
      exact Or.inr ⟨id, file, stat_eq_ok_iff.mpr ⟨eq_false_of_ne_true plain, looked⟩, rfl⟩
    case h_2 => exact Or.inl ⟨_, rfl⟩

namespace Bridge

variable {bridge : Bridge} {host : Host} {path : String}

theorem accessMilliseconds_eq_ok_iff {told : Int64} :
    bridge.accessMilliseconds host path = .ok told ↔
      ∃ time, host.accessTime path = .ok time ∧
        time.milliseconds bridge.settings.preciseAccessTime = told :=
  map_eq_ok_iff

theorem accessNumber_eq_neg_one_iff
    (fits : ∀ id file, host.stat path = .ok (id, file) → AccessTime.Fits file.accessed) :
    bridge.accessNumber host path = -1 ↔
      (∃ failure, bridge.accessMilliseconds host path = .error failure) ∨
        bridge.settings.preciseAccessTime = true ∧ ∃ id file, host.stat path = .ok (id, file) ∧
          -1000000 ≤ file.accessed ∧ file.accessed < 0 := by
  rcases host.accessTime_cases path with ⟨failure, unknown⟩ | ⟨id, file, looked, known⟩
  · have told : bridge.accessMilliseconds host path = .error failure := by
      rw [accessMilliseconds, unknown]
      rfl
    simp [accessNumber, told]
  · have told : bridge.accessMilliseconds host path = .ok
        ((AccessTime.ofInstant file.accessed).milliseconds bridge.settings.preciseAccessTime) :=
      accessMilliseconds_eq_ok_iff.mpr ⟨_, known, rfl⟩
    rw [accessNumber, told]
    simp only [reduceCtorEq, exists_false, false_or,
      AccessTime.milliseconds_eq_neg_one_iff (fits id file looked)]
    constructor
    · rintro ⟨precise, early⟩
      exact ⟨precise, id, file, looked, early⟩
    · rintro ⟨precise, other, found, same, early⟩
      cases looked.symm.trans same
      exact ⟨precise, early⟩

/-- Bridges with and without `preciseAccessTime` tell times of one file that lie less than a second
apart. -/
theorem isGreatest_of_coarse {precise coarse : Bridge} {time truncated : Int64}
    (fits : ∀ id file, host.stat path = .ok (id, file) → AccessTime.Fits file.accessed)
    (isPrecise : precise.settings.preciseAccessTime = true)
    (isCoarse : coarse.settings.preciseAccessTime = false)
    (isTime : precise.accessMilliseconds host path = .ok time)
    (isTruncated : coarse.accessMilliseconds host path = .ok truncated) :
    truncated.toInt ≤ time.toInt ∧ time.toInt < truncated.toInt + 1000 ∧
      IsGreatest {multiple : Int | 1000 ∣ multiple ∧ multiple ≤ time.toInt} truncated.toInt := by
  rcases accessMilliseconds_eq_ok_iff.mp isTime with ⟨access, known, rfl⟩
  rcases accessMilliseconds_eq_ok_iff.mp isTruncated with ⟨_, same, rfl⟩
  cases known.symm.trans same
  rcases host.accessTime_cases path with ⟨failure, unknown⟩ | ⟨id, file, looked, found⟩
  · cases known.symm.trans unknown
  cases known.symm.trans found
  have greatest := AccessTime.isGreatest_truncatedMilliseconds (fits id file looked)
  simp only [isPrecise, isCoarse, AccessTime.milliseconds, if_true, Bool.false_eq_true, if_false]
  refine ⟨greatest.1.2, ?_, greatest⟩
  rw [AccessTime.toInt_preciseMilliseconds (fits id file looked),
    AccessTime.toInt_truncatedMilliseconds (fits id file looked)]
  omega

/-- `accessNumber` is minus one for a path whose access time is not known, and besides, if
`preciseAccessTime` is set, for a file that was last accessed in the last millisecond before the
epoch. The time to the whole second is the largest multiple of a thousand that is not above the
precise one. -/
theorem minus_one_iff_unknown_or_early (bridge : Bridge) (host : Host) (path : String)
    (fits : ∀ id file, host.stat path = .ok (id, file) → AccessTime.Fits file.accessed) :
    (bridge.accessNumber host path = -1 ↔
      (∃ failure, bridge.accessMilliseconds host path = .error failure) ∨
        bridge.settings.preciseAccessTime = true ∧ ∃ id file, host.stat path = .ok (id, file) ∧
          -1000000 ≤ file.accessed ∧ file.accessed < 0) ∧
    ∀ (precise coarse : Bridge) (time truncated : Int64),
      precise.settings.preciseAccessTime = true → coarse.settings.preciseAccessTime = false →
      precise.accessMilliseconds host path = .ok time →
      coarse.accessMilliseconds host path = .ok truncated →
      truncated.toInt ≤ time.toInt ∧ time.toInt < truncated.toInt + 1000 ∧
        IsGreatest {multiple : Int | 1000 ∣ multiple ∧ multiple ≤ time.toInt} truncated.toInt := by
  refine ⟨accessNumber_eq_neg_one_iff fits, ?_⟩
  intro precise coarse time truncated isPrecise isCoarse isTime isTruncated
  exact isGreatest_of_coarse fits isPrecise isCoarse isTime isTruncated

/-- A host with a file that was last accessed half a millisecond before the epoch. -/
def earlyHost : Host :=
  { Host.boot (seconds 1000) fun number => number with
    files := ((FileSystem.empty 0).make FileSystem.root "f" (.regular .empty) (-500000)).2 }

def preciseBridge : Bridge :=
  ofSettings 1 { preciseAccessTime := true }

theorem exists_stat_earlyHost :
    ∃ id file, earlyHost.stat "/f" = .ok (id, file) ∧ file.accessed = -500000 :=
  ⟨_, _, rfl, rfl⟩

theorem minus_one_iff_unknown_or_early_earlyHost :
    (∀ id file, earlyHost.stat "/f" = .ok (id, file) → AccessTime.Fits file.accessed) ∧
      preciseBridge.accessNumber earlyHost "/f" = -1 ∧
      (ofSettings 1 {}).accessNumber earlyHost "/f" = -1000 ∧
      (-1000 : Int64).toInt ≤ (-1 : Int64).toInt ∧
      (-1 : Int64).toInt < (-1000 : Int64).toInt + 1000 ∧
      IsGreatest {multiple : Int | 1000 ∣ multiple ∧ multiple ≤ (-1 : Int64).toInt}
        (-1000 : Int64).toInt := by
  rcases exists_stat_earlyHost with ⟨id, file, looked, accessed⟩
  have fits : ∀ id file, earlyHost.stat "/f" = .ok (id, file) → AccessTime.Fits file.accessed := by
    intro other found same
    cases looked.symm.trans same
    rw [accessed]
    exact ⟨by decide, by decide⟩
  rcases minus_one_iff_unknown_or_early preciseBridge earlyHost "/f" fits with ⟨unknown, grains⟩
  refine ⟨fits, unknown.mpr (Or.inr ⟨rfl, id, file, looked, ?_⟩), rfl,
    grains preciseBridge (ofSettings 1 {}) (-1) (-1000) rfl rfl rfl rfl⟩
  rw [accessed]
  exact ⟨by decide, by decide⟩

/-- A precise access time is told as minus one, although it is known. -/
theorem minus_one_of_known :
    preciseBridge.accessMilliseconds earlyHost "/f" = .ok (-1) ∧
      preciseBridge.accessNumber earlyHost "/f" = -1 :=
  ⟨rfl, rfl⟩

end Bridge

end MailSpool
