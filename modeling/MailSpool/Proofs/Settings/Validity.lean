import Mathlib.Order.Basic
import MailSpool.Settings.Text

/-!
# Settings that break no rule

The rules are checked one by one, and the first one that is broken is told. Settings are `Valid`
exactly if all rules hold at once, and settings that were read from a file are always valid.
-/

namespace MailSpool

/-- The rules for the settings of mailbox locks, taken together. A staleness limit of zero needs no
mention, because no refresh interval is below it. -/
structure MailSettings.Obeys (settings : MailSettings) : Prop where
  absolute : Path.isAbsolute settings.spoolDirectory = true
  refreshed : 0 < settings.refreshInterval
  inTime : settings.refreshInterval < settings.staleAfter
  limited : settings.retryStep ≤ settings.retryLimit

theorem MailSettings.problem?_eq_none_iff {settings : MailSettings} :
    settings.problem? = none ↔ settings.Obeys := by
  unfold problem?
  constructor
  · intro noProblem
    split_ifs at noProblem with relative unlimited unrefreshed slow short
    exact ⟨by simpa using relative, UInt64.pos_iff_ne_zero.mpr unrefreshed, UInt64.not_le.mp slow,
      UInt64.not_lt.mp short⟩
  · rintro ⟨absolute, refreshed, inTime, limited⟩
    have positive : settings.staleAfter ≠ 0 :=
      UInt64.pos_iff_ne_zero.mp (UInt64.lt_trans refreshed inTime)
    simp [absolute, positive, UInt64.pos_iff_ne_zero.mp refreshed, UInt64.not_le.mpr inTime,
      UInt64.not_lt.mpr limited]

namespace Settings

variable {settings : Settings}

theorem valid_iff : settings.Valid ↔ 0 ≤ settings.descriptorOffset ∧ settings.mail.Obeys := by
  unfold Valid problem?
  rw [← MailSettings.problem?_eq_none_iff]
  split_ifs with negative
  · simp [Int32.not_le.mpr negative]
  · simp [Int32.not_lt.mp negative]

theorem validate_eq_ok_iff {checked : Settings} :
    settings.validate = .ok checked ↔ settings.Valid ∧ settings = checked := by
  unfold validate Valid
  cases settings.problem? with
  | none => simp
  | some problem => simp

/-- What `ofContent` reads is `Valid`. -/
theorem valid_of_ofContent {path : String} {content : Except IoError ByteArray}
    (read : ofContent path content = .ok settings) : settings.Valid := by
  unfold ofContent at read
  split at read
  · cases read
  · split at read
    · cases read
    · split at read
      · cases read
      case h_2 found _ =>
        rcases validate_eq_ok_iff.mp read with ⟨valid, rfl⟩
        exact valid

end Settings

end MailSpool
