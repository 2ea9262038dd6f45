import MailSpool.Proofs.Dotlock.Findings
import MailSpool.Proofs.Dotlock.Names
import MailSpool.Proofs.Dotlock.Reacquiring

/-!
# The last attempt

An acquisition goes on to its next attempt as long as it finds the lock fresh and may retry. What it
finds at its last attempt is told by `Verdict` with what comes of it: the status, whether a stale
lock was removed, and the files that are left when the temporary file is removed. `exists_verdict`
leads there. A link that is tried again after a stale lock was removed is no attempt of its own.
-/

namespace MailSpool

open FileSystem

namespace Acquisition

/-- What comes of the last attempt at a host: a status, the number of stale locks that were removed,
and the files that are left. -/
inductive Verdict (work : Acquisition) (host : Host) :
    MailLockStatus → Nat → FileSystem → Prop where
  | taken (linked : Host) (found : work.locker.finding host work.lock = .free)
      (made : host.link work.temporary work.lock = .ok linked) :
      Verdict work host .success 0 (linked.remaining work.temporary)
  | barred (error : IoError) (found : work.locker.finding host work.lock = .free)
      (refused : host.link work.temporary work.lock = .error error) :
      Verdict work host .error 0 (host.remaining work.temporary)
  | broken (removed linked : Host) (found : work.locker.finding host work.lock = .stale)
      (unlinked : host.unlink work.lock = .ok removed)
      (made : removed.link work.temporary work.lock = .ok linked) :
      Verdict work host .success 1 (linked.remaining work.temporary)
  | closed (removed : Host) (error : IoError)
      (found : work.locker.finding host work.lock = .stale)
      (unlinked : host.unlink work.lock = .ok removed)
      (refused : removed.link work.temporary work.lock = .error error) :
      Verdict work host .error 1 (removed.remaining work.temporary)
  | obstructed (found : work.locker.finding host work.lock = .staleDirectory) :
      Verdict work host .error 0 (host.remaining work.temporary)
  | exhausted (found : work.locker.finding host work.lock = .fresh)
      (spent : work.retries ≤ work.attempt) :
      Verdict work host .maxTries 0 (host.remaining work.temporary)

end Acquisition

/-- A locker after it has tried to take a lock. -/
def Locker.settled (locker : Locker) (user lock : String) (status : MailLockStatus)
    (broken : Nat) : Locker :=
  if status.isSuccess then
    { locker with
      held := some { user := user, path := lock }
      counts := { locker.counts with
        acquisitions := locker.counts.acquisitions + 1
        staleRemoved := locker.counts.staleRemoved + broken } }
  else
    { locker with
      counts := { locker.counts with
        staleRemoved := locker.counts.staleRemoved + broken
        failures := locker.counts.failures + 1 } }

@[simp]
theorem Locker.staleRemoved_settled (locker : Locker) (user lock : String)
    (status : MailLockStatus) (broken : Nat) :
    (locker.settled user lock status broken).counts.staleRemoved =
      locker.counts.staleRemoved + broken := by
  unfold settled
  split <;> rfl

@[simp]
theorem Locker.contentions_settled (locker : Locker) (user lock : String)
    (status : MailLockStatus) (broken : Nat) :
    (locker.settled user lock status broken).counts.contentions = locker.counts.contentions := by
  unfold settled
  split <;> rfl

namespace Acquisition

variable {work : Acquisition} {start host after : Host} {own : FileId} {status : MailLockStatus}
  {broken : Nat} {files : FileSystem}

/-- The end of an acquisition with a status. -/
structure Ends (work : Acquisition) (host : Host) (status : MailLockStatus) (broken : Nat)
    (files : FileSystem) (done : Acquisition × Host) : Prop where
  stage : done.1.stage = .finished status
  locker : done.1.locker = work.locker.settled work.user work.lock status broken
  files : done.2.files = files
  now : done.2.now = host.now

theorem ends_of_clearing (work : Acquisition) (status : MailLockStatus) (alike : host.Alike after) :
    ∃ done, Reaches (work.atStage (.clearing status), after) done ∧
      work.Ends host status 0 (host.remaining work.temporary) done := by
  have removed := alike.perform (.unlink work.temporary)
  have files : (after.perform (.unlink work.temporary)).files = host.remaining work.temporary :=
    removed.files
  have now : (after.perform (.unlink work.temporary)).now = host.now :=
    removed.now.trans (host.now_perform _)
  refine ⟨_, .of_step rfl (by simp [atStage]), ?_⟩
  simp only [step, atStage, finish]
  by_cases success : status.isSuccess = true
  · rw [if_pos success]
    exact ⟨rfl, by simp [Locker.settled, success, counting], files, now⟩
  · rw [if_neg success]
    exact ⟨rfl, by simp [Locker.settled, success, giveUp, counting, atStage], files, now⟩

variable {content : ByteArray}

theorem ends_of_link_ok {linked : Host} (stage : work.stage = .linking) (alike : host.Alike after)
    (made : host.link work.temporary work.lock = .ok linked)
    (leads : host.files.Leads work.temporary own)
    (regular : host.files.node? own = some (.regular content)) :
    ∃ done, Reaches (work, after) done ∧
      work.Ends host .success 0 (linked.remaining work.temporary) done := by
  rcases alike.link_eq_ok made with ⟨later, stillMade, stillAlike⟩
  rw [← alike.files] at leads regular
  rcases work.ends_of_clearing .success stillAlike with ⟨done, reaches, ends⟩
  refine ⟨done, (reaches_success stage stillMade leads regular).trans reaches, ends.stage,
    ends.locker, ends.files, ends.now.trans ?_⟩
  rw [(Host.link_eq_ok made).2.1]
  rfl

theorem ends_of_link_error {error : IoError} (stage : work.stage = .linking)
    (alike : host.Alike after) (refused : host.link work.temporary work.lock = .error error)
    (unnamed : host.named? work.lock = none) (kind : error.kind ≠ .alreadyExists) :
    ∃ done, Reaches (work, after) done ∧
      work.Ends host .error 0 (host.remaining work.temporary) done := by
  rw [← Host.named?_congr alike.files] at unnamed
  rcases reaches_error stage (alike.link_eq_error refused) unnamed kind with
    ⟨later, stillAlike, failed⟩
  rcases work.ends_of_clearing .error (alike.trans stillAlike) with ⟨done, reaches, ends⟩
  exact ⟨done, failed.trans reaches, ends⟩

theorem Ends.of_removed {removed : Host} {done : Acquisition × Host}
    (ends : work.relinking.Ends removed status 0 files done) (now : removed.now = host.now) :
    work.Ends host status 1 files done where
  stage := ends.stage
  locker := by
    rw [ends.locker]
    unfold Locker.settled
    split <;> rfl
  files := ends.files
  now := ends.now.trans now

/-- An attempt at a host comes to its verdict, and ends. -/
inductive Decided (work : Acquisition) (host : Host) : Prop where
  | intro {status : MailLockStatus} {broken : Nat} {files : FileSystem} {done : Acquisition × Host}
      (verdict : work.Verdict host status broken files) (reaches : Reaches (work, host) done)
      (ends : work.Ends host status broken files done)

/-- What an attempt knows of the temporary file and of the lock. -/
structure Attempts (start : Host) (own : FileId) (work : Acquisition) (host : Host) : Prop where
  stage : work.stage = .linking
  more : OneMore start host work.temporary own
  sound : start.files.Sound
  isLock : work.lock.toList.getLast? = some 'k'
  apart : work.temporary.toList.getLast? ≠ some 'k'

namespace Attempts

variable {lock : FileId} {found : File}

theorem not_names_lock (attempts : Attempts start own work host) :
    ¬host.files.Names work.lock own := by
  intro names
  have suffix := attempts.isLock
  have wasNamed := (attempts.more.beside.resets.names_iff_of_getLast?_ne (by
    rw [suffix]
    exact attempts.apart)).mp names
  have known := attempts.sound.isSome_of_names wasNamed suffix (by decide) (by decide)
  simp [attempts.more.beside.isNew] at known

theorem ne_of_lstat (attempts : Attempts start own work host)
    (looked : host.lstat work.lock = .ok (lock, found)) : lock ≠ own := by
  rintro rfl
  have named := Host.named?_eq_some_iff.mpr ⟨found, looked⟩
  exact attempts.not_names_lock (Host.named?_eq_some_iff_names.mp named).2.1

theorem exists_liesAt (attempts : Attempts start own work host)
    (looked : host.lstat work.lock = .ok (lock, found)) :
    ∃ directory name, host.files.LiesAt work.lock directory name lock ∧
      host.files.file lock = some found := by
  rcases find_eq_ok_iff.mp (Host.lstat_eq_ok_iff.mp looked).2 with ⟨place, located, ends, isFile⟩
  rcases entry_of_locate attempts.isLock (by decide) (by decide) located with
    ⟨directory, name, file, rfl⟩
  cases ends
  exact ⟨directory, name, located, isFile⟩

theorem exists_leads_of_unlink {removed : Host} (attempts : Attempts start own work host)
    (unlinked : host.unlink work.lock = .ok removed) :
    ∃ content, removed.files.Leads work.temporary own ∧
      removed.files.node? own = some (.regular content) := by
  have removal := (Host.unlink_eq_ok unlinked).1
  rcases attempts.more.beside.regular with ⟨content, regular⟩
  have evolves : Evolves host.files removed.files fun _ => False := evolves_unlink removal
  refine ⟨content, ?_, evolves.node own content regular not_false⟩
  refine attempts.more.beside.names.leads.unlink_of_getLast?_ne removal ?_
  rw [attempts.isLock]
  exact attempts.apart.symm

/-- Where nothing is at the path of the lock, an acquisition is `Decided` by the link. -/
theorem verdict_of_free (attempts : Attempts start own work host)
    (found : work.locker.finding host work.lock = .free) : work.Decided host := by
  have unnamed := Locker.finding_eq_free_iff.mp found
  rcases linked : host.link work.temporary work.lock with error | after
  · have kind := Host.kind_of_link_error attempts.more.beside.sound attempts.isLock (by decide)
      (by decide) unnamed linked
    rcases ends_of_link_error attempts.stage (.refl host) linked unnamed kind with
      ⟨done, reaches, ends⟩
    exact .intro (.barred error found linked) reaches ends
  · rcases attempts.more.beside.regular with ⟨content, regular⟩
    rcases ends_of_link_ok attempts.stage (.refl host) linked attempts.more.beside.names.leads
      regular with ⟨done, reaches, ends⟩
    exact .intro (.taken after found linked) reaches ends

/-- A stale lock that is no directory is removed, and an acquisition is `Decided` by the link after
its removal. -/
theorem verdict_of_stale (attempts : Attempts start own work host)
    (looked : host.lstat work.lock = .ok (lock, found))
    (stale : work.locker.isStale host work.lock found = true)
    (plain : found.isDirectory = false) (alike : host.Alike after)
    (reaches : Reaches (work, host) (work.atStage (.rechecking lock), after)) :
    work.Decided host := by
  have isFound : work.locker.finding host work.lock = .stale := by
    simp [Locker.finding, looked, stale, plain]
  rcases attempts.exists_liesAt looked with ⟨directory, name, lies, isFile⟩
  obtain ⟨removed, unlinked⟩ : ∃ removed, host.unlink work.lock = .ok removed := by
    refine Host.exists_unlink_of_liesAt (Host.lstat_eq_ok_iff.mp looked).1 lies ?_
    rcases found with ⟨node, links, modified, accessed⟩
    cases node with
    | directory => simp [File.isDirectory] at plain
    | regular | link => simp [directory?, isFile]
  rcases alike.unlink_eq_ok unlinked with ⟨gone, isGone, goneAlike⟩
  rw [← Host.lstat_congr alike.files] at looked
  have rechecking : (work.atStage (.rechecking lock)).stage = .rechecking lock := rfl
  rcases reaches_linking rechecking looked isGone with
    ⟨later, laterAlike, again⟩
  have now : removed.now = host.now := (Host.sameWorld_unlink unlinked).now
  have relinks : work.relinking.stage = .linking := rfl
  rcases linked : removed.link work.temporary work.lock with error | made
  · have free : error.kind ≠ .alreadyExists := by
      intro kind
      have occupied := Host.isOccupied_of_link_error linked kind
      simp [not_isOccupied_of_unlink (Host.unlink_eq_ok unlinked).1] at occupied
    have unnamed := Host.named?_eq_none_of_unlink unlinked
    rcases ends_of_link_error relinks (goneAlike.trans laterAlike) linked unnamed free with
      ⟨done, ended, ends⟩
    exact .intro (.closed removed error isFound unlinked linked)
      ((reaches.trans again).trans ended) (ends.of_removed now)
  · rcases attempts.exists_leads_of_unlink unlinked with ⟨content, leads, regular⟩
    rcases ends_of_link_ok relinks (goneAlike.trans laterAlike) linked leads regular with
      ⟨done, ended, ends⟩
    exact .intro (.broken removed made isFound unlinked linked)
      ((reaches.trans again).trans ended) (ends.of_removed now)

/-- A stale directory ends an acquisition with an error. -/
theorem verdict_of_directory (attempts : Attempts start own work host)
    (looked : host.lstat work.lock = .ok (lock, found))
    (stale : work.locker.isStale host work.lock found = true)
    (isDirectory : found.isDirectory = true) (alike : host.Alike after)
    (reaches : Reaches (work, host) (work.atStage (.rechecking lock), after)) :
    work.Decided host := by
  have isFound : work.locker.finding host work.lock = .staleDirectory := by
    simp [Locker.finding, looked, stale, isDirectory]
  rcases unlinked : after.unlink work.lock with error | removed
  · rw [← Host.lstat_congr alike.files] at looked
    have rechecking : (work.atStage (.rechecking lock)).stage = .rechecking lock := rfl
    rcases reaches_error_of_rechecking rechecking looked unlinked with
      ⟨later, laterAlike, failed⟩
    rcases work.ends_of_clearing .error (alike.trans laterAlike) with ⟨done, cleared, ends⟩
    exact .intro (.obstructed isFound) ((reaches.trans failed).trans cleared) ends
  · rcases attempts.exists_liesAt looked with ⟨directory, name, lies, isFile⟩
    rcases unlink_spec (Host.unlink_eq_ok unlinked).1 with ⟨_, _, file, located, plain, _⟩
    rw [alike.files] at located plain
    cases lies.symm.trans located
    rcases found with ⟨node, links, modified, accessed⟩
    cases node with
    | directory => simp [directory?, isFile] at plain
    | regular | link => simp [File.isDirectory] at isDirectory

/-- A lock that is fresh makes the locker wait; anything else ends the acquisition. -/
theorem waits_or_ends (attempts : Attempts start own work host) :
    (work.locker.finding host work.lock = .fresh ∧
      ∃ after, host.Alike after ∧ Reaches (work, host) (work.wait after)) ∨
    work.locker.finding host work.lock ≠ .fresh ∧ work.Decided host := by
  rcases looked : host.lstat work.lock with error | ⟨lock, file⟩
  · have found : work.locker.finding host work.lock = .free := by
      simp [Locker.finding, looked]
    exact Or.inr ⟨by simp [found], attempts.verdict_of_free found⟩
  have judging := reaches_judging attempts.stage attempts.more looked (attempts.ne_of_lstat looked)
  have stage : (work.atStage .judging).stage = .judging := rfl
  rcases reaches_of_judging stage looked with
    ⟨after, alike, judged⟩
  have reaches : Reaches (work, host)
      (if work.locker.isStale host work.lock file = true then
        (work.atStage (.rechecking lock), after)
      else work.wait after) := judging.trans judged
  rcases stale : work.locker.isStale host work.lock file with _ | _
  · have found : work.locker.finding host work.lock = .fresh := by
      simp [Locker.finding, looked, stale]
    rw [stale] at reaches
    exact Or.inl ⟨found, after, alike, reaches⟩
  · rw [if_pos stale] at reaches
    right
    rcases isDirectory : file.isDirectory with _ | _
    · refine ⟨?_, attempts.verdict_of_stale looked stale isDirectory alike reaches⟩
      simp [Locker.finding, looked, stale, isDirectory]
    · refine ⟨?_, attempts.verdict_of_directory looked stale isDirectory alike reaches⟩
      simp [Locker.finding, looked, stale, isDirectory]

theorem verdict_of_spent (spent : work.retries ≤ work.attempt) (alike : host.Alike after)
    (found : work.locker.finding host work.lock = .fresh)
    (reaches : Reaches (work, host) (work.wait after)) : work.Decided host := by
  rcases work.ends_of_clearing .maxTries alike with ⟨done, cleared, ends⟩
  rw [wait, if_pos spent] at reaches
  exact .intro (.exhausted found spent) (reaches.trans cleared) ends

end Attempts

/-! ## All attempts -/

section Tried

variable {ready : Host} {count : Nat}

theorem Attempts.tried (attempts : Attempts start own (work.tried 0) ready)
    (files : host.files = ready.files) (count : Nat) :
    Attempts start own (work.tried count) host where
  stage := rfl
  more := attempts.more.of_files files
  sound := attempts.sound
  isLock := attempts.isLock
  apart := attempts.apart

/-- As long as a locker finds the lock fresh, it comes to its next attempt. -/
theorem reaches_tried (attempts : Attempts start own (work.tried 0) ready) (still : ready.IsStill)
    (within : count ≤ work.retries.toNat)
    (fresh : ∀ early < count, work.locker.finding (work.locker.settings.rested ready early)
      work.lock = .fresh) :
    ∃ host, (work.locker.settings.rested ready count).Alike host ∧
      Reaches (work.tried 0, ready) (work.tried count, host) := by
  induction count with
  | zero => exact ⟨ready, .refl ready, .refl _⟩
  | succ count ih =>
      rcases ih (by omega) (fun early less => fresh early (by omega)) with ⟨host, alike, reaches⟩
      have files := alike.files.trans (work.locker.settings.rested_of_still still count).1
      have found : work.locker.finding host work.lock = .fresh := by
        rw [Locker.finding_of_alike alike]
        exact fresh count (by omega)
      rcases (attempts.tried files count).waits_or_ends with
        ⟨_, after, waitAlike, waits⟩ | ⟨different, _⟩
      · have may : ¬work.retries ≤ (work.tried count).attempt := by
          rw [attempt_tried (by omega)]
          omega
        rcases reaches_of_wait (alike.trans waitAlike) may with ⟨later, laterAlike, rests⟩
        exact ⟨later, laterAlike, (reaches.trans waits).trans rests⟩
      · exact absurd found different

theorem exists_until (holds : Nat → Prop) (limit : Nat) :
    ∃ count ≤ limit, (∀ early < count, holds early) ∧ (holds count → count = limit) := by
  induction limit with
  | zero => exact ⟨0, Nat.le_refl 0, by simp, fun _ => rfl⟩
  | succ limit ih =>
      rcases ih with ⟨count, within, before, last⟩
      by_cases still : holds count
      · obtain rfl := last still
        refine ⟨count + 1, Nat.le_refl _, fun early less => ?_, fun _ => rfl⟩
        rcases Nat.lt_succ_iff_lt_or_eq.mp less with earlier | rfl
        · exact before early earlier
        · exact still
      · exact ⟨count, by omega, before, fun again => absurd again still⟩

/-- All attempts before the last one find the lock fresh, and the last one has a `Verdict`. -/
theorem exists_verdict (attempts : Attempts start own (work.tried 0) ready)
    (still : ready.IsStill) :
    ∃ tries host status broken files done, tries ≤ work.retries.toNat ∧
      (∀ early < tries, work.locker.finding (work.locker.settings.rested ready early) work.lock =
        .fresh) ∧
      (work.locker.settings.rested ready tries).Alike host ∧
      Verdict (work.tried tries) host status broken files ∧
      Reaches (work.tried 0, ready) done ∧
      (work.tried tries).Ends host status broken files done := by
  rcases exists_until (fun early => work.locker.finding
    (work.locker.settings.rested ready early) work.lock = .fresh) work.retries.toNat with
    ⟨tries, within, fresh, last⟩
  rcases reaches_tried attempts still within fresh with ⟨host, alike, reaches⟩
  have files := alike.files.trans (work.locker.settings.rested_of_still still tries).1
  have attempt := attempts.tried files tries
  have decided : (work.tried tries).Decided host := by
    rcases attempt.waits_or_ends with ⟨found, after, waitAlike, waits⟩ | ⟨_, ends⟩
    · refine Attempts.verdict_of_spent ?_ waitAlike found waits
      exact (attempt_tried within).mpr (last ((Locker.finding_of_alike alike).symm.trans found))
    · exact ends
  rcases decided with ⟨verdict, ended, ends⟩
  exact ⟨tries, host, _, _, _, _, within, fresh, alike, verdict, reaches.trans ended, ends⟩

end Tried

end Acquisition

end MailSpool
