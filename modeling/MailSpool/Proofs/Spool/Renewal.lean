import MailSpool.Proofs.FileSystem.Times
import MailSpool.Proofs.Spool.Yielding

/-!
# A lock that was refreshed

A lock is refreshed through its path, and its age is that of the file which the path names. The
two are one file unless the path names a symbolic link: then the file at the end of the link is
touched, and the link grows old.

So a lock that is no symbolic link has the date of its refresh, `DatedSince`. Nothing that lockers
do afterwards gives it an earlier one, and until the limit has passed since the refresh no locker
that asks for the age of the lock finds it stale.
-/

namespace MailSpool

open FileSystem

theorem Host.dated_of_touch {host after : Host} {path : String}
    (touched : host.touch path = .ok after) (noLink : host.files.NamesNoLink path) :
    ∃ file found, host.named? path = some file ∧ after.files.file file = some found ∧
      found.modified = host.now := by
  have writable : IsWritable path := by
    unfold touch at touched
    split at touched
    · simp at touched
    case isFalse allowed => exact Bool.eq_false_iff.mpr allowed
  rcases touch_spec (touch_eq_ok touched).1 with ⟨file, old, looked, dated, _, _, _⟩
  have sameWay : host.files.locate true path = host.files.locate false path :=
    locate_follow fun directory name child located => noLink child ⟨_, located, rfl⟩
  rcases find_eq_ok_iff.mp looked with ⟨place, located, isFile, found⟩
  refine ⟨file, _, ?_, dated, rfl⟩
  rw [named?_eq_some_iff_names]
  exact ⟨writable, ⟨place, sameWay ▸ located, isFile⟩, by simp [found]⟩

theorem Acquisition.redates_step (work : Acquisition) (host : Host) :
    Redates host.now host.files (work.step host).2.files := by
  have effect := effect_step work host
  generalize work.step host = result at effect ⊢
  cases effect with
  | releases stage next held files =>
      rw [files, Locker.files_release]
      rcases work.locker.held with _ | holding
      · exact .refl ..
      · exact host.redates_remaining holding.path
  | creates file stage next held created => exact redates_create (Host.create_eq_ok created).1
  | fills file stage next held filled =>
      rw [Host.fill_eq_ok filled]
      exact redates_setContent ..
  | links stage next held linked => exact redates_link (Host.link_eq_ok linked).1
  | breaks stale removed stage next held unlinked files =>
      rw [files]
      exact redates_unlink (Host.unlink_eq_ok unlinked).1
  | discards stage next held files | clears status stage next held files =>
      rw [files]
      exact host.redates_remaining work.temporary
  | refuses refused =>
      rw [refused.files]
      exact .refl ..
  | stops _ _ _ files | spoils _ _ _ _ files | misses _ _ _ _ files | compares _ _ _ _ _ _ files
  | confirms _ _ _ _ _ _ files =>
      rw [files]
      exact .refl ..
  | rests status stage same =>
      rw [same]
      exact .refl ..

theorem Participant.redates_perform (participant : Participant) (host : Host) (deed : LockerDeed) :
    Redates host.now host.files (participant.perform host deed).2.files := by
  have same : Redates host.now host.files host.files := .refl ..
  rcases participant with ⟨locker | work | _, own⟩
  · have released : Redates host.now host.files (locker.release host).2.files := by
      rw [Locker.files_release]
      rcases locker.held with _ | holding
      · exact same
      · exact host.redates_remaining holding.path
    cases deed with
    | acquire user retries =>
        unfold Participant.perform
        dsimp only
        split <;> exact same
    | release | drop => exact released
    | refresh =>
        simp only [Participant.perform, Locker.refresh]
        split
        · exact same
        case h_2 task _ => exact task.redates_run host
    | adopt | persist | step => exact same
  · cases deed with
    | step => exact work.redates_step host
    | acquire | adopt | release | persist | refresh | drop => exact same
  · cases deed <;> exact same

/-- A lock that was changed within the limit is not found stale by a locker that asks for its age
only. -/
theorem Acquisition.step_of_recent {work : Acquisition} {host : Host} {file : FileId}
    {found : File} {time : Instant} (stage : work.stage = .judging)
    (unchecked : work.locker.settings.checkOwner = false)
    (named : host.named? work.lock = some file) (isFound : host.files.file file = some found)
    (recent : time ≤ found.modified)
    (inTime : host.now ≤ time + (seconds work.locker.settings.staleAfter.toNat : Int)) :
    work.step host = work.wait host := by
  rcases Host.named?_eq_some_iff.mp named with ⟨looked, isLooked⟩
  rcases find_eq_ok_iff.mp (Host.lstat_eq_ok_iff.mp isLooked).2 with ⟨_, _, _, known⟩
  cases isFound.symm.trans known
  have young : work.locker.settings.isOutdated host.now found = false := by
    apply decide_eq_false
    apply Int.not_lt.mpr
    apply Int.sub_left_le_of_le_add
    exact Int.le_trans inTime (Int.add_le_add_right recent _)
  simp [step, stage, isLooked, young, unchecked]

namespace SharedSpool

/-- An event is the refresh of a lock at a path, by the locker that holds it or by a task that was
lent. -/
def Refreshes (spool : SharedSpool) (event : SpoolEvent) (path : String) : Prop :=
  (∃ index locker, event = .act index .refresh ∧
    (spool.participant index).activity = .free locker ∧ locker.heldPath? = some path) ∨
  ∃ number lent, event = .run number ∧ spool.tasks[number]? = some lent ∧ lent.task.path = path

/-- Others set back neither the clock nor the date of a file. -/
def NeverBack (spool : SharedSpool) : SpoolEvent → Prop
  | .change next => spool.host.now ≤ next.now ∧
      ∀ file found, spool.host.files.file file = some found →
        ∃ later, next.files.file file = some later ∧
          (found.modified ≤ later.modified ∨ spool.host.now ≤ later.modified)
  | _ => True

/-- A file has no date before a time that has come. -/
structure DatedSince (time : Instant) (file : FileId) (spool : SharedSpool) : Prop where
  come : time ≤ spool.host.now
  dated : ∃ found, spool.host.files.file file = some found ∧ time ≤ found.modified

variable {spool : SharedSpool} {event : SpoolEvent} {path : String} {file : FileId}
  {time : Instant}

theorem host_step_of_refreshes {touched : Host} (refreshes : spool.Refreshes event path)
    (touches : spool.host.touch path = .ok touched) : (spool.step event).host = touched := by
  rcases refreshes with ⟨index, locker, rfl, free, held⟩ | ⟨number, lent, rfl, isLent, rfl⟩
  · rcases Option.map_eq_some_iff.mp held with ⟨holding, isHeld, rfl⟩
    simp [step, Participant.perform, free, Locker.refresh, Locker.refreshTask?, isHeld,
      RefreshTask.run, touches]
  · simp [step, isLent, RefreshTask.run, touches]

theorem DatedSince.of_redates {next : SharedSpool} (since : DatedSince time file spool)
    (clock : spool.host.now = next.host.now)
    (redates : Redates spool.host.now spool.host.files next.host.files) :
    DatedSince time file next := by
  rcases since.dated with ⟨found, isFound, dated⟩
  rcases redates.file file found isFound with ⟨later, isLater, same | present⟩
  · exact ⟨clock ▸ since.come, later, isLater, same ▸ dated⟩
  · exact ⟨clock ▸ since.come, later, isLater, present ▸ since.come⟩

theorem DatedSince.step (since : DatedSince time file spool) (onward : spool.NeverBack event) :
    DatedSince time file (spool.step event) := by
  cases event with
  | act index deed =>
      apply since.of_redates
      · exact (Participant.sameTime_perform (spool.participant index) spool.host deed).1.symm
      · exact (spool.participant index).redates_perform spool.host deed
  | lend index => exact ⟨since.come, since.dated⟩
  | run number =>
      rcases isLent : spool.tasks[number]? with _ | lent
      · have same : (spool.step (.run number)).host = spool.host := by
          simp [SharedSpool.step, isLent]
        exact ⟨same ▸ since.come, same ▸ since.dated⟩
      · have done : (spool.step (.run number)).host = lent.task.run spool.host := by
          simp [SharedSpool.step, isLent]
        apply since.of_redates
        · rw [done, (lent.task.sameWorld_run spool.host).now]
        · rw [done]
          exact lent.task.redates_run spool.host
  | change next =>
      rcases onward with ⟨clock, dates⟩
      rcases since.dated with ⟨found, isFound, dated⟩
      rcases dates file found isFound with ⟨later, isLater, kept | renewed⟩
      · exact ⟨Int.le_trans since.come clock, later, isLater, Int.le_trans dated kept⟩
      · exact ⟨Int.le_trans since.come clock, later, isLater, Int.le_trans since.come renewed⟩

/-- An event that `Refreshes` a path without an error defeats staleness by age, whether it is made
by the locker that holds the lock or by a task, and whatever kind of entry the lock is if the path
`NamesNoLink`: as long as the lock is the file that it was and `NeverBack` holds of the clock, no
locker which asks for its age only finds it stale before `staleAfter` has passed since the refresh.
-/
theorem not_stale_of_refresh {touched : Host} {events : List SpoolEvent} {work : Acquisition}
    (refreshes : spool.Refreshes event path)
    (touches : spool.host.touch path = .ok touched) (noLink : spool.host.files.NamesNoLink path)
    (onward : (spool.step event).Permits NeverBack events)
    (stage : work.stage = .judging) (unchecked : work.locker.settings.checkOwner = false)
    (same : ((spool.step event).run events).host.named? work.lock = spool.host.named? path)
    (inTime : ((spool.step event).run events).host.now ≤
      spool.host.now + (seconds work.locker.settings.staleAfter.toNat : Int)) :
    work.step ((spool.step event).run events).host =
      work.wait ((spool.step event).run events).host := by
  rcases Host.dated_of_touch touches noLink with ⟨file, found, named, isFound, dated⟩
  have isTouched := host_step_of_refreshes refreshes touches
  have initial : DatedSince spool.host.now file (spool.step event) := by
    refine ⟨?_, found, ?_, Int.le_of_eq dated.symm⟩
    · rw [isTouched, (Host.touch_eq_ok touches).2]
      exact Int.le_refl _
    · rw [isTouched]
      exact isFound
  have since : DatedSince spool.host.now file ((spool.step event).run events) :=
    run_induction initial (fun _ _ before permitted => before.step permitted) onward
  rcases since.dated with ⟨last, isLast, recent⟩
  exact Acquisition.step_of_recent stage unchecked (same.trans named) isLast recent inTime

/-! ## A lock that is refreshed late -/

def bareLocker : Locker where
  process := 1
  settings := { spoolDirectory := "/", honorMail := false, checkOwner := false }

def userLock : HeldLock where
  user := "u"
  path := "/u.lock"

/-- An attempt of a locker to take the lock, when it judges the one that is there. -/
def judgingAttempt (tag : Nat) : Acquisition where
  locker := bareLocker
  user := "u"
  lock := "/u.lock"
  temporary := temporaryPath "/u.lock" 1 tag
  retries := 0
  stage := .judging

/-- A locker has taken the lock and not touched it for long. -/
def agedSpool : SharedSpool :=
  (bareSpool.run (taking 0 7)).step
    (.change { (bareSpool.run (taking 0 7)).host with now := seconds 1000 })

/-- The limit passes, and another locker tries to take the lock. -/
def lateAttempt : List SpoolEvent :=
  .change { (agedSpool.step (.act 0 .refresh)).host with now := seconds 1300 } :: taking 1 5

/-- The lock was refreshed in time, and the other locker has come to judge it. -/
def lateSpool : SharedSpool :=
  (agedSpool.step (.act 0 .refresh)).run lateAttempt

theorem refreshes_agedSpool : agedSpool.Refreshes (.act 0 .refresh) "/u.lock" := by
  refine Or.inl ⟨0, { bareLocker with held := some userLock, counts := { acquisitions := 1 } },
    rfl, ?_, rfl⟩
  decide +kernel

theorem exists_touch_agedSpool : ∃ touched, agedSpool.host.touch "/u.lock" = .ok touched := by
  have touches : (agedSpool.host.touch "/u.lock").toOption.isSome := by decide +kernel
  cases touched : agedSpool.host.touch "/u.lock" with
  | ok after => exact ⟨after, rfl⟩
  | error failure => simp [touched, Except.toOption] at touches

theorem namesNoLink_agedSpool : agedSpool.host.files.NamesNoLink "/u.lock" := by
  have located : agedSpool.host.files.locate false "/u.lock" =
      .ok (.entry root "u.lock" (some ⟨1⟩)) := by decide +kernel
  have lies : agedSpool.host.files.LiesAt "/u.lock" root "u.lock" ⟨1⟩ := located
  exact lies.namesNoLink (by decide +kernel)

theorem permits_lateAttempt :
    (agedSpool.step (.act 0 .refresh)).Permits NeverBack lateAttempt := by
  refine ⟨⟨by decide +kernel, ?_⟩, permits_of_forall ?_⟩
  · intro file found isFound
    exact ⟨found, isFound, Or.inl (Int.le_refl _)⟩
  · intro event member _
    rcases List.mem_cons.mp member with rfl | stepping
    · trivial
    · rw [List.eq_of_mem_replicate stepping]
      trivial

theorem not_stale_of_refresh_lateSpool :
    agedSpool.Refreshes (.act 0 .refresh) "/u.lock" ∧
      (lateSpool.participant 1).activity = .taking (judgingAttempt 1) ∧
      lateSpool.host.now = agedSpool.host.now + (seconds 300 : Int) ∧
      (judgingAttempt 1).step lateSpool.host = (judgingAttempt 1).wait lateSpool.host := by
  rcases exists_touch_agedSpool with ⟨touched, touches⟩
  have inTime : lateSpool.host.now = agedSpool.host.now + (seconds 300 : Int) := by
    decide +kernel
  refine ⟨refreshes_agedSpool, by decide +kernel, inTime, ?_⟩
  exact not_stale_of_refresh refreshes_agedSpool touches namesNoLink_agedSpool permits_lateAttempt
    rfl rfl (by decide +kernel) (Int.le_of_eq inTime)

/-! ## A lock that is a symbolic link -/

/-- A host with an old file and a symbolic link to it at the path of the lock. -/
def linkedHost : Host :=
  { Host.boot (seconds 1000) fun number => number with
    files :=
      (((FileSystem.empty 0).make root "t" (.regular .empty) 0).2.make root "u.lock" (.link "/t")
        0).2 }

/-- A locker has adopted the symbolic link. -/
def linkedSpool : SharedSpool :=
  (opened linkedHost fun _ => bareLocker).step (.act 0 (.adopt "u"))

/-- The lock was refreshed, and at the same time another locker has come to judge it. -/
def linkedSpoolJudged : SharedSpool :=
  (linkedSpool.step (.act 0 .refresh)).run (taking 1 5)

/-- A symbolic link that was adopted is refreshed without an error, and at the same moment another
locker with the same settings finds it stale. -/
theorem link_stale_when_refreshed :
    linkedSpool.Refreshes (.act 0 .refresh) "/u.lock" ∧
      (linkedSpool.host.touch "/u.lock").toOption.isSome ∧
      linkedSpoolJudged.host.now = linkedSpool.host.now ∧
      linkedSpoolJudged.host.named? "/u.lock" = linkedSpool.host.named? "/u.lock" ∧
      (linkedSpoolJudged.participant 1).activity = .taking (judgingAttempt 0) ∧
      ((judgingAttempt 0).step linkedSpoolJudged.host).1.stage = .rechecking ⟨2⟩ := by
  refine ⟨Or.inl ⟨0, { bareLocker with held := some userLock }, rfl, ?_, rfl⟩, ?_, ?_, ?_, ?_, ?_⟩
  · decide +kernel
  · decide +kernel
  · decide +kernel
  · decide +kernel
  · decide +kernel
  · decide +kernel

end SharedSpool

end MailSpool
