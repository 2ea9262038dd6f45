import MailSpool.Proofs.Dotlock.Turns

/-!
# How often a locker tries to link

An attempt to link that is followed by a rest is counted, and there are no more of these than the
locker may retry. But a stale lock that was removed, replaced or lost lets the locker link again at
once. What pays for such a link is the lock: the file that was judged stale has left the path since
it was judged, and no two links are paid by one departure. So the loop ends whatever others do
between two calls, unless they put locks there again and again.

Two accounts are kept. The first is in the `departure` of whatever files, against what is `due`. The
second is in the `arrival` of files that others have put there, and holds while they leave the
temporary file alone: a file that is at the path, but for the own one that was just linked, is a
`stake` that will pay for one link.
-/

namespace MailSpool

open FileSystem

namespace AcquisitionStage

/-- Whether the step that is made at a stage is an attempt to `link`. -/
@[simp]
def tries : AcquisitionStage → Nat
  | .linking => 1
  | _ => 0

/-- How many links are due, given the file that the path of the lock names. A locker that suspects a
lock which is gone will link without another attempt being counted. -/
@[simp]
def due (stage : AcquisitionStage) (named : Option FileId) : Nat :=
  match stage with
  | .linking | .resting _ => 1
  | .readingOwner lock | .askingOwner lock _ | .rechecking lock | .breaking lock =>
    if named = some lock then 0 else 1
  | _ => 0

/-- Whether the file that the path of the lock names can still pay for a link: not if it is the own
file of the locker, just linked, nor if there will be no link any more. -/
@[simp]
def stake (own : FileId) (stage : AcquisitionStage) (named : Option FileId) : Nat :=
  match stage with
  | .comparing none | .comparingLock none _ => if named = none ∨ named = some own then 0 else 1
  | .clearing _ | .finished _ => 0
  | _ => if named = none then 0 else 1

/-- How many steps were made at most since the last attempt to link, that one included. -/
@[simp]
def lateness : AcquisitionStage → Nat
  | .comparing _ => 1
  | .comparingLock _ _ => 2
  | .judging => 3
  | .readingOwner _ => 4
  | .askingOwner _ _ => 5
  | .rechecking _ => 6
  | .breaking _ | .resting _ => 7
  | .linking | .clearing _ => 8
  | _ => 9

/-- A stage from which, without a temporary file, nothing but the end is left. -/
def IsVain : AcquisitionStage → Prop
  | .linking | .clearing _ | .finished _ => True
  | .comparing (some error) => error.kind ≠ .alreadyExists
  | _ => False

theorem lateness_le {stage : AcquisitionStage} (isRound : stage.IsRound)
    (going : ∀ status, stage ≠ .finished status) : stage.lateness ≤ 8 := by
  rcases isRound with written | ⟨status, ended⟩
  · cases stage <;> simp_all [HasRecord, UsesTemporary]
  · exact absurd ended (going status)

theorem tries_of_isJudging {stage : AcquisitionStage} (judging : stage.IsJudging) :
    stage.tries = 0 := by
  cases stage <;> simp_all [IsJudging]

theorem stake_of_isJudging {stage : AcquisitionStage} (judging : stage.IsJudging) (own : FileId)
    (named : Option FileId) : stage.stake own named = if named = none then 0 else 1 := by
  cases stage <;> simp_all [IsJudging]

end AcquisitionStage

/-- One if a path has lost the file that it named. -/
def departure (path : String) (before after : Host) : Nat :=
  if before.named? path = none ∨ after.named? path = before.named? path then 0 else 1

/-- One if a path has come to name a file. -/
def arrival (path : String) (before after : Host) : Nat :=
  if after.named? path = none ∨ after.named? path = before.named? path then 0 else 1

variable {work : Acquisition} {host after : Host} {result : Acquisition × Host} {path : String}
  {own : FileId}

theorem departure_of_unlink {removed : Host} (unlinked : host.unlink path = .ok removed)
    (files : after.files = removed.files) {lock : FileId} (named : host.named? path = some lock) :
    departure path host after = 1 := by
  have gone : after.named? path = none :=
    (Host.named?_congr files path).trans (Host.named?_eq_none_of_unlink unlinked)
  simp [departure, named, gone]

theorem due_le_of_change (stage : AcquisitionStage) (path : String) (host after : Host) :
    stage.due (after.named? path) ≤ stage.due (host.named? path) + departure path host after := by
  have owed : ∀ lock, (if after.named? path = some lock then 0 else 1) ≤
      (if host.named? path = some lock then 0 else 1) + departure path host after := by
    intro lock
    by_cases before : host.named? path = some lock
    · by_cases still : after.named? path = some lock
      · simp [still]
      · simp [departure, before, still]
    · simp only [before, if_false]
      split <;> omega
  cases stage with
  | readingOwner lock | askingOwner lock _ | rechecking lock | breaking lock => exact owed lock
  | releasing | creating | writing | discarding | linking | comparing | comparingLock | judging
  | resting | clearing | finished =>
      simp

theorem stake_le_of_change (stage : AcquisitionStage) (path : String) (own : FileId)
    (host after : Host) :
    stage.due (after.named? path) + stage.stake own (after.named? path) ≤
      stage.due (host.named? path) + stage.stake own (host.named? path) +
        arrival path host after := by
  unfold arrival
  generalize after.named? path = now
  generalize host.named? path = before
  cases stage with
  | readingOwner lock | askingOwner lock _ | rechecking lock | breaking lock =>
      simp only [AcquisitionStage.due, AcquisitionStage.stake]
      grind
  | comparing refusal | comparingLock refusal _ =>
      cases refusal <;> simp only [AcquisitionStage.due, AcquisitionStage.stake] <;> grind
  | releasing | creating | writing | discarding | linking | judging | resting | clearing
  | finished =>
      simp only [AcquisitionStage.due, AcquisitionStage.stake]
      grind

namespace Acquisition

/-- Whether the locker rests, and its time has not come. -/
def isAsleep (work : Acquisition) (host : Host) : Bool :=
  match work.stage with
  | .resting wake => decide (host.now < wake)
  | _ => false

/-! ## The account in departures -/

/-- A step pays for the link that it makes or brings about, be it with one of the `tries` or with
the `departure` of the lock. -/
theorem Turn.due_le (turn : Turn work host result) :
    work.stage.tries + result.1.stage.due (result.2.named? work.lock) + work.attempt.toNat ≤
      work.stage.due (host.named? work.lock) + result.1.attempt.toNat +
        departure work.lock host result.2 := by
  cases turn with
  | links stage next attempt | misses _ stage next attempt | compares _ _ _ stage next attempt
  | confirms _ _ stage _ next attempt | wakes _ stage _ next attempt
  | clears _ stage next attempt =>
      simp [stage, next, attempt]
  | doubts refusal stage taken next attempt files =>
      rcases stage with ⟨stage, _⟩ | ⟨file, stage, _⟩ <;> simp [stage, next, attempt]
  | suspects lock stage named next attempt files =>
      have still := (Host.named?_congr files work.lock).trans named
      rcases next with next | next <;> simp [stage, next, attempt, still]
  | reads lock owner stage next attempt files | condemns lock owner stage next attempt files =>
      simp [stage, next, attempt, Host.named?_congr files work.lock]
  | rechecks lock stage named next attempt files =>
      simp [stage, next, attempt, Host.named?_congr files work.lock, named]
  | breaks lock removed stage next attempt unlinked files =>
      simp only [stage, next, attempt, AcquisitionStage.due, AcquisitionStage.tries]
      split
      case isTrue named =>
        rw [departure_of_unlink unlinked files named]
        omega
      case isFalse => omega
  | retries lock stage gone next attempt files =>
      rcases stage with stage | stage <;> simp [stage, next, attempt, gone]
  | rests wake stage next may attempt files =>
      simp only [AcquisitionStage.tries_of_isJudging stage, next, attempt, AcquisitionStage.due]
      omega
  | abandons status stage next attempt files =>
      have untried : work.stage.tries = 0 := by
        rcases stage with ⟨_, unlinking, _⟩
        cases isStage : work.stage <;> simp_all
      simp only [untried, next, attempt, AcquisitionStage.due]
      omega
  | sleeps wake stage early same =>
      rw [same]
      simp [stage]
  | stays status stage same =>
      rw [same]
      simp [stage]

/-- No attempt to link is followed by more than eight steps before the next one or the end: that is
the bound of `lateness`. -/
theorem Turn.lateness_le (turn : Turn work host result)
    (going : ∀ status, result.1.stage ≠ .finished status) :
    (if work.isAsleep host then 0 else 1) + work.stage.lateness ≤
      8 * work.stage.tries + result.1.stage.lateness := by
  cases turn with
  | links stage next | misses _ stage next | compares _ _ _ stage next | reads _ _ stage next
  | condemns _ _ stage next | rechecks _ stage _ next | breaks _ _ stage next
  | confirms _ _ stage _ next =>
      simp [isAsleep, stage, next]
  | wakes wake stage awake next =>
      simp [isAsleep, stage, next, Int.not_lt.mpr awake]
  | sleeps wake stage early same =>
      rw [same]
      simp [isAsleep, stage, Int.not_le.mp early]
  | doubts refusal stage taken next =>
      rcases stage with ⟨stage, _⟩ | ⟨file, stage, _⟩ <;> simp [isAsleep, stage, next]
  | suspects lock stage named next =>
      rcases next with next | next <;> simp [isAsleep, stage, next]
  | retries lock stage gone next =>
      rcases stage with stage | stage <;> simp [isAsleep, stage, next]
  | rests wake stage next =>
      cases isStage : work.stage <;>
        simp_all [AcquisitionStage.IsJudging, isAsleep]
  | abandons status stage next =>
      rcases stage with ⟨written, unlinking, uncleared⟩
      cases isStage : work.stage <;>
        simp_all [AcquisitionStage.HasRecord, AcquisitionStage.UsesTemporary, isAsleep]
      split <;> omega
  | clears status stage next => exact absurd next (going status)
  | stays status stage same =>
      rw [same] at going
      exact absurd stage (going status)

theorem Turn.isRound (turn : Turn work host result) : result.1.stage.IsRound := by
  cases turn with
  | clears status stage next => exact Or.inr ⟨status, next⟩
  | stays status stage same => exact Or.inr ⟨status, by rw [same, stage]⟩
  | sleeps wake stage early same =>
      left
      rw [same, stage]
      trivial
  | suspects lock stage named next =>
      left
      rcases next with next | next <;> rw [next] <;> trivial
  | links _ next | misses _ _ next | compares _ _ _ _ next | doubts _ _ _ next | reads _ _ _ next
  | condemns _ _ _ next | rechecks _ _ _ next | breaks _ _ _ next | retries _ _ _ next
  | rests _ _ next | wakes _ _ _ next | confirms _ _ _ _ next | abandons _ _ next =>
      left
      rw [next]
      trivial

theorem Turn.attempt_le (turn : Turn work host result)
    (allowed : work.attempt.toNat ≤ work.retries.toNat) :
    result.1.attempt.toNat ≤ work.retries.toNat := by
  cases turn with
  | rests wake stage next may attempt => omega
  | sleeps _ _ _ same | stays _ _ same =>
      rw [same]
      exact allowed
  | links _ _ attempt | misses _ _ _ attempt | compares _ _ _ _ _ attempt
  | doubts _ _ _ _ attempt | suspects _ _ _ _ attempt | reads _ _ _ _ attempt
  | condemns _ _ _ _ attempt | rechecks _ _ _ _ attempt | breaks _ _ _ _ attempt
  | retries _ _ _ _ attempt | wakes _ _ _ _ attempt | confirms _ _ _ _ _ attempt
  | abandons _ _ _ attempt | clears _ _ _ attempt =>
      rw [attempt]
      exact allowed

/-! ## The account in arrivals -/

/-- The path of the temporary file names the own file, with which the lock is compared; or it names
nothing any more, and nothing but the end is left. The breaking of a lock that is a symbolic link
on the way to the temporary file leads from the one to the other. -/
inductive Minds (own : FileId) (work : Acquisition) (host : Host) : Prop where
  | keeps (content : ByteArray) (named : host.named? work.temporary = some own)
      (regular : host.files.node? own = some (.regular content))
      (compared : ∀ file, work.stage = .comparingLock none file → file = own)
  | lacks (named : host.named? work.temporary = none) (vain : work.stage.IsVain)

namespace Minds

/-- A link that was made is found to be the own file. -/
theorem not_unseen (minds : Minds own work host) {refusal : Option IoError}
    (stage : work.stage = .comparing refusal)
    (taken : ∀ error, refusal = some error → error.kind = .alreadyExists) :
    ∃ found, host.stat work.temporary = .ok found := by
  cases minds with
  | keeps content named regular compared =>
      rcases Host.named?_eq_some_iff_names.mp named with ⟨writable, names, known⟩
      rcases Host.exists_stat_of_names writable names (plain_of_node? regular).2 known with
        ⟨found, looked⟩
      exact ⟨_, looked⟩
  | lacks named vain =>
      rw [stage] at vain
      cases refusal with
      | none => exact vain.elim
      | some error => exact absurd (taken error rfl) vain

theorem eq_own (minds : Minds own work host) {file : FileId}
    (stage : work.stage = .comparingLock none file) : file = own := by
  cases minds with
  | keeps content named regular compared => exact compared file stage
  | lacks named vain =>
      rw [stage] at vain
      exact vain.elim

theorem named?_of_link (minds : Minds own work host)
    (linked : host.link work.temporary work.lock = .ok after) :
    after.named? work.lock = some own ∧ ∃ content,
      host.named? work.temporary = some own ∧ host.files.node? own = some (.regular content) := by
  rcases Host.link_eq_ok linked with ⟨made, _, writable, _⟩
  cases minds with
  | keeps content named regular compared =>
      exact ⟨Host.named?_of_link linked named regular, content, named, regular⟩
  | lacks named vain =>
      rcases link_spec made with ⟨_, _, id, file, looked, _⟩
      have found : host.named? work.temporary = some id :=
        Host.named?_eq_some_iff.mpr ⟨file, Host.lstat_eq_ok_iff.mpr ⟨writable, looked⟩⟩
      rw [named] at found
      simp at found

theorem of_files {next : Acquisition} (minds : Minds own work host)
    (temporary : next.temporary = work.temporary) (files : after.files = host.files)
    (compared : ∀ content, host.named? work.temporary = some own →
      host.files.node? own = some (.regular content) →
      ∀ file, next.stage = .comparingLock none file → file = own)
    (vain : host.named? work.temporary = none → work.stage.IsVain → next.stage.IsVain) :
    Minds own next after := by
  have sameNamed := Host.named?_congr files work.temporary
  cases minds with
  | keeps content named regular =>
      refine .keeps content ?_ ?_ (compared content named regular)
      · rw [temporary, sameNamed, named]
      · rw [files, regular]
  | lacks named isVain =>
      refine .lacks ?_ (vain named isVain)
      rw [temporary, sameNamed, named]

end Minds

/-- A step keeps the account in arrivals: a lock that is gone was a `stake`. -/
theorem Turn.stake_le (turn : Turn work host result) (minds : Minds own work host) :
    work.stage.tries + result.1.stage.due (result.2.named? work.lock) +
        result.1.stage.stake own (result.2.named? work.lock) + work.attempt.toNat ≤
      work.stage.due (host.named? work.lock) + work.stage.stake own (host.named? work.lock) +
        result.1.attempt.toNat := by
  cases turn with
  | links stage next attempt linked =>
      simp [stage, next, attempt, (minds.named?_of_link linked).1]
  | misses error stage next attempt files refused =>
      simp [stage, next, attempt, Host.named?_congr files work.lock]
  | compares refusal file found stage next attempt files looked =>
      cases refusal <;> simp [stage, next, attempt, Host.named?_congr files work.lock]
  | doubts refusal stage taken next attempt files =>
      have same := Host.named?_congr files work.lock
      rcases stage with ⟨stage, unseen⟩ | ⟨file, stage, other⟩
      · rcases minds.not_unseen stage taken with ⟨found, looked⟩
        exact absurd looked (unseen found)
      · cases refusal with
        | none =>
            cases minds.eq_own stage
            simp [stage, next, attempt, same, other]
        | some error => simp [stage, next, attempt, same]
  | suspects lock stage named next attempt files =>
      have still := (Host.named?_congr files work.lock).trans named
      rcases next with next | next <;> simp [stage, next, attempt, still, named]
  | reads lock owner stage next attempt files | condemns lock owner stage next attempt files =>
      simp [stage, next, attempt, Host.named?_congr files work.lock]
  | rechecks lock stage named next attempt files =>
      simp [stage, next, attempt, Host.named?_congr files work.lock]
  | breaks lock removed stage next attempt unlinked files =>
      have gone : result.2.named? work.lock = none :=
        (Host.named?_congr files work.lock).trans (Host.named?_eq_none_of_unlink unlinked)
      by_cases named : host.named? work.lock = some lock
      · simp [stage, next, attempt, gone, named]
      · simp [stage, next, attempt, gone, named]
  | retries lock stage gone next attempt files =>
      have same := Host.named?_congr files work.lock
      rcases stage with stage | stage <;> simp [stage, next, attempt, gone, same]
  | rests wake stage next may attempt files =>
      have owed : result.1.stage.due (result.2.named? work.lock) = 1 := by simp [next]
      have staked : result.1.stage.stake own (result.2.named? work.lock) =
          work.stage.stake own (host.named? work.lock) := by
        rw [AcquisitionStage.stake_of_isJudging stage, Host.named?_congr files work.lock]
        simp [next]
      rw [AcquisitionStage.tries_of_isJudging stage, owed, staked]
      omega
  | wakes wake stage awake next attempt files =>
      simp [stage, next, attempt, Host.named?_congr files work.lock]
  | sleeps wake stage early same =>
      rw [same]
      simp [stage]
  | confirms refusal file stage named next attempt files =>
      simp [stage, next, attempt]
  | abandons status stage next attempt files =>
      have untried : work.stage.tries = 0 := by
        rcases stage with ⟨_, unlinking, _⟩
        cases isStage : work.stage <;> simp_all
      simp only [untried, next, attempt, AcquisitionStage.due, AcquisitionStage.stake]
      omega
  | clears status stage next attempt files => simp [stage, next, attempt]
  | stays status stage same =>
      rw [same]
      simp [stage]

/-- `Minds` is kept by the removal of a name that leads to a stage that `IsVain`, whether or not the
temporary file goes with it. -/
theorem Minds.of_remaining {next : Acquisition} (minds : Minds own work host)
    (temporary : next.temporary = work.temporary) (files : after.files = host.remaining path)
    (vain : next.stage.IsVain) : Minds own next after := by
  have uncompared : ∀ file, next.stage ≠ .comparingLock none file := by
    intro file compares
    rw [compares] at vain
    exact vain
  rcases host.remaining_cases path with same | removed
  · refine minds.of_files temporary (files.trans same) ?_ fun _ _ => vain
    exact fun _ _ _ file compares => absurd compares (uncompared file)
  rw [← files] at removed
  rcases unlink_spec removed with ⟨_, _, _, _, _, _, retains, _⟩
  by_cases gone : after.named? work.temporary = none
  · refine .lacks ?_ vain
    rw [temporary, gone]
  rcases Option.ne_none_iff_exists'.mp gone with ⟨file, still⟩
  rcases Host.named?_eq_some_iff_names.mp still with ⟨writable, names, isFile⟩
  have before := Names.of_unlink names removed
  cases minds with
  | keeps content named regular =>
      cases (Host.leads_of_named? named).eq_of_names before
      refine .keeps content ?_ (retains.node? regular not_false) ?_
      · rw [temporary, still]
      · exact fun _ compares => absurd compares (uncompared _)
  | lacks named =>
      have known := isSome_file_of_unlink removed file
      rw [isFile] at known
      have found : host.named? work.temporary = some file :=
        Host.named?_eq_some_iff_names.mpr ⟨writable, before, known.symm⟩
      rw [named] at found
      simp at found

theorem Turn.minds (turn : Turn work host result) (temporary : result.1.temporary = work.temporary)
    (minds : Minds own work host) : Minds own result.1 result.2 := by
  have stays : result.2.files = host.files →
      (∀ file, result.1.stage ≠ .comparingLock none file) →
      (host.named? work.temporary = none → work.stage.IsVain → result.1.stage.IsVain) →
      Minds own result.1 result.2 := by
    intro files uncompared vain
    exact minds.of_files temporary files (fun _ _ _ file next => absurd next (uncompared file)) vain
  cases turn with
  | links stage next attempt linked =>
      rcases minds.named?_of_link linked with ⟨_, content, named, regular⟩
      rcases Host.named?_existing_of_link linked named regular with ⟨still, kept⟩
      refine .keeps content ?_ kept (by simp [next])
      rw [temporary, still]
  | misses error stage next attempt files refused =>
      refine stays files (by simp [next]) fun lacks _ => ?_
      rw [next]
      intro taken
      have found := Host.isSome_named?_of_link_error refused taken
      simp [lacks] at found
  | compares refusal file found stage next attempt files looked =>
      refine minds.of_files temporary files ?_ ?_
      · intro content named regular other isNext
        rw [next] at isNext
        cases isNext
        exact Host.eq_of_stat named regular looked
      · intro lacks _
        have named := Host.isSome_named?_of_stat looked
        simp [lacks] at named
  | breaks lock removed stage next attempt unlinked files =>
      have remains := files.trans (Host.remaining_of_unlink unlinked).symm
      exact minds.of_remaining temporary remains (by rw [next]; trivial)
  | clears status stage next attempt files =>
      exact minds.of_remaining temporary files (by rw [next]; trivial)
  | confirms _ _ _ _ next _ files | abandons _ _ next _ files | wakes _ _ _ next _ files
  | retries _ _ _ next _ files =>
      exact stays files (by simp [next]) fun _ _ => by rw [next]; trivial
  | doubts refusal stage taken next attempt files =>
      refine stays files (by simp [next]) fun _ vain => ?_
      rcases stage with ⟨stage, _⟩ | ⟨file, stage, _⟩
      · rw [stage] at vain
        cases refusal with
        | none => exact vain.elim
        | some error => exact absurd (taken error rfl) vain
      · rw [stage] at vain
        exact vain.elim
  | suspects lock stage named next attempt files =>
      rcases next with next | next
      · exact stays files (by simp [next]) fun _ vain => by rw [stage] at vain; exact vain.elim
      · exact stays files (by simp [next]) fun _ vain => by rw [stage] at vain; exact vain.elim
  | reads _ _ stage next _ files | condemns _ _ stage next _ files
  | rechecks _ stage _ next _ files =>
      exact stays files (by simp [next]) fun _ vain => by rw [stage] at vain; exact vain.elim
  | rests wake stage next may attempt files =>
      refine stays files (by simp [next]) fun _ vain => ?_
      cases isStage : work.stage <;>
        simp_all [AcquisitionStage.IsJudging, AcquisitionStage.IsVain]
  | sleeps _ _ _ same | stays _ _ same =>
      rw [same]
      exact minds

end Acquisition

end MailSpool
