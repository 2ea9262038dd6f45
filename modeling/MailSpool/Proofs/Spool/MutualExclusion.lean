import MailSpool.Proofs.Spool.Peace

/-!
# Mutual exclusion

Any number of lockers take and give back one lock, one call after the other in any order, and nobody
else touches what the path of the lock names. If no file there is ever judged stale, no two lockers
have the lock at a time. The invariant `Excludes` ties every stage of every locker to the file
behind the path: all lockers abide by the rules, and no file is claimed by two of them.
-/

namespace MailSpool

open FileSystem

namespace SharedSpool

/-- Others may do whatever they like with files, except for the path of a lock, the paths of the
temporary files and the files that lockers claim. -/
structure Undisturbed (spool : SharedSpool) (lock : String) (files : FileSystem) : Prop where
  sound : files.Sound
  lock : files.locate false lock = spool.host.files.locate false lock
  temporary : ∀ index work, (spool.participant index).activity = .taking work →
    work.stage.UsesTemporary →
    files.locate false work.temporary = spool.host.files.locate false work.temporary
  node : ∀ index file, (spool.participant index).Claims file →
    files.node? file = spool.host.files.node? file

/-- Lockers take and give back one lock that is never judged stale, as `KeepsPeace` says, and the
others leave them `Undisturbed`. -/
def Peaceful (lock : String) (spool : SharedSpool) : SpoolEvent → Prop
  | .act index deed => (spool.participant index).KeepsPeace spool.host lock deed
  | .change next => spool.Undisturbed lock next.files
  | .lend _ => True
  | .run _ => True

/-- What holds in the course of a peaceful run. -/
structure Excludes (start : SharedSpool) (lock : String) (spool : SharedSpool) : Prop where
  tidy : spool.Tidy
  abides : ∀ index, (spool.participant index).Abides lock spool.host.files
  unshared : ∀ one other file, (spool.participant one).Claims file →
    (spool.participant other).Claims file → one = other
  named : ∀ file, spool.host.files.Names lock file →
    (∃ index, (spool.participant index).Holds ∧ (spool.participant index).own = some file) ∨
      start.host.files.Names lock file

variable {start spool : SharedSpool} {lock : String}

theorem IsOpened.excludes (opens : start.IsOpened) (lock : String) : Excludes start lock start := by
  have tidy := opens.tidy
  rcases opens with ⟨sound, lockers, isOpened⟩
  have idle : ∀ index, ¬(start.participant index).Holds := by
    intro index
    rw [isOpened]
    simp [opened, Participant.Holds]
  have unused : ∀ index file, ¬(start.participant index).Uses file := by
    intro index file
    rw [isOpened]
    exact fun uses => uses
  refine ⟨tidy, ?_, ?_, fun file names => Or.inr names⟩
  · intro index
    refine ⟨?_, ?_, ?_, ?_, ?_, ?_⟩
    · rw [isOpened]
      simp [opened, Participant.heldPath?, LockerActivity.locker?, Locker.heldPath?]
    · rw [isOpened]
      simp [opened]
    · rw [isOpened]
      simp [opened]
    · exact fun _ file _ uses => absurd uses (unused index file)
    · exact fun holds => absurd holds (idle index)
    · exact fun _ file uses => absurd uses (unused index file)
  · rintro one other file (uses | ⟨holds, _⟩) _
    · exact absurd uses (unused one file)
    · exact absurd holds (idle one)

theorem Excludes.known_of_claims (excludes : Excludes start lock spool) {index : Nat}
    {file : FileId} (claims : (spool.participant index).Claims file) :
    ∃ content, spool.host.files.node? file = some (.regular content) := by
  rcases claims with uses | ⟨holds, isOwn⟩
  · exact (excludes.tidy.orderly index).node_of_uses uses
  · rcases (excludes.abides index).holding holds with ⟨_, other, _, isOther, _, _, regular⟩
    cases isOwn.symm.trans isOther
    exact ⟨_, regular⟩

theorem Excludes.step_act (excludes : Excludes start lock spool) {index : Nat} {deed : LockerDeed}
    (peace : (spool.participant index).KeepsPeace spool.host lock deed) :
    Excludes start lock (spool.step (.act index deed)) := by
  have sound := excludes.tidy.sound
  have orderly := excludes.tidy.orderly index
  have move := (excludes.abides index).move_perform orderly sound peace
  have spares := excludes.tidy.spares_act index deed
  have unclaimed : ∀ {other file}, other ≠ index → (spool.participant other).Claims file →
      ¬(spool.participant index).Claims file := by
    intro other file different claims claimsToo
    exact different (excludes.unshared other index file claims claimsToo)
  have apart : ∀ other file, other ≠ index → (spool.participant other).Claims file →
      ¬((spool.participant index).perform spool.host deed).1.Claims file := by
    intro other file different claims claimsAfter
    rcases move.claims claimsAfter with claimedBefore | unknown
    · exact unclaimed different claims claimedBefore
    · rcases excludes.known_of_claims claims with ⟨content, regular⟩
      simp [node?, unknown] at regular
  refine ⟨excludes.tidy.step_act index deed, ?_, unshared_act excludes.unshared apart, ?_⟩
  · intro other
    by_cases same : other = index
    · subst same
      rw [participant_step_act_self]
      exact (excludes.abides other).perform orderly sound peace
    · rw [participant_step_act_of_ne spool deed same]
      refine (excludes.abides other).kept ?_ ?_ ?_
      · intro file claims
        exact move.names_lock_iff (unclaimed same claims)
      · intro work file going uses names
        have ordered := excludes.tidy.orderly other
        simp only [Participant.Orderly, going] at ordered
        exact move.names_temporary ordered.temporary (unclaimed same (Or.inl uses)) names
      · intro file content claims regular
        refine spares.node file content regular ?_
        exact fun uses => unclaimed same claims (Or.inl uses)
  · intro file names
    rcases move.named names with ⟨holds, isOwn⟩ | ⟨namedBefore, kept⟩
    · refine Or.inl ⟨index, ?_⟩
      rw [participant_step_act_self]
      exact ⟨holds, isOwn⟩
    · rcases excludes.named file namedBefore with ⟨holder, holds, isOwn⟩ | atStart
      · refine Or.inl ⟨holder, ?_⟩
        by_cases same : holder = index
        · subst same
          rw [participant_step_act_self]
          exact kept holds isOwn
        · rw [participant_step_act_of_ne spool deed same]
          exact ⟨holds, isOwn⟩
      · exact Or.inr atStart

theorem Excludes.step_run (excludes : Excludes start lock spool) (number : Nat) :
    Excludes start lock (spool.step (.run number)) := by
  have same : SameEntries spool.host.files (spool.step (.run number)).host.files := by
    unfold step
    dsimp only
    rcases spool.tasks[number]? with _ | lent
    · exact .refl _
    · exact lent.task.sameEntries_run spool.host
  have spares := spool.spares_run number fun _ => False
  refine ⟨excludes.tidy.step (.run number) (by simp), ?_, excludes.unshared, ?_⟩
  · intro index
    refine (excludes.abides index).kept ?_ ?_ ?_
    · exact fun file _ => same.names_iff
    · exact fun work file _ _ names => names.sameEntries same
    · exact fun file content _ regular => spares.node file content regular (by simp)
  · exact fun file names => excludes.named file (same.names_iff.mp names)

theorem names_congr {before after : FileSystem} {path : String} {file : FileId}
    (same : after.locate false path = before.locate false path) :
    after.Names path file ↔ before.Names path file := by
  unfold Names
  rw [same]

/-- What others do besides keeps acquisitions orderly. -/
theorem Undisturbed.orderly {files : FileSystem} (undisturbed : spool.Undisturbed lock files)
    (tidy : spool.Tidy) (index : Nat) : (spool.participant index).Orderly files := by
  have orderly := tidy.orderly index
  have node := undisturbed.node index
  have temporary := undisturbed.temporary index
  generalize spool.participant index = participant at orderly node temporary ⊢
  rcases participant with ⟨locker | work | _, own⟩
  · exact orderly
  · rcases orderly with ⟨lockEnds, temporaryEnds, held, made, compared, file⟩
    refine ⟨lockEnds, temporaryEnds, held, made, compared, ?_⟩
    intro uses
    rcases file uses with ⟨ownFile, content, isOwn, leads, regular, written⟩
    refine ⟨ownFile, content, isOwn, ?_, ?_, written⟩
    · intro place located
      rw [temporary work rfl uses] at located
      exact leads place located
    · rw [node ownFile (Or.inl ⟨uses, isOwn⟩)]
      exact regular
  · trivial

theorem Excludes.step_change (excludes : Excludes start lock spool) {next : Host}
    (undisturbed : spool.Undisturbed lock next.files) :
    Excludes start lock (spool.step (.change next)) := by
  refine ⟨?_, ?_, excludes.unshared, ?_⟩
  · refine excludes.tidy.step (.change next) ?_
    rintro other ⟨⟩
    exact ⟨undisturbed.sound, undisturbed.orderly excludes.tidy⟩
  · intro index
    refine (excludes.abides index).kept ?_ ?_ ?_
    · exact fun file _ => names_congr undisturbed.lock
    · intro work file going uses names
      have stage : work.stage.UsesTemporary := by
        simp only [Participant.Uses, going] at uses
        exact uses.1
      exact (names_congr (undisturbed.temporary index work going stage)).mpr names
    · intro file content claims regular
      exact (undisturbed.node index file claims).trans regular
  · exact fun file names => excludes.named file ((names_congr undisturbed.lock).mp names)

theorem Excludes.step (excludes : Excludes start lock spool) {event : SpoolEvent}
    (peaceful : Peaceful lock spool event) : Excludes start lock (spool.step event) := by
  cases event with
  | act index deed => exact excludes.step_act peaceful
  | lend index =>
      exact ⟨excludes.tidy.step (.lend index) (by simp), excludes.abides, excludes.unshared,
        excludes.named⟩
  | run number => exact excludes.step_run number
  | change next => exact excludes.step_change peaceful

variable {events : List SpoolEvent}

theorem IsOpened.excludes_run (opens : start.IsOpened)
    (permits : start.Permits (Peaceful lock) events) : Excludes start lock (start.run events) :=
  run_induction (opens.excludes lock) (fun _ _ excludes peaceful => excludes.step peaceful) permits

/-- At any time of a `Peaceful` run at most one locker `Holds` the lock. The path of the lock then
names the file that this locker has made and linked, its `own` one, and whoever reads it reads the
whole `ownerRecord`. Nothing else can be read there but a file that the path has named from the
start. -/
theorem holders_exclude (opens : start.IsOpened) (permits : start.Permits (Peaceful lock) events) :
    (∀ one other, ((start.run events).participant one).Holds →
      ((start.run events).participant other).Holds → one = other) ∧
    (∀ index, ((start.run events).participant index).Holds → ∃ file locker,
      ((start.run events).participant index).own = some file ∧
      ((start.run events).participant index).activity.locker? = some locker ∧
      (start.run events).host.named? lock = some file ∧
      ∀ process, ((start.run events).host.read process lock).1 =
        .ok (ownerRecord locker.recordedOwner)) ∧
    ∀ process content, ((start.run events).host.read process lock).1 = .ok content →
      (∃ index locker, ((start.run events).participant index).Holds ∧
        ((start.run events).participant index).activity.locker? = some locker ∧
        content = ownerRecord locker.recordedOwner) ∨
      ∃ file, start.host.files.Names lock file ∧
        (start.run events).host.files.Names lock file := by
  have excludes := opens.excludes_run permits
  refine ⟨?_, ?_, ?_⟩
  · intro one other holdsOne holdsOther
    rcases (excludes.abides one).holding holdsOne with ⟨_, file, _, ownOne, namesOne, _, _⟩
    rcases (excludes.abides other).holding holdsOther with ⟨_, same, _, ownOther, namesOther, _, _⟩
    cases namesOne.leads.eq_of_names namesOther
    exact excludes.unshared one other file (Or.inr ⟨holdsOne, ownOne⟩)
      (Or.inr ⟨holdsOther, ownOther⟩)
  · intro index holds
    rcases (excludes.abides index).holding holds with
      ⟨writable, file, locker, isOwn, names, isLocker, regular⟩
    refine ⟨file, locker, isOwn, isLocker, ?_, Host.read_of_names writable names regular⟩
    refine Host.named?_eq_some_iff_names.mpr ⟨writable, names, ?_⟩
    rw [← isSome_node?, regular]
    rfl
  · intro process content read
    rcases Host.exists_names_of_read read with ⟨_, file, names⟩
    rcases excludes.named file names with ⟨index, holds, _⟩ | atStart
    · rcases (excludes.abides index).holding holds with
        ⟨writable, own, locker, _, ownNames, isLocker, regular⟩
      have whole := Host.read_of_names writable ownNames regular process
      rw [whole] at read
      cases read
      exact Or.inl ⟨index, locker, holds, isLocker, rfl⟩
    · exact Or.inr ⟨file, atStart, names⟩

/-- A second locker tries to take the lock that the first one has, and gives up. -/
def contest : List SpoolEvent :=
  taking 0 7 ++ taking 1 7

theorem permits_contest : bareSpool.Permits (Peaceful "/u.lock") contest := by
  simp only [contest, taking, List.replicate, List.cons_append, List.nil_append, Permits, Peaceful]
  decide +kernel

theorem holders_exclude_contest :
    bareSpool.IsOpened ∧ bareSpool.Permits (Peaceful "/u.lock") contest ∧
      ((bareSpool.run contest).participant 0).Holds ∧
      (∀ index, ((bareSpool.run contest).participant index).Holds → index = 0) ∧
      ∀ process, ((bareSpool.run contest).host.read process "/u.lock").1 = .ok (ownerRecord 1) := by
  have held : ((bareSpool.run contest).participant 0).heldPath?.isSome := by decide +kernel
  have holds := Participant.holds_of_heldPath? held
  rcases holders_exclude isOpened_bareSpool permits_contest with ⟨exclusive, holding, _⟩
  refine ⟨isOpened_bareSpool, permits_contest, holds, ?_, ?_⟩
  · intro index alsoHolds
    exact exclusive index 0 alsoHolds holds
  · rcases holding 0 holds with ⟨file, locker, _, isLocker, _, read⟩
    have owner : (((bareSpool.run contest).participant 0).activity.locker?.map
        Locker.recordedOwner) = some 1 := by decide +kernel
    rw [isLocker] at owner
    have isOne : locker.recordedOwner = 1 := by simpa using owner
    rw [isOne] at read
    exact read

end SharedSpool

end MailSpool
