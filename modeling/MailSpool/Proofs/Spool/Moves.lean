import MailSpool.Proofs.FileSystem.Resets
import MailSpool.Proofs.Spool.Tidiness

/-!
# The moves of one locker

A locker has a lock from the link on that made it until it removes it. As long as no lock is judged
stale, a deed of a locker is a `Move` of one name at most: it makes a temporary file, links it to
the path of the lock where nothing was, removes the lock that it has, or removes its temporary file.
All other deeds leave every path what it names.

A locker `Abides` by the rules when it has the lock exactly while the path of the lock names its
file, and that file holds the whole record of its owner. Its moves keep to this.
-/

namespace MailSpool

open FileSystem

/-- An acquisition has a lock from its link on, or still has the one that its locker held. -/
def Acquisition.Holds (work : Acquisition) : Prop :=
  work.locker.held.isSome ∨ work.stage.HasLinked

namespace Participant

/-- A locker has a lock from the link that made it until it removes it. -/
def Holds (participant : Participant) : Prop :=
  match participant.activity with
  | .free locker => locker.held.isSome
  | .taking work => work.Holds
  | .gone => False

theorem holds_of_heldPath? {participant : Participant} (held : participant.heldPath?.isSome) :
    participant.Holds := by
  rcases participant with ⟨locker | work | _, own⟩
  · simpa [Holds, heldPath?, LockerActivity.locker?, Locker.heldPath?] using held
  · exact Or.inl (by simpa [heldPath?, LockerActivity.locker?, Locker.heldPath?] using held)
  · simp [heldPath?, LockerActivity.locker?] at held

/-- The file that a locker uses to take a lock, or that is its lock. -/
def Claims (participant : Participant) (file : FileId) : Prop :=
  participant.Uses file ∨ participant.Holds ∧ participant.own = some file

theorem Claims.own_eq {participant : Participant} {file : FileId}
    (claims : participant.Claims file) : participant.own = some file := by
  rcases claims with uses | ⟨_, isOwn⟩
  · rcases participant with ⟨locker | work | _, own⟩
    · exact False.elim uses
    · exact uses.2
    · exact False.elim uses
  · exact isOwn

@[simp]
theorem holds_ofAcquisition (work : Acquisition) (own : Option FileId) :
    Participant.Holds { activity := .ofAcquisition work, own := own } ↔ work.Holds := by
  unfold LockerActivity.ofAcquisition
  split
  case h_1 status stage =>
    simp [Holds, Acquisition.Holds, stage, AcquisitionStage.HasLinked]
  case h_2 => rfl

/-- How one locker stands to a lock: it takes no other lock and trusts in no judgement, and it has
the lock exactly while the path of the lock names its own file. -/
structure Abides (participant : Participant) (lock : String) (files : FileSystem) : Prop where
  held : ∀ path, participant.heldPath? = some path → path = lock
  sameLock : ∀ work, participant.activity = .taking work → work.lock = lock
  unjudged : ∀ work stale, participant.activity = .taking work →
    work.stage ≠ .rechecking stale ∧ work.stage ≠ .breaking stale
  temporary : ∀ work file, participant.activity = .taking work → participant.Uses file →
    Host.IsWritable work.temporary ∧ files.Names work.temporary file
  holding : participant.Holds → Host.IsWritable lock ∧ ∃ file locker,
    participant.own = some file ∧ files.Names lock file ∧
      participant.activity.locker? = some locker ∧
      files.node? file = some (.regular (ownerRecord locker.recordedOwner))
  waiting : ¬participant.Holds → ∀ file, participant.Uses file → ¬files.Names lock file

/-- What a deed of a locker moves: no name, or a single one. -/
inductive Move (lock : String) (participant next : Participant) (before after : FileSystem) :
    Prop where
  | stays (holds : next.Holds ↔ participant.Holds) (own : next.own = participant.own)
      (uses : ∀ file, next.Uses file → participant.Uses file) (same : SameEntries before after)
  | makes (path : String) (file : FileId) (idle : ¬participant.Holds) (still : ¬next.Holds)
      (own : next.own = some file) (fresh : before.file file = none)
      (temporary : ∀ work, next.activity = .taking work →
        work.temporary = path ∧ Host.IsWritable path)
      (ending : path.toList.getLast? ≠ some 'k') (ends : lock.toList.getLast? = some 'k')
      (resets : Resets before after path none (some file))
  | takes (file : FileId) (idle : ¬participant.Holds) (holds : next.Holds)
      (own : next.own = participant.own) (uses : participant.Uses file)
      (still : ∀ file, next.Uses file → participant.Uses file) (writable : Host.IsWritable lock)
      (ends : lock.toList.getLast? = some 'k') (resets : Resets before after lock none (some file))
  | gives (file : FileId) (holds : participant.Holds) (own : participant.own = some file)
      (idle : ¬next.Holds) (unused : ∀ file, ¬next.Uses file)
      (ends : lock.toList.getLast? = some 'k') (resets : Resets before after lock (some file) none)
  | clears (path : String) (file : FileId) (holds : next.Holds ↔ participant.Holds)
      (own : next.own = participant.own) (uses : participant.Uses file)
      (unused : ∀ file, ¬next.Uses file) (ending : path.toList.getLast? ≠ some 'k')
      (ends : lock.toList.getLast? = some 'k') (resets : Resets before after path (some file) none)

theorem resets_release {locker : Locker} {host : Host} {lock : String} {held : HeldLock}
    {file : FileId} {content : ByteArray} (isHeld : locker.held = some held)
    (sameLock : held.path = lock) (ends : lock.toList.getLast? = some 'k')
    (writable : Host.IsWritable lock) (names : host.files.Names lock file)
    (regular : host.files.node? file = some (.regular content)) :
    Resets host.files (locker.release host).2.files lock (some file) none := by
  rcases Host.exists_unlink writable names regular ends (by decide) (by decide) with ⟨rest, removed⟩
  rw [Locker.files_release, isHeld, Option.map_some, Option.getD_some, sameLock,
    Host.remaining_of_unlink removed]
  exact resets_unlink (Host.unlink_eq_ok removed).1 names.leads regular

section Step

variable {work : Acquisition} {host : Host} {own : Option FileId} {lock : String}
  {file : FileId}

theorem Move.of_sameEntries {next : Acquisition} {before after : FileSystem}
    (holds : next.Holds ↔ work.Holds) (made : next.stage.made? = none)
    (uses : next.stage.UsesTemporary → work.stage.UsesTemporary)
    (same : SameEntries before after) :
    Move lock { activity := .taking work, own := own }
      { activity := .ofAcquisition next, own := next.stage.made?.or own } before after := by
  rw [made, Option.none_or]
  refine .stays ?_ rfl ?_ same
  · rw [holds_ofAcquisition]
    exact holds
  · intro file usesFile
    rcases uses_ofAcquisition usesFile with ⟨stage, isOwn⟩
    exact ⟨uses stage, isOwn⟩

/-- A locker that has linked its file sees that the lock is its own. -/
theorem Abides.not_hasLinked_of_refuses
    (abides : Participant.Abides { activity := .taking work, own := own } lock host.files)
    (orderly : work.Orderly host.files own) (refused : (work.step host).1.stage.IsRefused)
    (unseen : ∀ refusal, work.stage = .comparing refusal →
      ∀ file found, host.stat work.temporary ≠ .ok (file, found))
    (other : ∀ refusal file, work.stage = .comparingLock refusal file →
      host.named? work.lock ≠ some file) : ¬work.stage.HasLinked := by
  intro linked
  rcases orderly.file linked.hasRecord.usesTemporary with ⟨file, content, isOwn, _, regular, _⟩
  cases stage : work.stage with
  | comparing refusal =>
      rcases abides.temporary work file rfl ⟨linked.hasRecord.usesTemporary, isOwn⟩ with
        ⟨writable, names⟩
      rcases Host.exists_stat writable names regular with ⟨found, looked, _⟩
      exact unseen refusal stage file found looked
  | comparingLock refusal compared =>
      rcases abides.holding (Or.inr linked) with ⟨writable, held, locker, isHeld, names, _, _⟩
      cases isOwn.symm.trans (orderly.compared refusal compared stage)
      cases isOwn.symm.trans isHeld
      apply other refusal file stage
      rw [abides.sameLock work rfl]
      refine Host.named?_eq_some_iff_names.mpr ⟨writable, names, ?_⟩
      rw [← isSome_node?, regular]
      rfl
  | clearing status =>
      have finished : (work.step host).1.stage = .finished status := by
        simp only [Acquisition.step, stage, Acquisition.finish]
        split <;> rfl
      rw [finished] at refused
      exact refused
  | releasing | creating | writing | discarding | linking | judging | readingOwner | askingOwner
  | rechecking | breaking | resting | finished =>
      simp [stage, AcquisitionStage.HasLinked] at linked

theorem uses_taking (isOwn : own = some file) (uses : work.stage.UsesTemporary) :
    Participant.Uses { activity := .taking work, own := own } file :=
  ⟨uses, isOwn⟩

theorem not_uses_of_unused {next : Acquisition} (unused : ¬next.stage.UsesTemporary)
    (other : Option FileId) (file : FileId) :
    ¬Participant.Uses { activity := .ofAcquisition next, own := other } file := by
  intro uses
  exact unused (uses_ofAcquisition uses).1

theorem Move.of_removal {next : Acquisition} {after : FileSystem}
    (orderly : work.Orderly host.files own) (same : work.lock = lock)
    (uses : work.stage.UsesTemporary) (ended : ¬next.stage.UsesTemporary)
    (made : next.stage.made? = none) (holds : next.Holds ↔ work.Holds)
    (files : after = host.remaining work.temporary) :
    Move lock { activity := .taking work, own := own }
      { activity := .ofAcquisition next, own := next.stage.made?.or own } host.files after := by
  rcases orderly.file uses with ⟨file, content, isOwn, leads, regular, _⟩
  rcases host.remaining_cases work.temporary with kept | removed
  · refine .of_sameEntries holds made (fun stillUses => absurd stillUses ended) ?_
    rw [files, kept]
    exact .refl host.files
  · rw [made, Option.none_or, files]
    refine .clears work.temporary file ?_ rfl (uses_taking isOwn uses)
      (not_uses_of_unused ended own) orderly.temporary (same ▸ orderly.lock)
      (resets_unlink removed leads regular)
    rw [holds_ofAcquisition]
    exact holds

/-- A step of an acquisition is a `Move` of one name at most. -/
theorem Abides.move_step
    (abides : Participant.Abides { activity := .taking work, own := own } lock host.files)
    (orderly : work.Orderly host.files own) (sound : host.files.Sound) :
    Move lock { activity := .taking work, own := own }
      { activity := .ofAcquisition (work.step host).1
        own := (work.step host).1.stage.made?.or own } host.files (work.step host).2.files := by
  have effect := Acquisition.effect_step work host
  have continues := Acquisition.continues_step work host
  have notLinked := abides.not_hasLinked_of_refuses orderly
  have sameLock : work.lock = lock := abides.sameLock work rfl
  have ends : lock.toList.getLast? = some 'k' := sameLock ▸ orderly.lock
  generalize work.step host = result at effect continues notLinked ⊢
  cases effect with
  | releases stage next held files =>
      have idle : ¬result.1.Holds := by
        simp [Acquisition.Holds, held, next, AcquisitionStage.HasLinked]
      rcases holding : work.locker.held with _ | lockHeld
      · refine .of_sameEntries ?_ ?_ ?_ ?_
        · simp [Acquisition.Holds, holding, held, next, stage, AcquisitionStage.HasLinked]
        · simp [next, AcquisitionStage.made?]
        · simp [next, AcquisitionStage.UsesTemporary]
        · rw [files, Locker.files_release, holding]
          exact .refl host.files
      · have holds : Participant.Holds { activity := .taking work, own := own } :=
          Or.inl (by simp [holding])
        rcases abides.holding holds with ⟨writable, file, locker, isOwn, names, _, regular⟩
        have samePath : lockHeld.path = lock := by
          apply abides.held
          simp [heldPath?, LockerActivity.locker?, Locker.heldPath?, holding]
        rw [files]
        refine .gives file holds isOwn ?_ ?_ ends
          (resets_release holding samePath ends writable names regular)
        · rw [holds_ofAcquisition]
          exact idle
        · apply not_uses_of_unused
          simp [next, AcquisitionStage.UsesTemporary]
  | creates file stage next held created =>
      rcases create_spec sound (Host.create_eq_ok created).1 with ⟨_, _, _, fresh, _⟩
      have empty := orderly.held_eq_none (by simp [stage])
      have taking : LockerActivity.ofAcquisition result.1 = .taking result.1 := by
        simp [LockerActivity.ofAcquisition, next]
      refine .makes work.temporary file ?_ ?_ ?_ fresh ?_ orderly.temporary ends
        (resets_create sound (Host.create_eq_ok created).1)
      · simp [Holds, Acquisition.Holds, empty, stage, AcquisitionStage.HasLinked]
      · rw [holds_ofAcquisition]
        simp [Acquisition.Holds, held, empty, next, AcquisitionStage.HasLinked]
      · simp [next, AcquisitionStage.made?]
      · intro going isGoing
        rw [taking] at isGoing
        cases isGoing
        exact ⟨continues.temporary, Host.isWritable_of_create created⟩
  | stops stage next held files | spoils _ stage next held files | misses _ stage next held files =>
      refine .of_sameEntries ?_ ?_ ?_ ?_
      · simp [Acquisition.Holds, held, next, stage, AcquisitionStage.HasLinked]
      · simp [next, AcquisitionStage.made?]
      · simp [next, stage, AcquisitionStage.UsesTemporary]
      · rw [files]
        exact .refl host.files
  | fills file stage next held filled =>
      refine .of_sameEntries ?_ ?_ ?_ ?_
      · simp [Acquisition.Holds, held, next, stage, AcquisitionStage.HasLinked]
      · simp [next, AcquisitionStage.made?]
      · simp [stage, AcquisitionStage.UsesTemporary]
      · rw [Host.fill_eq_ok filled]
        exact (setContent_spec _ _ _ _).1
  | discards stage next held files =>
      refine .of_removal orderly sameLock ?_ ?_ ?_ ?_ files
      · simp [stage, AcquisitionStage.UsesTemporary]
      · simp [next, AcquisitionStage.UsesTemporary]
      · simp [next, AcquisitionStage.made?]
      · simp [Acquisition.Holds, held, next, stage, AcquisitionStage.HasLinked]
  | links stage next held linked =>
      have uses : work.stage.UsesTemporary := by simp [stage, AcquisitionStage.UsesTemporary]
      rcases orderly.file uses with ⟨file, content, isOwn, leads, regular, _⟩
      rcases Host.link_eq_ok linked with ⟨linkedFiles, _, _, writable⟩
      have made : result.1.stage.made? = none := by simp [next, AcquisitionStage.made?]
      have empty := orderly.held_eq_none (by simp [stage])
      rw [made, Option.none_or]
      rw [sameLock] at linkedFiles writable
      refine .takes file ?_ ?_ rfl (uses_taking isOwn uses) ?_ writable ends
        (resets_link linkedFiles leads regular)
      · simp [Holds, Acquisition.Holds, empty, stage, AcquisitionStage.HasLinked]
      · rw [holds_ofAcquisition]
        exact Or.inr (by simp [next, AcquisitionStage.HasLinked])
      · intro other otherUses
        exact ⟨uses, (uses_ofAcquisition otherUses).2⟩
  | compares refusal file found stage next held files looked =>
      refine .of_sameEntries ?_ ?_ ?_ ?_
      · cases refusal <;> simp [Acquisition.Holds, held, next, stage, AcquisitionStage.HasLinked]
      · simp [next, AcquisitionStage.made?]
      · simp [stage, AcquisitionStage.UsesTemporary]
      · rw [files]
        exact .refl host.files
  | confirms refusal file found stage next held files looked =>
      have uses : work.stage.UsesTemporary := by simp [stage, AcquisitionStage.UsesTemporary]
      have isOwn := orderly.compared refusal file stage
      have named := (Host.named?_eq_some_iff_names.mp (Host.named?_eq_some_iff.mpr ⟨found, looked⟩))
      have holds : work.Holds := by
        by_contra idle
        exact abides.waiting idle file (uses_taking isOwn uses) (sameLock ▸ named.2.1)
      refine .of_sameEntries ?_ ?_ ?_ ?_
      · exact iff_of_true (Or.inr (by simp [next, AcquisitionStage.HasLinked])) holds
      · simp [next, AcquisitionStage.made?]
      · exact fun _ => uses
      · rw [files]
        exact .refl host.files
  | refuses refused written unseen other linked =>
      refine .of_sameEntries ?_ refused.refused.made? ?_ ?_
      · simp [Acquisition.Holds, refused.held, refused.refused.not_hasLinked,
          notLinked refused.refused unseen other]
      · exact fun _ => written.usesTemporary
      · rw [refused.files]
        exact .refl host.files
  | breaks stale removed stage next held unlinked files =>
      exact absurd stage (abides.unjudged work stale rfl).2
  | clears status stage next held files =>
      have empty := orderly.held_eq_none (by simp [stage])
      refine .of_removal orderly sameLock ?_ ?_ ?_ ?_ files
      · simp [stage, AcquisitionStage.UsesTemporary]
      · simp [next, AcquisitionStage.UsesTemporary]
      · simp [next, AcquisitionStage.made?]
      · cases status <;>
          simp [Acquisition.Holds, held, empty, next, stage, AcquisitionStage.HasLinked]
  | rests status stage same =>
      rw [same]
      refine .of_sameEntries ?_ ?_ ?_ (.refl host.files)
      · rfl
      · simp [stage, AcquisitionStage.made?]
      · exact fun uses => uses

end Step

/-! ## What a move leaves as it is -/

variable {participant next : Participant} {lock : String} {before after : FileSystem}
  {file : FileId}

/-- No path of a temporary file is turned aside whose file the locker does not have among its
`Claims`. -/
theorem Move.names_temporary (move : Move lock participant next before after) {path : String}
    (ending : path.toList.getLast? ≠ some 'k') (other : ¬participant.Claims file)
    (names : before.Names path file) : after.Names path file := by
  cases move with
  | stays _ _ _ same => exact names.sameEntries same
  | makes _ _ _ _ _ _ _ _ _ resets => exact resets.names names (by simp)
  | takes _ _ _ _ _ _ _ _ resets => exact resets.names names (by simp)
  | gives _ _ _ _ _ ends resets =>
      refine resets.names_of_getLast?_ne ?_ names
      rw [ends]
      exact Ne.symm ending
  | clears _ cleared _ _ uses _ _ _ resets =>
      refine resets.names names ?_
      rintro ⟨⟩
      exact other (Or.inl uses)

/-- The path of the lock goes on to name, or not to name, a file that the locker does not claim. -/
theorem Move.names_lock_iff (move : Move lock participant next before after)
    (other : ¬participant.Claims file) : after.Names lock file ↔ before.Names lock file := by
  cases move with
  | stays _ _ _ same => exact same.names_iff
  | makes _ _ _ _ _ _ _ ending ends resets =>
      exact resets.names_iff_of_getLast?_ne (ends ▸ ending)
  | takes made _ _ _ uses _ _ _ resets =>
      rw [resets.names_iff, resets.symm.names_iff]
      simp only [Option.some.injEq, reduceCtorEq, iff_false]
      rintro rfl
      exact other (Or.inl uses)
  | gives given holds own _ _ _ resets =>
      rw [resets.names_iff, resets.symm.names_iff]
      simp only [Option.some.injEq, reduceCtorEq, false_iff]
      rintro rfl
      exact other (Or.inr ⟨holds, own⟩)
  | clears _ _ _ _ _ _ ending ends resets =>
      exact resets.names_iff_of_getLast?_ne (ends ▸ ending)

/-- What a locker `Claims` after its move it has claimed before, or it is new. -/
theorem Move.claims (move : Move lock participant next before after) (claims : next.Claims file) :
    participant.Claims file ∨ before.file file = none := by
  have isOwn := claims.own_eq
  have kept : (next.Holds ↔ participant.Holds) → next.own = participant.own →
      (∀ other, next.Uses other → participant.Uses other) → participant.Claims file := by
    intro holdsIff own uses
    rcases claims with usesAfter | ⟨holds, _⟩
    · exact Or.inl (uses file usesAfter)
    · exact Or.inr ⟨holdsIff.mp holds, own.symm.trans isOwn⟩
  cases move with
  | stays holdsIff own uses same => exact Or.inl (kept holdsIff own uses)
  | makes path made _ _ own fresh _ _ _ _ =>
      cases own.symm.trans isOwn
      exact Or.inr fresh
  | takes made _ _ own uses _ _ _ _ =>
      cases (Claims.own_eq (Or.inl uses)).symm.trans (own.symm.trans isOwn)
      exact Or.inl (Or.inl uses)
  | gives _ _ _ idle unused =>
      rcases claims with uses | ⟨holds, _⟩
      · exact absurd uses (unused file)
      · exact absurd holds idle
  | clears _ _ holdsIff own _ unused =>
      exact Or.inl (kept holdsIff own fun other uses => absurd uses (unused other))

/-- A file that the path of the lock names after a move is the lock of the locker, or it was named
there before and has the same holder. -/
theorem Move.named (move : Move lock participant next before after)
    (names : after.Names lock file) :
    (next.Holds ∧ next.own = some file) ∨
      before.Names lock file ∧
        (participant.Holds → participant.own = some file → next.Holds ∧ next.own = some file) := by
  cases move with
  | stays holdsIff own _ same =>
      refine Or.inr ⟨same.names_iff.mp names, ?_⟩
      exact fun holds isOwn => ⟨holdsIff.mpr holds, own.trans isOwn⟩
  | makes _ _ idle _ _ _ _ ending ends resets =>
      refine Or.inr ⟨(resets.names_iff_of_getLast?_ne (ends ▸ ending)).mp names, ?_⟩
      exact fun holds => absurd holds idle
  | takes made _ holds own uses _ _ _ resets =>
      cases resets.names_iff.mp names
      exact Or.inl ⟨holds, own.trans (Claims.own_eq (Or.inl uses))⟩
  | gives _ _ _ _ _ _ resets => simp [resets.names_iff] at names
  | clears _ _ holdsIff own _ _ ending ends resets =>
      refine Or.inr ⟨(resets.names_iff_of_getLast?_ne (ends ▸ ending)).mp names, ?_⟩
      exact fun holds isOwn => ⟨holdsIff.mpr holds, own.trans isOwn⟩

theorem Abides.kept (abides : participant.Abides lock before)
    (names : ∀ file, participant.Claims file → (after.Names lock file ↔ before.Names lock file))
    (temporary : ∀ work file, participant.activity = .taking work → participant.Uses file →
      before.Names work.temporary file → after.Names work.temporary file)
    (node : ∀ file content, participant.Claims file →
      before.node? file = some (.regular content) → after.node? file = some (.regular content)) :
    participant.Abides lock after where
  held := abides.held
  sameLock := abides.sameLock
  unjudged := abides.unjudged
  temporary work file going uses := by
    rcases abides.temporary work file going uses with ⟨writable, named⟩
    exact ⟨writable, temporary work file going uses named⟩
  holding holds := by
    rcases abides.holding holds with ⟨writable, file, locker, isOwn, named, isLocker, regular⟩
    have claims : participant.Claims file := Or.inr ⟨holds, isOwn⟩
    exact ⟨writable, file, locker, isOwn, (names file claims).mpr named, isLocker,
      node file _ claims regular⟩
  waiting idle file uses named :=
    abides.waiting idle file uses ((names file (Or.inl uses)).mp named)

/-- After its own move a locker `Abides` by the rules if it still takes the same lock, trusts in no
judgement and has written the record of its owner. -/
theorem Move.abides (move : Move lock participant next before after)
    (abides : participant.Abides lock before) (sound : before.Sound)
    (held : ∀ path, next.heldPath? = some path → path = lock)
    (sameLock : ∀ work, next.activity = .taking work → work.lock = lock)
    (unjudged : ∀ work stale, next.activity = .taking work →
      work.stage ≠ .rechecking stale ∧ work.stage ≠ .breaking stale)
    (temporary : ∀ work file, next.activity = .taking work → participant.Uses file →
      ∃ old, participant.activity = .taking old ∧ work.temporary = old.temporary)
    (recorded : next.Holds → ∃ file locker, next.own = some file ∧
      next.activity.locker? = some locker ∧
      after.node? file = some (.regular (ownerRecord locker.recordedOwner))) :
    next.Abides lock after where
  held := held
  sameLock := sameLock
  unjudged := unjudged
  temporary work file going uses := by
    have kept : participant.Uses file →
        Host.IsWritable work.temporary ∧ before.Names work.temporary file := by
      intro usedBefore
      rcases temporary work file going usedBefore with ⟨old, oldGoing, same⟩
      rw [same]
      exact abides.temporary old file oldGoing usedBefore
    cases move with
    | stays _ _ usesBefore same =>
        rcases kept (usesBefore file uses) with ⟨writable, names⟩
        exact ⟨writable, names.sameEntries same⟩
    | makes path made _ _ own _ isTemporary _ _ resets =>
        rcases isTemporary work going with ⟨rfl, writable⟩
        have isOwn := Claims.own_eq (Or.inl uses)
        exact ⟨writable, resets.names_iff.mpr (own.symm.trans isOwn)⟩
    | takes _ _ _ _ _ usesBefore _ _ resets =>
        rcases kept (usesBefore file uses) with ⟨writable, names⟩
        exact ⟨writable, resets.names names (by simp)⟩
    | gives _ _ _ _ unused => exact absurd uses (unused file)
    | clears _ _ _ _ _ unused => exact absurd uses (unused file)
  holding holds := by
    rcases recorded holds with ⟨file, locker, isOwn, isLocker, regular⟩
    have named : Host.IsWritable lock ∧ after.Names lock file := by
      cases move with
      | stays holdsIff own _ same =>
          rcases abides.holding (holdsIff.mp holds) with ⟨writable, other, _, isOther, names, _, _⟩
          cases isOther.symm.trans (own.symm.trans isOwn)
          exact ⟨writable, names.sameEntries same⟩
      | makes _ _ _ still => exact absurd holds still
      | takes made _ _ own uses _ writable _ resets =>
          have isMade := Claims.own_eq (Or.inl uses)
          exact ⟨writable, resets.names_iff.mpr (isMade.symm.trans (own.symm.trans isOwn))⟩
      | gives _ _ _ idle => exact absurd holds idle
      | clears _ _ holdsIff own _ _ ending ends resets =>
          rcases abides.holding (holdsIff.mp holds) with ⟨writable, other, _, isOther, names, _, _⟩
          cases isOther.symm.trans (own.symm.trans isOwn)
          exact ⟨writable, resets.names_of_getLast?_ne (ends ▸ ending) names⟩
    exact ⟨named.1, file, locker, isOwn, named.2, isLocker, regular⟩
  waiting idle file uses names := by
    cases move with
    | stays holdsIff _ usesBefore same =>
        exact abides.waiting (fun holds => idle (holdsIff.mpr holds)) file (usesBefore file uses)
          (same.names_iff.mp names)
    | makes path made _ _ own fresh _ ending ends resets =>
        cases own.symm.trans (Claims.own_eq (Or.inl uses))
        have old := (resets.names_iff_of_getLast?_ne (ends ▸ ending)).mp names
        have known := sound.isSome_of_names old ends (by decide) (by decide)
        simp [fresh] at known
    | takes _ _ holds => exact absurd holds idle
    | gives _ _ _ _ unused => exact absurd uses (unused file)
    | clears _ _ _ _ _ unused => exact absurd uses (unused file)

end Participant

end MailSpool
