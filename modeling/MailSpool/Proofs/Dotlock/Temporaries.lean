import MailSpool.Proofs.Dotlock.Names
import MailSpool.Proofs.Dotlock.Steps

/-!
# Temporary files

From the making of its temporary file to the removal of it, an acquisition has a file of its own, to
which the path of the temporary file leads. Locks lie elsewhere, so whatever is done to them spares
the temporary files, and an acquisition that removes its own one spares those of all others. An
acquisition that is `Orderly` stays so with every step of its own, and with whatever `Spares` its
file.
-/

namespace MailSpool

open FileSystem

/-- What is done to files spares the temporary files, but for some: it opens no way and writes no
other file, and turns no path aside that ends as that of a temporary file. -/
structure Spares (before after : FileSystem) (excepted : FileId → Prop) : Prop extends
    Evolves before after excepted where
  leads : ∀ path file, path.toList.getLast? ≠ some 'k' → ¬excepted file →
    before.Leads path file → after.Leads path file

namespace Spares

variable {before after : FileSystem} {excepted : FileId → Prop} {host : Host} {path : String}

theorem refl (files : FileSystem) (excepted : FileId → Prop) : Spares files files excepted where
  toEvolves := .refl files excepted
  leads _ _ _ _ leads := leads

theorem trans {between : FileSystem} (first : Spares before between excepted)
    (second : Spares between after excepted) : Spares before after excepted where
  toEvolves := first.toEvolves.trans second.toEvolves
  leads path file ending kept leads :=
    second.leads path file ending kept (first.leads path file ending kept leads)

theorem touch {now : Instant} (touched : before.touch path now = .ok after) :
    Spares before after excepted where
  toEvolves := evolves_touch touched
  leads _ _ _ _ leads := by
    rcases touch_spec touched with ⟨_, _, _, _, same, _, _⟩
    exact leads.sameEntries same

theorem remaining_lock (host : Host) (excepted : FileId → Prop)
    (lock : path.toList.getLast? = some 'k') :
    Spares host.files (host.remaining path) excepted := by
  rcases host.remaining_cases path with same | removed
  · rw [same]
    exact .refl host.files excepted
  · refine ⟨evolves_unlink removed, ?_⟩
    intro other file ending _ leads
    apply leads.unlink_of_getLast?_ne removed
    rw [lock]
    exact Ne.symm ending

theorem remaining_temporary {own : FileId} (leads : host.files.Leads path own)
    (isOwn : excepted own) : Spares host.files (host.remaining path) excepted := by
  rcases host.remaining_cases path with same | removed
  · rw [same]
    exact .refl host.files excepted
  · refine ⟨evolves_unlink removed, ?_⟩
    intro other file _ different otherLeads
    apply otherLeads.unlink_of_ne removed leads
    rintro rfl
    exact different isOwn

theorem release {locker : Locker} (host : Host) (excepted : FileId → Prop)
    (lock : ∀ held, locker.held = some held → held.path.toList.getLast? = some 'k') :
    Spares host.files (locker.release host).2.files excepted := by
  rw [Locker.files_release]
  rcases held : locker.held with _ | holding
  · exact .refl host.files excepted
  · exact remaining_lock host excepted (lock holding held)

theorem run_task (task : RefreshTask) (host : Host) (excepted : FileId → Prop) :
    Spares host.files (task.run host).files excepted := by
  unfold RefreshTask.run
  rcases touched : host.touch task.path with failure | after
  · exact .refl host.files excepted
  · exact .touch (Host.touch_eq_ok touched).1

end Spares

namespace Acquisition

/-- An acquisition whose paths end as they should, that holds nothing any more once it is past its
first stage, and whose temporary file, if it has one, is its own file. -/
structure Orderly (work : Acquisition) (files : FileSystem) (own : Option FileId) : Prop where
  lock : work.lock.toList.getLast? = some 'k'
  temporary : work.temporary.toList.getLast? ≠ some 'k'
  held : ∀ held, work.locker.held = some held →
    work.stage = .releasing ∧ held.path.toList.getLast? = some 'k'
  made : ∀ file, work.stage = .writing file → own = some file
  compared : ∀ refusal file, work.stage = .comparingLock refusal file → own = some file
  file : work.stage.UsesTemporary → ∃ file content, own = some file ∧
    files.Leads work.temporary file ∧ files.node? file = some (.regular content) ∧
    (work.stage.HasRecord → content = ownerRecord work.locker.recordedOwner)

def Uses (work : Acquisition) (own : Option FileId) (file : FileId) : Prop :=
  work.stage.UsesTemporary ∧ own = some file

variable {work next : Acquisition} {before after : FileSystem} {own : Option FileId}

theorem Orderly.spared {excepted : FileId → Prop} (orderly : work.Orderly before own)
    (spares : Spares before after excepted)
    (different : ∀ file, work.Uses own file → ¬excepted file) : work.Orderly after own where
  lock := orderly.lock
  temporary := orderly.temporary
  held := orderly.held
  made := orderly.made
  compared := orderly.compared
  file uses := by
    rcases orderly.file uses with ⟨file, content, isOwn, leads, regular, written⟩
    have other := different file ⟨uses, isOwn⟩
    exact ⟨file, content, isOwn, spares.leads _ _ orderly.temporary other leads,
      spares.node _ _ regular other, written⟩

theorem Orderly.carry (orderly : work.Orderly before own) (continues : work.Continues next)
    (hasRecord : work.stage.HasRecord) (held : next.locker.held = work.locker.held)
    (made : next.stage.made? = none)
    (compared : ∀ refusal file, next.stage = .comparingLock refusal file → own = some file)
    (leads : ∀ file, before.Leads work.temporary file → after.Leads work.temporary file)
    (node : ∀ file content, before.node? file = some (.regular content) →
      after.node? file = some (.regular content)) :
    next.Orderly after (next.stage.made?.or own) := by
  rcases orderly.file hasRecord.usesTemporary with
    ⟨file, content, isOwn, ownLeads, regular, written⟩
  rw [made, Option.none_or]
  refine ⟨?_, ?_, ?_, ?_, compared, ?_⟩
  · rw [continues.lock]
    exact orderly.lock
  · rw [continues.temporary]
    exact orderly.temporary
  · intro holding isHeld
    rw [held] at isHeld
    have stage := (orderly.held holding isHeld).1
    simp [stage, AcquisitionStage.HasRecord, AcquisitionStage.UsesTemporary] at hasRecord
  · intro other stage
    simp [stage, AcquisitionStage.made?] at made
  · intro uses
    refine ⟨file, content, isOwn, ?_, node file content regular, ?_⟩
    · rw [continues.temporary]
      exact leads file ownLeads
    · intro _
      rw [continues.owner]
      exact written hasRecord

theorem Orderly.carry_sameFiles (orderly : work.Orderly before own)
    (continues : work.Continues next) (hasRecord : work.stage.HasRecord)
    (held : next.locker.held = work.locker.held) (made : next.stage.made? = none)
    (compared : ∀ refusal file, next.stage = .comparingLock refusal file → own = some file) :
    next.Orderly before (next.stage.made?.or own) :=
  orderly.carry continues hasRecord held made compared (fun _ leads => leads)
    (fun _ _ regular => regular)

variable {host : Host}

theorem Orderly.eq_of_stat (orderly : work.Orderly host.files own) (uses : work.stage.UsesTemporary)
    {file : FileId} {found : File} (looked : host.stat work.temporary = .ok (file, found)) :
    own = some file := by
  rcases orderly.file uses with ⟨other, content, isOwn, leads, regular, _⟩
  have same := leads.find (plain_of_node? regular).2 (Host.stat_eq_ok_iff.mp looked).2
  rw [same]
  exact isOwn

theorem Orderly.evolves_link (orderly : work.Orderly host.files own)
    (uses : work.stage.UsesTemporary) {after : Host} (excepted : FileId → Prop)
    (linked : host.link work.temporary work.lock = .ok after) :
    Evolves host.files after.files excepted := by
  rcases orderly.file uses with ⟨file, content, _, leads, regular, _⟩
  refine FileSystem.evolves_link (Host.link_eq_ok linked).1 ?_ regular
  intro other found looked
  exact leads.find (plain_of_node? regular).2 looked

/-- A step of an `Orderly` acquisition `Spares` the temporary files of all others. -/
theorem Orderly.spares_step (orderly : work.Orderly host.files own) (sound : host.files.Sound) :
    Spares host.files (work.step host).2.files (work.Uses own) := by
  have effect := effect_step work host
  generalize work.step host = result at effect ⊢
  cases effect with
  | releases stage next held files =>
      rw [files]
      exact .release host _ fun holding isHeld => (orderly.held holding isHeld).2
  | creates file stage next held created =>
      have made := (Host.create_eq_ok created).1
      exact ⟨evolves_create sound made, fun _ _ _ _ leads => leads.create sound made⟩
  | fills file stage next held filled =>
      rw [Host.fill_eq_ok filled]
      refine ⟨evolves_setContent _ _ _ ?_, ?_⟩
      · exact ⟨by simp [stage, AcquisitionStage.UsesTemporary], orderly.made file stage⟩
      · intro path other _ _ leads
        exact leads.sameEntries (setContent_spec _ _ _ _).1
  | discards stage next held files =>
      have uses : work.stage.UsesTemporary := by simp [stage, AcquisitionStage.UsesTemporary]
      rcases orderly.file uses with ⟨file, content, isOwn, leads, _, _⟩
      rw [files]
      exact .remaining_temporary leads ⟨uses, isOwn⟩
  | links stage next held linked =>
      have uses : work.stage.UsesTemporary := by simp [stage, AcquisitionStage.UsesTemporary]
      have evolves := orderly.evolves_link uses (work.Uses own) linked
      refine ⟨evolves, ?_⟩
      intro path other _ _ leads
      exact leads.link evolves.narrows (Host.link_eq_ok linked).1
  | breaks stale removed stage next held unlinked files =>
      rw [files, ← Host.remaining_of_unlink unlinked]
      exact .remaining_lock host _ orderly.lock
  | clears status stage next held files =>
      have uses : work.stage.UsesTemporary := by simp [stage, AcquisitionStage.UsesTemporary]
      rcases orderly.file uses with ⟨file, content, isOwn, leads, _, _⟩
      rw [files]
      exact .remaining_temporary leads ⟨uses, isOwn⟩
  | refuses refused written unseen other linked =>
      rw [refused.files]
      exact .refl _ _
  | rests status stage same =>
      rw [same]
      exact .refl _ _
  | stops stage next held files | spoils _ stage next held files | misses _ stage next held files
  | compares _ _ _ stage next held files | confirms _ _ _ stage next held files =>
      rw [files]
      exact .refl _ _

theorem Orderly.of_empty_handed (orderly : work.Orderly before own)
    (continues : work.Continues next) (stage : next.stage = .creating)
    (held : next.locker.held = none) : next.Orderly after own where
  lock := by
    rw [continues.lock]
    exact orderly.lock
  temporary := by
    rw [continues.temporary]
    exact orderly.temporary
  held := by simp [held]
  made := by simp [stage]
  compared := by simp [stage]
  file := by simp [stage, AcquisitionStage.UsesTemporary]

theorem Orderly.of_made (orderly : work.Orderly before own) (continues : work.Continues next)
    {file : FileId} {content : ByteArray} (held : next.locker.held = none)
    (stage : next.stage = .writing file ∨ next.stage = .discarding)
    (leads : after.Leads work.temporary file)
    (regular : after.node? file = some (.regular content)) : next.Orderly after (some file) where
  lock := by
    rw [continues.lock]
    exact orderly.lock
  temporary := by
    rw [continues.temporary]
    exact orderly.temporary
  held := by simp [held]
  made other sameStage := by
    rcases stage with stage | stage
    · rw [stage] at sameStage
      cases sameStage
      rfl
    · simp [stage] at sameStage
  compared refusal other sameStage := by
    rcases stage with stage | stage <;> simp [stage] at sameStage
  file _ := by
    rw [continues.temporary]
    refine ⟨file, content, rfl, leads, regular, ?_⟩
    rcases stage with stage | stage <;> simp [stage, AcquisitionStage.HasRecord]

theorem Orderly.held_eq_none (orderly : work.Orderly before own)
    (past : work.stage ≠ .releasing) : work.locker.held = none := by
  rcases held : work.locker.held with _ | holding
  · rfl
  · exact absurd (orderly.held holding held).1 past

theorem Orderly.of_filled (orderly : work.Orderly host.files own) (continues : work.Continues next)
    {file : FileId} {content : ByteArray} {filled : Host}
    (held : next.locker.held = work.locker.held) (stage : work.stage = .writing file)
    (nextStage : next.stage = .linking) (leads : host.files.Leads work.temporary file)
    (regular : host.files.node? file = some (.regular content))
    (fill : host.fill file (ownerRecord work.locker.recordedOwner) = .ok filled) :
    next.Orderly filled.files own where
  lock := by
    rw [continues.lock]
    exact orderly.lock
  temporary := by
    rw [continues.temporary]
    exact orderly.temporary
  held := by
    rw [held, orderly.held_eq_none (by simp [stage])]
    simp
  made := by simp [nextStage]
  compared := by simp [nextStage]
  file _ := by
    rw [continues.temporary, continues.owner]
    refine ⟨file, ownerRecord work.locker.recordedOwner, orderly.made file stage, ?_,
      Host.node?_of_fill fill regular, fun _ => rfl⟩
    rw [Host.fill_eq_ok fill]
    exact leads.sameEntries (setContent_spec _ _ _ _).1

/-- A step of an `Orderly` acquisition leads to one, unless it is the last. -/
theorem Orderly.step (orderly : work.Orderly host.files own) (sound : host.files.Sound)
    (going : ∀ status, (work.step host).1.stage ≠ .finished status) :
    (work.step host).1.Orderly (work.step host).2.files
      ((work.step host).1.stage.made?.or own) := by
  have effect := effect_step work host
  have continues := continues_step work host
  generalize work.step host = result at effect continues going ⊢
  cases effect with
  | releases stage next held files =>
      rw [next]
      exact orderly.of_empty_handed continues next held
  | creates file stage next held created =>
      have made := (Host.create_eq_ok created).1
      rcases create_spec sound made with ⟨_, _, _, _, found, _, _, _⟩
      have regular : result.2.files.node? file = some (.regular .empty) := by
        rw [node?, found]
        rfl
      rw [next]
      refine orderly.of_made continues ?_ (Or.inl next) (leads_create sound made) regular
      rw [held]
      exact orderly.held_eq_none (by simp [stage])
  | fills file stage next held filled =>
      have uses : work.stage.UsesTemporary := by simp [stage, AcquisitionStage.UsesTemporary]
      rcases orderly.file uses with ⟨other, content, isOther, leads, regular, _⟩
      cases (orderly.made file stage).symm.trans isOther
      rw [next]
      exact orderly.of_filled continues held stage next leads regular filled
  | spoils file stage next held files =>
      have isOwn := orderly.made file stage
      have uses : work.stage.UsesTemporary := by simp [stage, AcquisitionStage.UsesTemporary]
      rcases orderly.file uses with ⟨other, content, isOther, leads, regular, _⟩
      cases isOwn.symm.trans isOther
      rw [next, files]
      rw [isOwn]
      refine orderly.of_made continues ?_ (Or.inr next) leads regular
      rw [held]
      exact orderly.held_eq_none (by simp [stage])
  | links stage next held linked =>
      have uses : work.stage.UsesTemporary := by simp [stage, AcquisitionStage.UsesTemporary]
      have evolves := orderly.evolves_link uses (fun _ => False) linked
      refine orderly.carry continues ?_ held ?_ ?_ ?_ ?_
      · simp [stage, AcquisitionStage.HasRecord, AcquisitionStage.UsesTemporary]
      · simp [next, AcquisitionStage.made?]
      · simp [next]
      · exact fun _ leads => leads.link evolves.narrows (Host.link_eq_ok linked).1
      · exact fun file content regular => evolves.node file content regular (by simp)
  | misses error stage next held files =>
      rw [files]
      refine orderly.carry_sameFiles continues ?_ held ?_ ?_
      · simp [stage, AcquisitionStage.HasRecord, AcquisitionStage.UsesTemporary]
      · simp [next, AcquisitionStage.made?]
      · simp [next]
  | compares refusal file found stage next held files looked =>
      have written : work.stage.HasRecord := by
        simp [stage, AcquisitionStage.HasRecord, AcquisitionStage.UsesTemporary]
      rw [files]
      refine orderly.carry_sameFiles continues written held ?_ ?_
      · simp [next, AcquisitionStage.made?]
      · intro _ _ sameStage
        cases next.symm.trans sameStage
        exact orderly.eq_of_stat written.usesTemporary looked
  | confirms refusal file found stage next held files looked =>
      rw [files]
      refine orderly.carry_sameFiles continues ?_ held ?_ ?_
      · simp [stage, AcquisitionStage.HasRecord, AcquisitionStage.UsesTemporary]
      · simp [next, AcquisitionStage.made?]
      · simp [next]
  | refuses refused written unseen other linked =>
      rw [refused.files]
      refine orderly.carry_sameFiles continues written refused.held refused.refused.made? ?_
      intro refusal file stage
      exact absurd stage (refused.refused.ne_comparingLock refusal file)
  | breaks stale removed stage next held unlinked files =>
      have unlinkedFiles := (Host.unlink_eq_ok unlinked).1
      have evolves : Evolves host.files removed.files fun _ => False :=
        evolves_unlink unlinkedFiles
      rw [files]
      refine orderly.carry continues ?_ held ?_ ?_ ?_ ?_
      · simp [stage, AcquisitionStage.HasRecord, AcquisitionStage.UsesTemporary]
      · simp [next, AcquisitionStage.made?]
      · simp [next]
      · intro file leads
        apply leads.unlink_of_getLast?_ne unlinkedFiles
        rw [orderly.lock]
        exact Ne.symm orderly.temporary
      · exact fun file content regular => evolves.node file content regular (by simp)
  | stops stage next held files => exact absurd next (going _)
  | discards stage next held files => exact absurd next (going _)
  | clears status stage next held files => exact absurd next (going _)
  | rests status stage same =>
      rw [same] at going
      exact absurd stage (going status)

/-- A locker that holds something after a step has taken the lock, and in this step the temporary
file was removed. -/
theorem Orderly.cleared_of_held (orderly : work.Orderly host.files own) {held : HeldLock}
    (isHeld : (work.step host).1.locker.held = some held) :
    work.stage = .clearing .success ∧ held = { user := work.user, path := work.lock } ∧
      (work.step host).1.stage = .finished .success ∧
      (work.step host).2.files = host.remaining work.temporary := by
  have effect := effect_step work host
  generalize work.step host = result at effect isHeld
  have nothing : work.stage ≠ .releasing → result.1.locker.held ≠ work.locker.held := by
    intro past same
    rw [same, orderly.held_eq_none past] at isHeld
    simp at isHeld
  cases effect with
  | releases stage next same => simp [same] at isHeld
  | clears cleared stage next same files =>
      by_cases success : cleared = .success
      · subst success
        rw [same, if_pos rfl] at isHeld
        cases isHeld
        exact ⟨stage, rfl, next, files⟩
      · rw [if_neg success] at same
        exact absurd same (nothing (by simp [stage]))
  | rests stopped stage same =>
      exact absurd (congrArg (fun pair => pair.1.locker.held) same) (nothing (by simp [stage]))
  | refuses refused written unseen other linked =>
      refine absurd refused.held (nothing ?_)
      intro stage
      simp [stage, AcquisitionStage.HasRecord, AcquisitionStage.UsesTemporary] at written
  | creates _ stage next same | stops stage next same | fills _ stage next same
  | spoils _ stage next same | discards stage next same | links stage next same
  | misses _ stage next same | compares _ _ _ stage next same | confirms _ _ _ stage next same
  | breaks _ _ stage next same =>
      exact absurd same (nothing (by simp [stage]))

/-- The file that an acquisition `Uses` after a step was used before, or is new. -/
theorem uses_step (sound : host.files.Sound) {file : FileId}
    (uses : (work.step host).1.Uses ((work.step host).1.stage.made?.or own) file) :
    work.Uses own file ∨ host.files.file file = none := by
  have effect := effect_step work host
  generalize work.step host = result at effect uses
  rcases uses with ⟨stageUses, isOwn⟩
  have before : work.stage.UsesTemporary → result.1.stage.made? = none →
      work.Uses own file ∨ host.files.file file = none := by
    intro used made
    rw [made, Option.none_or] at isOwn
    exact Or.inl ⟨used, isOwn⟩
  cases effect with
  | creates made stage next held created =>
      rcases create_spec sound (Host.create_eq_ok created).1 with ⟨_, _, _, fresh, _⟩
      rw [next] at isOwn
      cases isOwn
      exact Or.inr fresh
  | refuses refused written unseen other linked =>
      exact before written.usesTemporary refused.refused.made?
  | rests status stage same =>
      rw [same] at stageUses
      simp [stage, AcquisitionStage.UsesTemporary] at stageUses
  | fills _ stage next | spoils _ stage next | links stage next | misses _ stage next
  | compares _ _ _ stage next | confirms _ _ _ stage next | breaks _ _ stage next =>
      apply before
      · simp [stage, AcquisitionStage.UsesTemporary]
      · simp [next, AcquisitionStage.made?]
  | releases stage next | stops stage next | discards stage next | clears _ stage next =>
      simp [next, AcquisitionStage.UsesTemporary] at stageUses

theorem orderly_begin {locker : Locker} {user lock : String}
    (files : FileSystem) (own : Option FileId) (retries : UInt32)
    (found : locker.lockPath host user = .ok lock)
    (locks : ∀ held, locker.held = some held → held.path.toList.getLast? = some 'k') :
    (Acquisition.begin locker host user lock retries).1.Orderly files own := by
  have temporary := getLast?_temporaryPath lock locker.process (host.draw UInt32.size).1
  rw [begin_eq]
  generalize temporaryPath lock locker.process (host.draw UInt32.size).1 = path at temporary ⊢
  rcases held : locker.held with _ | holding
  · refine ⟨getLast?_lockPath found, temporary, ?_, ?_, ?_, ?_⟩
    · simp [held]
    · simp
    · simp
    · simp [AcquisitionStage.UsesTemporary]
  · refine ⟨getLast?_lockPath found, temporary, ?_, ?_, ?_, ?_⟩
    · intro other isHeld
      exact ⟨by simp, locks other isHeld⟩
    · simp
    · simp
    · simp [AcquisitionStage.UsesTemporary]

end Acquisition

end MailSpool
