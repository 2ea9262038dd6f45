import MailSpool.Proofs.Dotlock.Names
import MailSpool.Proofs.Dotlock.Steps
import MailSpool.Proofs.FileSystem.Inherits
import MailSpool.Proofs.Host.Time

/-!
# The files that an acquisition makes

All that an acquisition does to files is to make one, to write it, to give it a second name and to
remove names. Whatever others remove or touch meanwhile, the path of the temporary file never leads
to a file that was there when the acquisition began: it leads to one that was made since, or to
nothing. So what is linked is a new file, and no old file ever gets a new name. The invariant is
`Stems`.
-/

namespace MailSpool

open FileSystem

namespace Acquisition

/-- What a step does to files. -/
inductive FileEffect (work : Acquisition) (host : Host) (result : Acquisition × Host) : Prop where
  | keeps (files : result.2.files = host.files)
  | makes (file : FileId) (stage : work.stage = .creating)
      (created : host.create work.temporary = .ok (file, result.2))
  | writes (file : FileId) (stage : work.stage = .writing file)
      (filled : host.fill file (ownerRecord work.locker.recordedOwner) = .ok result.2)
  | links (stage : work.stage = .linking)
      (linked : host.link work.temporary work.lock = .ok result.2)
  | releases (held : HeldLock) (stage : work.stage = .releasing)
      (isHeld : work.locker.held = some held)
      (removed : host.files.unlink held.path host.now = .ok result.2.files)
  | breaks (stale : FileId) (stage : work.stage = .breaking stale)
      (removed : host.files.unlink work.lock host.now = .ok result.2.files)
  | clears (stage : work.stage = .discarding ∨ ∃ status, work.stage = .clearing status)
      (removed : host.files.unlink work.temporary host.now = .ok result.2.files)

theorem fileEffect_step (work : Acquisition) (host : Host) :
    FileEffect work host (work.step host) := by
  have effect := effect_step work host
  generalize work.step host = result at effect ⊢
  cases effect with
  | releases stage next held files =>
      rw [Locker.files_release] at files
      rcases isHeld : work.locker.held with _ | holding
      · simp only [isHeld, Option.map_none, Option.getD_none] at files
        exact .keeps files
      · simp only [isHeld, Option.map_some, Option.getD_some] at files
        rcases host.remaining_cases holding.path with same | removed
        · exact .keeps (files.trans same)
        · rw [← files] at removed
          exact .releases holding stage isHeld removed
  | creates file stage next held created => exact .makes file stage created
  | fills file stage next held filled => exact .writes file stage filled
  | links stage next held linked => exact .links stage linked
  | breaks stale removed stage next held unlinked files =>
      have unlinkedFiles := (Host.unlink_eq_ok unlinked).1
      rw [← files] at unlinkedFiles
      exact .breaks stale stage unlinkedFiles
  | discards stage next held files =>
      rcases host.remaining_cases work.temporary with same | removed
      · exact .keeps (files.trans same)
      · rw [← files] at removed
        exact .clears (Or.inl stage) removed
  | clears status stage next held files =>
      rcases host.remaining_cases work.temporary with same | removed
      · exact .keeps (files.trans same)
      · rw [← files] at removed
        exact .clears (Or.inr ⟨status, stage⟩) removed
  | refuses refused => exact .keeps refused.files
  | rests status stage same =>
      rw [same]
      exact .keeps rfl
  | stops _ _ _ files | spoils _ _ _ _ files | misses _ _ _ _ files
  | compares _ _ _ _ _ _ files | confirms _ _ _ _ _ _ files => exact .keeps files

theorem usesTemporary_of_step {work : Acquisition} {host : Host}
    (uses : (work.step host).1.stage.UsesTemporary) :
    work.stage.UsesTemporary ∨
      ∃ file, work.stage = .creating ∧
        host.create work.temporary = .ok (file, (work.step host).2) := by
  have effect := effect_step work host
  generalize work.step host = result at effect uses ⊢
  cases effect with
  | creates file stage next held created => exact Or.inr ⟨file, stage, created⟩
  | refuses refused written => exact Or.inl written.usesTemporary
  | rests status stage same =>
      rw [same] at uses
      exact Or.inl uses
  | releases _ next | stops _ next | discards _ next | clears _ _ next =>
      simp [next, AcquisitionStage.UsesTemporary] at uses
  | fills _ stage | spoils _ stage | links stage | misses _ stage | compares _ _ _ stage
  | confirms _ _ _ stage | breaks _ _ stage =>
      exact Or.inl (by simp [stage, AcquisitionStage.UsesTemporary])

theorem writing_of_step {work : Acquisition} {host : Host} {file : FileId}
    (writing : (work.step host).1.stage = .writing file) :
    host.create work.temporary = .ok (file, (work.step host).2) := by
  have effect := effect_step work host
  generalize work.step host = result at effect writing ⊢
  cases effect with
  | creates made stage next held created =>
      cases next.symm.trans writing
      exact created
  | refuses refused =>
      have stillRefused := refused.refused
      simp [writing, AcquisitionStage.IsRefused] at stillRefused
  | rests status stage same =>
      rw [same] at writing
      simp [stage] at writing
  | releases _ next | stops _ next | discards _ next | clears _ _ next | fills _ _ next
  | spoils _ _ next | links _ next | misses _ _ next | compares _ _ _ _ next
  | confirms _ _ _ _ next | breaks _ _ _ next =>
      simp [next] at writing

/-- An acquisition among files that have come from those at its start, and whose temporary path
leads to no file that was there then. -/
structure Stems (start : FileSystem) (work : Acquisition) (files : FileSystem) : Prop where
  origin : start.Sound
  sound : files.Sound
  inherits : start.Inherits files
  lock : work.lock.toList.getLast? = some 'k'
  temporary : ∃ digit, work.temporary.toList.getLast? = some digit ∧ digit ∉ foreignEnds
  made : ∀ file, work.stage = .writing file → start.file file = none
  fresh : work.stage.UsesTemporary → ∀ directory name id,
    files.LiesAt work.temporary directory name id → start.file id = none
  writable : work.stage.UsesTemporary → Host.IsWritable work.temporary

namespace Stems

variable {start files : FileSystem} {work : Acquisition} {host : Host}

theorem getLast?_temporary (stems : work.Stems start files) :
    work.temporary.toList.getLast? ≠ some 'k' := by
  rcases stems.temporary with ⟨digit, last, native⟩
  rw [last]
  rintro ⟨⟩
  exact native (by decide)

/-- The temporary path leads to an entry, if it leads anywhere. -/
theorem liesAt_temporary (stems : work.Stems start files) {id : FileId}
    (names : files.Names work.temporary id) :
    ∃ directory name, files.LiesAt work.temporary directory name id := by
  rcases stems.temporary with ⟨digit, last, native⟩
  rcases names with ⟨place, located, ends⟩
  have noSlash : digit ≠ '/' := by
    rintro rfl
    exact native (by decide)
  have noDot : digit ≠ '.' := by
    rintro rfl
    exact native (by decide)
  rcases entry_of_locate last noSlash noDot located with ⟨directory, name, file, rfl⟩
  cases ends
  exact ⟨directory, name, located⟩

theorem plain_of_new (stems : work.Stems start files) {id : FileId}
    (isNew : start.file id = none) : files.directory? id = none ∧ files.target? id = none := by
  rcases plain_of_file_eq_none isNew with ⟨noDirectory, noLink⟩
  exact ⟨(stems.inherits.directory?_eq_none_iff id).mpr noDirectory,
    (stems.inherits.target id).trans noLink⟩

theorem new_of_names (stems : work.Stems start files) (uses : work.stage.UsesTemporary)
    {id : FileId} (names : files.Names work.temporary id) : start.file id = none := by
  rcases stems.liesAt_temporary names with ⟨directory, name, lies⟩
  exact stems.fresh uses directory name id lies

/-- No lock lies where the temporary file `LiesAt`. -/
theorem apart (stems : work.Stems start files) {before after : FileSystem} {directory : FileId}
    {name : String} {id : FileId} (lies : after.LiesAt work.temporary directory name id)
    {folder : FileId} {text : String} {found : Option FileId}
    (located : before.locate false work.lock = .ok (.entry folder text found)) :
    (directory, name) ≠ (folder, text) := by
  rintro ⟨⟩
  apply stems.getLast?_temporary
  rw [← lies.getLast?_name, getLast?_name_of_locate located, stems.lock]

/-- What `link` does with the temporary file: a vacant entry where locks lie names a new file. -/
theorem link_cases (stems : work.Stems start host.files) (uses : work.stage.UsesTemporary)
    {after : Host} (linked : host.link work.temporary work.lock = .ok after) :
    ∃ directory name id, start.file id = none ∧ (host.files.file id).isSome ∧
      host.files.Names work.temporary id ∧
      Resets host.files after.files work.lock none (some id) ∧
      host.files.locate false work.lock = .ok (.entry directory name none) ∧
      Sets host.files after.files directory name (some id) ∧
      Retains host.files after.files (fun _ => False) ∧ after.files.Sound := by
  rcases link_spec (Host.link_eq_ok linked).1 with
    ⟨directory, name, id, file, looked, located, sets, retains, sound⟩
  rcases find_eq_ok_iff.mp looked with ⟨place, placed, ends, found⟩
  have names : host.files.Names work.temporary id := ⟨place, placed, ends⟩
  have isNew := stems.new_of_names uses names
  have plain := stems.plain_of_new isNew
  refine ⟨directory, name, id, isNew, by simp [found], names, ?_, located, sets, retains,
    sound stems.sound⟩
  refine .of_sets located sets (sets.narrows ?_) (sets.widens ?_)
  · rintro child ⟨⟩
    exact plain
  · rw [child?_of_locate located]
    simp

theorem widens_of_unlink (stems : work.Stems start files) (uses : work.stage.UsesTemporary)
    {after : FileSystem} {now : Instant} (removed : files.unlink work.temporary now = .ok after) :
    Narrows after files := by
  rcases unlink_spec removed with ⟨directory, name, id, located, _, sets, _, _⟩
  have lies : files.LiesAt work.temporary directory name id := located
  refine sets.widens ?_
  rw [lies.child?]
  rintro child ⟨⟩
  exact stems.plain_of_new (stems.fresh uses directory name id lies)

theorem of_unlink (stems : work.Stems start files) {after : FileSystem} {path : String}
    {now : Instant} (removed : files.unlink path now = .ok after) : work.Stems start after := by
  rcases unlink_spec removed with ⟨directory, name, id, located, _, sets, retains, sound⟩
  refine ⟨stems.origin, sound stems.sound, ?_, stems.lock, stems.temporary, stems.made, ?_,
    stems.writable⟩
  · exact stems.inherits.sets sets retains.next (by simp)
  · intro uses folder text child lies
    exact stems.fresh uses folder text child (lies.of_unlink removed)

theorem of_sameEntries (stems : work.Stems start files) {after : FileSystem}
    (same : SameEntries files after) (next : files.next ≤ after.next) (sound : after.Sound) :
    work.Stems start after := by
  refine ⟨stems.origin, sound, stems.inherits.sameEntries same next, stems.lock, stems.temporary,
    stems.made, ?_, stems.writable⟩
  intro uses folder text child lies
  exact stems.fresh uses folder text child (lies.of_sameEntries same)

theorem perform (stems : work.Stems start host.files) (deed : Deed) :
    work.Stems start (host.perform deed).files := by
  cases deed with
  | unlink path =>
      rcases host.remaining_cases path with same | removed
      · change work.Stems start (host.remaining path)
        rw [same]
        exact stems
      · exact stems.of_unlink removed
  | touch path =>
      simp only [Host.perform]
      rcases touched : host.touch path with failure | after
      · exact stems
      · rcases touch_spec (Host.touch_eq_ok touched).1 with ⟨_, _, _, _, same, retains, sound⟩
        exact stems.of_sameEntries same retains.next (sound stems.sound)
  | exit process => exact stems
  | signal process number =>
      have same : (host.perform (.signal process number)).files = host.files :=
        host.files_changeProcess process _
      rw [same]
      exact stems

theorem elapse (stems : work.Stems start host.files) (time : Instant) :
    work.Stems start (host.elapseUntil time).files :=
  (Host.elapseUntil_induction (fun later => work.Stems start later.files)
    (fun _ _ _ stems => stems) (fun _ deed _ stems => stems.perform deed) time
    (fun _ _ => trivial) stems : _ ∧ Host.Expects _ fun _ => True).1

/-- The files after a step have come from those at the start as well. -/
theorem step_files (stems : work.Stems start host.files) :
    start.Inherits (work.step host).2.files ∧ (work.step host).2.files.Sound := by
  have effect := fileEffect_step work host
  generalize work.step host = result at effect ⊢
  cases effect with
  | keeps files =>
      rw [files]
      exact ⟨stems.inherits, stems.sound⟩
  | makes file stage created =>
      have made := (Host.create_eq_ok created).1
      rcases create_spec stems.sound made with ⟨_, _, _, _, _, sets, retains, sound⟩
      refine ⟨stems.inherits.sets sets retains.next ?_, sound⟩
      rintro id ⟨⟩
      exact stems.inherits.file_of_next_le stems.origin (number_of_create made)
  | writes file stage filled =>
      rw [Host.fill_eq_ok filled]
      rcases setContent_spec host.files file (ownerRecord work.locker.recordedOwner) host.now with
        ⟨same, retains, sound⟩
      exact ⟨stems.inherits.sameEntries same retains.next, sound stems.sound⟩
  | links stage linked =>
      have uses : work.stage.UsesTemporary := by simp [stage, AcquisitionStage.UsesTemporary]
      rcases stems.link_cases uses linked with
        ⟨_, _, id, isNew, _, _, _, _, sets, retains, sound⟩
      refine ⟨stems.inherits.sets sets retains.next ?_, sound⟩
      rintro child ⟨⟩
      exact isNew
  | releases _ _ _ removed | breaks _ _ removed | clears _ removed =>
      exact ⟨(stems.of_unlink removed).inherits, (stems.of_unlink removed).sound⟩

theorem liesAt_of_step (stems : work.Stems start host.files) (uses : work.stage.UsesTemporary)
    {directory : FileId} {name : String} {id : FileId}
    (lies : (work.step host).2.files.LiesAt work.temporary directory name id) :
    host.files.LiesAt work.temporary directory name id := by
  have effect := fileEffect_step work host
  generalize work.step host = result at effect lies
  cases effect with
  | keeps files =>
      rw [files] at lies
      exact lies
  | makes file stage created => simp [stage, AcquisitionStage.UsesTemporary] at uses
  | writes file stage filled =>
      rw [Host.fill_eq_ok filled] at lies
      exact lies.of_sameEntries (setContent_spec host.files file _ host.now).1
  | links stage linked =>
      rcases stems.link_cases uses linked with ⟨folder, text, _, _, _, _, resets, located, sets, _⟩
      refine lies.of_narrows resets.narrows ?_
      rw [← sets.entry_of_ne (stems.apart lies located)]
      exact lies.child?
  | releases _ _ _ removed | breaks _ _ removed | clears _ removed => exact lies.of_unlink removed

theorem step (stems : work.Stems start host.files) :
    (work.step host).1.Stems start (work.step host).2.files := by
  have continues := continues_step work host
  rcases stems.step_files with ⟨inherits, sound⟩
  have created : ∀ {file}, host.create work.temporary = .ok (file, (work.step host).2) →
      start.file file = none := by
    intro file made
    exact stems.inherits.file_of_next_le stems.origin
      (number_of_create (Host.create_eq_ok made).1)
  refine ⟨stems.origin, sound, inherits, ?_, ?_, ?_, ?_, ?_⟩
  · rw [continues.lock]
    exact stems.lock
  · rw [continues.temporary]
    exact stems.temporary
  · intro file writing
    exact created (writing_of_step writing)
  · intro uses directory name id lies
    rw [continues.temporary] at lies
    rcases usesTemporary_of_step uses with usedBefore | ⟨file, _, made⟩
    · exact stems.fresh usedBefore directory name id (stems.liesAt_of_step usedBefore lies)
    · have leads := leads_create stems.sound (Host.create_eq_ok made).1
      rw [leads.eq_of_names lies.names]
      exact created made
  · intro uses
    rw [continues.temporary]
    rcases usesTemporary_of_step uses with usedBefore | ⟨file, _, made⟩
    · exact stems.writable usedBefore
    · exact Host.isWritable_of_create made

end Stems

/-- An acquisition `Stems` from the files that it begins with. -/
theorem stems_begin {locker : Locker} {host : Host} {user lock : String} (retries : UInt32)
    (sound : host.files.Sound) (found : locker.lockPath host user = .ok lock) :
    (begin locker host user lock retries).1.Stems host.files
      (begin locker host user lock retries).2.files := by
  have unused : ¬(begin locker host user lock retries).1.stage.UsesTemporary := by
    rcases held : locker.held with _ | holding
    · simp [begin, held, AcquisitionStage.UsesTemporary]
    · simp [begin, held, AcquisitionStage.UsesTemporary]
  refine ⟨sound, sound, .refl _, getLast?_lockPath found, ?_, ?_, ?_, ?_⟩
  · have temporary :=
      exists_getLast?_temporaryPath lock locker.process (host.draw UInt32.size).1
    rw [begin_eq]
    generalize temporaryPath lock locker.process (host.draw UInt32.size).1 = path at temporary ⊢
    exact temporary
  · intro file writing
    rw [writing] at unused
    simp [AcquisitionStage.UsesTemporary] at unused
  · exact fun uses => absurd uses unused
  · exact fun uses => absurd uses unused

end Acquisition

end MailSpool
