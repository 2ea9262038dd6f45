import MailSpool.Proofs.FileSystem.Beside

/-!
# What is written is found

A path is followed to its end when a file is written, through the last symbolic link as well. So it
comes to an entry that names nothing, which is given a new file, or to a file that is no symbolic
link. In both cases the same path leads to the written file afterwards: `find_of_overwrite`.
-/

namespace MailSpool.FileSystem

variable {before after : FileSystem} {path : String} {directory : FileId} {name : String}

/-! ## The end of a way that is followed -/

theorem walkWith_target {files : FileSystem}
    {expand : FileId → List Component → Except Errno Place}
    (expandTarget : ∀ start rest directory name file,
      expand start rest = .ok (.entry directory name (some file)) → files.target? file = none) :
    ∀ (components : List Component) (current directory : FileId) (name : String) (file : FileId),
      files.walkWith expand true current components = .ok (.entry directory name (some file)) →
        files.target? file = none := by
  intro components
  induction components with
  | nil =>
    intro current directory name file reached
    simp [walkWith] at reached
  | cons component rest ih =>
    intro current directory name file reached
    unfold walkWith at reached
    rcases listed : files.directory? current with _ | ⟨entries, parent⟩
    · simp [listed] at reached
    simp only [listed] at reached
    cases component with
    | here => exact ih current directory name file reached
    | up => exact ih parent directory name file reached
    | name text =>
      dsimp only at reached
      split at reached
      · simp at reached
      rcases found : entries.lookup text with _ | child
      · simp only [found] at reached
        split at reached
        · simp at reached
        · simp at reached
      simp only [found, Bool.not_true, Bool.and_false, Bool.false_eq_true, if_false] at reached
      rcases link : files.target? child with _ | target
      · simp only [link] at reached
        split at reached
        · cases reached
          exact link
        · exact ih child directory name file reached
      · simp only [link] at reached
        exact expandTarget _ _ directory name file reached

theorem walk_target {files : FileSystem} {limit : Nat} {current file : FileId}
    {components : List Component}
    (reached : files.walk true limit current components = .ok (.entry directory name (some file))) :
    files.target? file = none := by
  induction limit generalizing current components directory name file with
  | zero => exact walkWith_target (by simp) components current directory name file reached
  | succ limit ih =>
    exact walkWith_target (fun _ _ _ _ _ expanded => ih expanded) components current directory name
      file reached

theorem target_of_locate {files : FileSystem} {file : FileId}
    (located : files.locate true path = .ok (.entry directory name (some file))) :
    files.target? file = none := by
  unfold locate at located
  split at located
  · simp at located
  · split at located
    · simp at located
    · exact walk_target located

/-! ## An entry that is given a file -/

section Filling

variable (keeps : KeepsNames before after) (kinds : SameKinds before after)
  (plain : ∀ child, after.child? directory name = some child → after.target? child = none)
include keeps kinds plain

theorem walkWith_fill {expandBefore expandAfter : FileId → List Component → Except Errno Place}
    (expandFill : ∀ start rest, expandBefore start rest = .ok (.entry directory name none) →
      expandAfter start rest = .ok (.entry directory name (after.child? directory name))) :
    ∀ (components : List Component) (current : FileId),
      before.walkWith expandBefore true current components = .ok (.entry directory name none) →
        after.walkWith expandAfter true current components =
          .ok (.entry directory name (after.child? directory name)) := by
  intro components
  induction components with
  | nil =>
    intro current reached
    simp [walkWith] at reached
  | cons component rest ih =>
    intro current reached
    unfold walkWith at reached ⊢
    rcases listed : before.directory? current with _ | ⟨entries, parent⟩
    · simp [listed] at reached
    rcases kinds.symm.directory listed with ⟨newEntries, newListed⟩
    simp only [listed] at reached
    simp only [newListed]
    cases component with
    | here => exact ih current reached
    | up => exact ih parent reached
    | name text =>
      dsimp only at reached ⊢
      split at reached
      · simp at reached
      case isFalse short =>
      rw [if_neg short]
      rcases found : entries.lookup text with _ | child
      · simp only [found] at reached
        split at reached
        case isFalse => simp at reached
        case isTrue last =>
        cases reached
        have given : after.child? directory name = newEntries.lookup name := by
          simp [child?, newListed]
        rw [given] at plain ⊢
        rcases isGiven : newEntries.lookup name with _ | child
        · simp [last]
        · simp [last, plain child isGiven]
      · have still : newEntries.lookup text = some child := by
          have named := keeps current text child (by simpa [child?, listed] using found)
          simpa [child?, newListed] using named
        simp only [found, Bool.not_true, Bool.and_false, Bool.false_eq_true, if_false] at reached
        simp only [still, Bool.not_true, Bool.and_false, Bool.false_eq_true, if_false, kinds.target]
        rcases link : before.target? child with _ | target
        · simp only [link] at reached
          split at reached
          · simp at reached
          case isFalse further =>
          rw [if_neg further]
          exact ih child reached
        · simp only [link] at reached
          exact expandFill _ _ reached

theorem walk_fill {limit : Nat} {current : FileId} {components : List Component}
    (reached : before.walk true limit current components = .ok (.entry directory name none)) :
    after.walk true limit current components =
      .ok (.entry directory name (after.child? directory name)) := by
  induction limit generalizing current components with
  | zero => exact walkWith_fill keeps kinds plain (by simp) components current reached
  | succ limit ih =>
    exact walkWith_fill keeps kinds plain (fun _ _ expanded => ih expanded) components current
      reached

theorem locate_fill (located : before.locate true path = .ok (.entry directory name none)) :
    after.locate true path = .ok (.entry directory name (after.child? directory name)) := by
  unfold locate at located ⊢
  split at located
  · simp at located
  case isFalse nonempty =>
  rw [if_neg nonempty]
  split at located
  · simp at located
  case isFalse short =>
  rw [if_neg short]
  have sameStart : start after.working path = start before.working path := by
    rw [kinds.working]
  rw [sameStart]
  exact walk_fill keeps kinds plain located

end Filling

/-! ## Writing -/

variable {id : FileId} {content : ByteArray} {now : Instant}

theorem Sets.keepsNames {child : Option FileId} (sets : Sets before after directory name child)
    (vacant : before.child? directory name = none) : KeepsNames before after := by
  intro folder text file named
  rw [sets.entry_of_ne, named]
  rintro ⟨rfl, rfl⟩
  simp [vacant] at named

theorem SameEntries.keepsNames (same : SameEntries before after) : KeepsNames before after :=
  fun directory name _ named => (same.entry directory name).trans named

/-- What `overwrite` has written at a path is found there. -/
theorem find_of_overwrite (sound : before.Sound)
    (written : before.overwrite path content now = .ok (id, after)) :
    ∃ file, after.find true path = .ok (id, file) ∧ file.node = .regular content := by
  unfold overwrite at written
  rcases located : before.locate true path with errno | ⟨directory, name, _ | old⟩ | folder
  · simp [located] at written
  · simp only [located, Except.ok.injEq] at written
    rcases locate_fits located with ⟨isDirectory, vacant⟩
    rcases make_spec sound isDirectory vacant written with ⟨isNew, isFile, sets, _, _⟩
    have plain : ∀ child, after.child? directory name = some child →
        after.target? child = none := by
      intro child named
      rw [sets.entry_self] at named
      cases named
      rw [sets.target]
      exact (plain_of_file_eq_none isNew).2
    have reached := locate_fill (sets.keepsNames vacant) sets.toSameKinds plain located
    rw [sets.entry_self] at reached
    exact ⟨_, find_eq_ok_iff.mpr ⟨_, reached, rfl, isFile⟩, rfl⟩
  · simp only [located] at written
    split at written
    · simp at written
    case isFalse noDirectory =>
    cases written
    have known := sound.named directory name id (locate_fits located).2
    rcases Option.isSome_iff_exists.mp known with ⟨⟨node, links, modified, accessed⟩, isFile⟩
    cases node with
    | directory entries parent => simp [directory?, isFile] at noDirectory
    | link target =>
      have noLink := target_of_locate located
      simp [target?, isFile] at noLink
    | regular past =>
      have isWritten := file_setContent_self isFile rfl content now
      have same := (setContent_spec before id content now).1
      have reached := same.keepsNames.locate same.toSameKinds (by simp [isWritten]) located rfl
      exact ⟨_, find_eq_ok_iff.mpr ⟨_, reached, rfl, isWritten⟩, rfl⟩
  · simp [located] at written

end MailSpool.FileSystem
