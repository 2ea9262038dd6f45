import Mathlib.Data.List.Basic
import MailSpool.Proofs.FileSystem.Entries

/-!
# Where a path leads after a change

A path is followed through directories and symbolic links to an entry of a directory. A change of
files that adds no directory and no symbolic link under any name opens no new way, so it `Narrows`:
wherever a path leads afterwards, it led to the same entry before. A path may cease to lead
anywhere, when a symbolic link on its way is removed. Where no way is lost either, every path leads
to the entry it led to before.

The argument is an induction along the components of the path, inside an induction on the number
of symbolic links that may still be followed. An entry in the middle of a way must name a
directory or a symbolic link, so it cannot be one of the new ones.
-/

namespace MailSpool

/-- The entry at which a place lies, whatever it names, or the directory. -/
def Place.spot : Place → FileId × Option String
  | .entry folder name _ => (folder, some name)
  | .directory id => (id, none)

/-- What a place tells of its entry holds of the files. -/
def Place.Fits (files : FileSystem) : Place → Prop
  | .entry folder name file =>
    (files.directory? folder).isSome ∧ files.child? folder name = file
  | .directory _ => True

namespace FileSystem

/-- Directories and symbolic links are as they were, but for the entries of directories. -/
structure SameKinds (before after : FileSystem) : Prop where
  working : after.working = before.working
  parent : ∀ id, (after.directory? id).map Prod.snd = (before.directory? id).map Prod.snd
  target : ∀ id, after.target? id = before.target? id

/-- Every way through some files was a way before: a name that has come to an entry is that of a
file that is neither a directory nor a symbolic link. -/
structure Narrows (before after : FileSystem) : Prop extends SameKinds before after where
  entry : ∀ directory name child, after.child? directory name = some child →
    before.child? directory name = some child ∨
      before.directory? child = none ∧ before.target? child = none

theorem SameKinds.directory?_eq_none_iff {before after : FileSystem}
    (kinds : SameKinds before after) (id : FileId) :
    after.directory? id = none ↔ before.directory? id = none := by
  have parents := kinds.parent id
  cases new : after.directory? id <;> cases old : before.directory? id <;> simp_all

theorem SameKinds.symm {before after : FileSystem} (kinds : SameKinds before after) :
    SameKinds after before where
  working := kinds.working.symm
  parent id := (kinds.parent id).symm
  target id := (kinds.target id).symm

theorem SameKinds.directory {before after : FileSystem} (kinds : SameKinds before after)
    {id : FileId} {entries : List (String × FileId)} {parent : FileId}
    (listed : after.directory? id = some (entries, parent)) :
    ∃ oldEntries, before.directory? id = some (oldEntries, parent) := by
  have parents := kinds.parent id
  rw [listed] at parents
  rcases old : before.directory? id with _ | ⟨oldEntries, oldParent⟩
  · simp [old] at parents
  · have same : parent = oldParent := by simpa [old] using parents
    exact ⟨oldEntries, by rw [same]⟩

namespace Narrows

variable {before between after : FileSystem}

theorem refl (files : FileSystem) : Narrows files files where
  working := rfl
  parent _ := rfl
  target _ := rfl
  entry _ _ _ := Or.inl

theorem trans (first : Narrows before between) (second : Narrows between after) :
    Narrows before after where
  working := second.working.trans first.working
  parent id := (second.parent id).trans (first.parent id)
  target id := (second.target id).trans (first.target id)
  entry directory name child found := by
    rcases second.entry directory name child found with kept | ⟨noDirectory, noLink⟩
    · exact first.entry directory name child kept
    · right
      exact ⟨(first.directory?_eq_none_iff child).mp noDirectory,
        (first.target child).symm.trans noLink⟩

theorem entry_of_way (narrows : Narrows before after) {directory child : FileId} {name : String}
    (found : after.child? directory name = some child)
    (way : (after.directory? child).isSome ∨ (after.target? child).isSome) :
    before.child? directory name = some child := by
  rcases narrows.entry directory name child found with kept | ⟨noDirectory, noLink⟩
  · exact kept
  · rw [← narrows.directory?_eq_none_iff] at noDirectory
    rw [← narrows.target] at noLink
    simp [noDirectory, noLink] at way

end Narrows

/-! ## One way -/

theorem walkWith_fits {files : FileSystem}
    {expand : FileId → List Component → Except Errno Place} {follow : Bool}
    (expandFits : ∀ start rest place, expand start rest = .ok place → place.Fits files) :
    ∀ (components : List Component) (current : FileId) (place : Place),
      files.walkWith expand follow current components = .ok place → place.Fits files := by
  intro components
  induction components with
  | nil =>
      intro current place reached
      cases reached
      trivial
  | cons component rest ih =>
      intro current place reached
      unfold walkWith at reached
      rcases listed : files.directory? current with _ | ⟨entries, parent⟩
      · simp [listed] at reached
      · have fits : ∀ name, Place.Fits files (.entry current name (entries.lookup name)) := by
          intro name
          simp [Place.Fits, child?, listed]
        simp only [listed] at reached
        cases component with
        | here => exact ih current place reached
        | up => exact ih parent place reached
        | name name =>
            dsimp only at reached
            have nameFits := fits name
            split at reached
            · simp at reached
            rcases found : entries.lookup name with _ | child
            · rw [found] at nameFits
              simp only [found] at reached
              split at reached
              · cases reached
                exact nameFits
              · simp at reached
            · rw [found] at nameFits
              simp only [found] at reached
              split at reached
              · cases reached
                exact nameFits
              · split at reached
                · exact expandFits _ _ place reached
                · split at reached
                  · cases reached
                    exact nameFits
                  · exact ih child place reached

theorem walk_fits {files : FileSystem} {follow : Bool} {limit : Nat} {current : FileId}
    {components : List Component} {place : Place}
    (reached : files.walk follow limit current components = .ok place) : place.Fits files := by
  induction limit generalizing current components place with
  | zero => exact walkWith_fits (by simp) components current place reached
  | succ limit ih =>
      exact walkWith_fits (fun _ _ _ expanded => ih expanded) components current place reached

theorem locate_fits {files : FileSystem} {follow : Bool} {path : String} {place : Place}
    (located : files.locate follow path = .ok place) : place.Fits files := by
  unfold locate at located
  split at located
  · simp at located
  · split at located
    · simp at located
    · exact walk_fits located

theorem child?_of_locate {files : FileSystem} {follow : Bool} {path name : String}
    {directory : FileId} {file : Option FileId}
    (located : files.locate follow path = .ok (.entry directory name file)) :
    files.child? directory name = file :=
  (locate_fits located).2

/-! ## A way before and after -/

theorem walkWith_narrows {before after : FileSystem} (narrows : Narrows before after)
    {expandBefore expandAfter : FileId → List Component → Except Errno Place}
    (expandNarrows : ∀ start rest place, expandAfter start rest = .ok place →
      ∃ old, expandBefore start rest = .ok old ∧ old.spot = place.spot) :
    ∀ (components : List Component) (current : FileId) (place : Place),
      after.walkWith expandAfter false current components = .ok place →
        ∃ old, before.walkWith expandBefore false current components = .ok old ∧
          old.spot = place.spot := by
  intro components
  induction components with
  | nil =>
      intro current place reached
      exact ⟨place, reached, rfl⟩
  | cons component rest ih =>
      intro current place reached
      unfold walkWith at reached ⊢
      rcases listed : after.directory? current with _ | ⟨entries, parent⟩
      · simp [listed] at reached
      rcases narrows.directory listed with ⟨oldEntries, oldListed⟩
      have oldEntry : ∀ name child, entries.lookup name = some child →
          (after.directory? child).isSome ∨ (after.target? child).isSome →
          oldEntries.lookup name = some child := by
        intro name child found way
        have named : after.child? current name = some child := by simpa [child?, listed] using found
        simpa [child?, oldListed] using narrows.entry_of_way named way
      simp only [listed] at reached
      simp only [oldListed]
      cases component with
      | here => exact ih current place reached
      | up => exact ih parent place reached
      | name name =>
          dsimp only at reached ⊢
          split at reached
          · simp at reached
          case isFalse short =>
          rw [if_neg short]
          by_cases last : rest.isEmpty = true
          · have spot : place.spot = (current, some name) := by
              rcases found : entries.lookup name with _ | child
              · simp only [found, last, if_true] at reached
                cases reached
                rfl
              · simp only [found, last, Bool.not_false, Bool.and_self, if_true] at reached
                cases reached
                rfl
            rw [spot]
            rcases oldEntries.lookup name with _ | oldChild
            · exact ⟨_, if_pos last, rfl⟩
            · exact ⟨_, if_pos (by simp [last]), rfl⟩
          · rcases found : entries.lookup name with _ | child
            · simp [found, last] at reached
            simp only [found, last, Bool.false_and, Bool.false_eq_true, if_false] at reached
            rcases link : after.target? child with _ | target
            · simp only [link] at reached
              have isDirectory : (after.directory? child).isSome := by
                rcases rest with _ | ⟨next, others⟩
                · simp at last
                · rcases inside : after.directory? child with _ | listing
                  · simp [walkWith, inside] at reached
                  · rfl
              rw [oldEntry name child found (Or.inl isDirectory)]
              simp only [last, Bool.false_and, Bool.false_eq_true, if_false,
                ← narrows.target, link]
              exact ih child place reached
            · simp only [link] at reached
              rw [oldEntry name child found (Or.inr (by simp [link]))]
              simp only [last, Bool.false_and, Bool.false_eq_true, if_false,
                ← narrows.target, link]
              exact expandNarrows _ _ place reached

theorem walk_narrows {before after : FileSystem} (narrows : Narrows before after) {limit : Nat}
    {current : FileId} {components : List Component} {place : Place}
    (reached : after.walk false limit current components = .ok place) :
    ∃ old, before.walk false limit current components = .ok old ∧ old.spot = place.spot := by
  induction limit generalizing current components place with
  | zero => exact walkWith_narrows narrows (by simp) components current place reached
  | succ limit ih =>
      exact walkWith_narrows narrows (fun _ _ _ expanded => ih expanded) components current place
        reached

/-- A path that leads to an entry after a change that opens no way led to it before. -/
theorem Narrows.locate {before after : FileSystem} (narrows : Narrows before after)
    {path : String} {place : Place} (located : after.locate false path = .ok place) :
    ∃ old, before.locate false path = .ok old ∧ old.spot = place.spot := by
  unfold FileSystem.locate at located ⊢
  split at located
  · simp at located
  case isFalse nonempty =>
  rw [if_neg nonempty]
  split at located
  · simp at located
  case isFalse short =>
  rw [if_neg short]
  have sameStart : start after.working path = start before.working path := by
    rw [narrows.working]
  rw [sameStart] at located
  exact walk_narrows narrows located

/-! ## The end of a way -/

theorem walkWith_follow {files : FileSystem}
    {expandFollow expandKeep : FileId → List Component → Except Errno Place}
    (sameExpand : ∀ start rest,
      (∀ directory name child, expandKeep start rest = .ok (.entry directory name (some child)) →
        files.target? child = none) → expandFollow start rest = expandKeep start rest) :
    ∀ (components : List Component) (current : FileId),
      (∀ directory name child,
        files.walkWith expandKeep false current components =
            .ok (.entry directory name (some child)) → files.target? child = none) →
        files.walkWith expandFollow true current components =
          files.walkWith expandKeep false current components := by
  intro components
  induction components with
  | nil => intro current _; rfl
  | cons component rest ih =>
      intro current noLink
      unfold walkWith at noLink ⊢
      rcases listed : files.directory? current with _ | ⟨entries, parent⟩
      · rfl
      simp only [listed] at noLink ⊢
      cases component with
      | here => exact ih current noLink
      | up => exact ih parent noLink
      | name name =>
          dsimp only at noLink ⊢
          by_cases long : nameLimit < name.utf8ByteSize
          · rw [if_pos long, if_pos long]
          rw [if_neg long, if_neg long]
          rw [if_neg long] at noLink
          rcases found : entries.lookup name with _ | child
          · rfl
          simp only [found] at noLink ⊢
          by_cases last : rest.isEmpty = true
          · have plain : files.target? child = none := by
              apply noLink current name child
              simp [last]
            simp [last, plain]
          · simp only [last, Bool.false_and, Bool.false_eq_true, if_false] at noLink ⊢
            rcases link : files.target? child with _ | target
            · simp only [link] at noLink
              exact ih child noLink
            · simp only [link] at noLink
              exact sameExpand _ _ noLink

theorem walk_follow {files : FileSystem} {limit : Nat} {current : FileId}
    {components : List Component}
    (noLink : ∀ directory name child,
      files.walk false limit current components = .ok (.entry directory name (some child)) →
        files.target? child = none) :
    files.walk true limit current components = files.walk false limit current components := by
  induction limit generalizing current components with
  | zero => exact walkWith_follow (fun _ _ _ => rfl) components current noLink
  | succ limit ih => exact walkWith_follow (fun _ _ => ih) components current noLink

/-- Following a symbolic link at the end of a path makes no difference where there is none. -/
theorem locate_follow {files : FileSystem} {path : String}
    (noLink : ∀ directory name child,
      files.locate false path = .ok (.entry directory name (some child)) →
        files.target? child = none) :
    files.locate true path = files.locate false path := by
  unfold locate at noLink ⊢
  split
  · rfl
  case isFalse nonempty =>
  rw [if_neg nonempty] at noLink
  split
  · rfl
  case isFalse short =>
  rw [if_neg short] at noLink
  exact walk_follow noLink

/-! ## The name at the end of a path -/

theorem walkWith_name {files : FileSystem}
    {expand : FileId → List Component → Except Errno Place}
    (expandName : ∀ start rest directory name file,
      expand start rest = .ok (.entry directory name file) →
        rest.getLast? = some (.name name)) :
    ∀ (components : List Component) (current directory : FileId) (name : String)
      (file : Option FileId),
      files.walkWith expand false current components = .ok (.entry directory name file) →
        components.getLast? = some (.name name) := by
  intro components
  induction components with
  | nil =>
      intro current directory name file reached
      simp [walkWith] at reached
  | cons component rest ih =>
      intro current directory name file reached
      have later : rest.getLast? = some (.name name) →
          (component :: rest).getLast? = some (.name name) := by
        intro last
        simp [List.getLast?_cons, last]
      unfold walkWith at reached
      rcases listed : files.directory? current with _ | ⟨entries, parent⟩
      · simp [listed] at reached
      simp only [listed] at reached
      cases component with
      | here => exact later (ih current directory name file reached)
      | up => exact later (ih parent directory name file reached)
      | name text =>
          dsimp only at reached
          split at reached
          · simp at reached
          by_cases last : rest.isEmpty = true
          · have nothing : rest = [] := by simpa using last
            subst nothing
            have named : text = name := by
              rcases found : entries.lookup text with _ | child
              · simp only [found, List.isEmpty_nil, if_true] at reached
                cases reached
                rfl
              · simp only [found, List.isEmpty_nil, Bool.not_false, Bool.and_self,
                  if_true] at reached
                cases reached
                rfl
            simp [named]
          · rcases found : entries.lookup text with _ | child
            · simp [found, last] at reached
            simp only [found, last, Bool.false_and, Bool.false_eq_true, if_false] at reached
            rcases link : files.target? child with _ | target
            · simp only [link] at reached
              exact later (ih child directory name file reached)
            · simp only [link] at reached
              have expanded := expandName _ _ _ _ _ reached
              have nonempty : rest ≠ [] := by simpa using last
              rw [List.getLast?_append_of_ne_nil _ nonempty] at expanded
              exact later expanded

theorem walk_name {files : FileSystem} {limit : Nat} {current directory : FileId}
    {components : List Component} {name : String} {file : Option FileId}
    (reached : files.walk false limit current components = .ok (.entry directory name file)) :
    components.getLast? = some (.name name) := by
  induction limit generalizing current components directory name file with
  | zero => exact walkWith_name (by simp) components current directory name file reached
  | succ limit ih =>
      exact walkWith_name (fun _ _ _ _ _ expanded => ih expanded) components current directory
        name file reached

theorem ofSegments_ne_nil {segments : List (List Char)} (nonempty : segments ≠ []) :
    Component.ofSegments segments ≠ [] := by
  fun_induction Component.ofSegments segments with
  | case1 => exact absurd rfl nonempty
  | case3 rest others ih => exact ih (by rintro rfl; exact others rfl)
  | case2 | case4 | case5 | case6 => simp

theorem getLast?_ofSegments {segments : List (List Char)} {name : String}
    (last : (Component.ofSegments segments).getLast? = some (.name name)) :
    segments.getLast? = some name.toList ∧ name.toList ≠ [] := by
  have behind : ∀ (component : Component) (segment : List Char) (rest : List (List Char)),
      ((Component.ofSegments rest).getLast? = some (.name name) →
        rest.getLast? = some name.toList ∧ name.toList ≠ []) → rest ≠ [] →
      (component :: Component.ofSegments rest).getLast? = some (.name name) →
        (segment :: rest).getLast? = some name.toList ∧ name.toList ≠ [] := by
    intro component segment rest ih nonempty last
    rw [List.getLast?_cons_of_ne_nil (ofSegments_ne_nil nonempty)] at last
    rw [List.getLast?_cons_of_ne_nil nonempty]
    exact ih last
  fun_induction Component.ofSegments segments with
  | case1 => simp at last
  | case2 => simp at last
  | case3 rest others ih =>
      have nonempty : rest ≠ [] := by
        rintro rfl
        exact others rfl
      rw [List.getLast?_cons_of_ne_nil nonempty]
      exact ih last
  | case4 rest ih =>
      rcases rest with _ | ⟨next, others⟩
      · simp [Component.ofSegments] at last
      · exact behind .here ['.'] _ ih (by simp) last
  | case5 rest ih =>
      rcases rest with _ | ⟨next, others⟩
      · simp [Component.ofSegments] at last
      · exact behind .up ['.', '.'] _ ih (by simp) last
  | case6 segment rest single nonempty noDot noDots ih =>
      rcases rest with _ | ⟨next, others⟩
      · have named : String.ofList segment = name := by simpa [Component.ofSegments] using last
        subst named
        simpa using nonempty
      · exact behind _ segment _ ih (by simp) last

theorem getLast?_segments {text segment : List Char}
    (last : (Path.segments text).getLast? = some segment) (nonempty : segment ≠ []) :
    segment.getLast? = text.getLast? := by
  induction text generalizing segment with
  | nil =>
      have empty : segment = [] := by simpa [Path.segments, eq_comm] using last
      exact absurd empty nonempty
  | cons character rest ih =>
      unfold Path.segments at last
      split at last
      · rw [List.getLast?_cons_of_ne_nil (Path.segments_ne_nil rest)] at last
        have restEnds := ih last nonempty
        rcases rest with _ | ⟨next, others⟩
        · simp at restEnds
          exact absurd restEnds nonempty
        · simpa using restEnds
      · rcases inner : Path.segments rest with _ | ⟨first, others⟩
        · exact absurd inner (Path.segments_ne_nil rest)
        rw [inner] at last ih
        rcases others with _ | ⟨second, more⟩
        · have whole : segment = character :: first := by simpa [eq_comm] using last
          have written := Path.unsegment_segments rest
          rw [inner] at written
          rw [whole, ← written]
          rfl
        · have restEnds := ih (by simpa using last) nonempty
          rcases rest with _ | ⟨next, letters⟩
          · simp [Path.segments] at inner
          · simpa using restEnds

theorem getLast?_name_of_locate {files : FileSystem} {path name : String} {directory : FileId}
    {file : Option FileId}
    (located : files.locate false path = .ok (.entry directory name file)) :
    name.toList.getLast? = path.toList.getLast? := by
  unfold locate at located
  split at located
  · simp at located
  split at located
  · simp at located
  rcases getLast?_ofSegments (walk_name located) with ⟨last, nonempty⟩
  exact getLast?_segments last nonempty

/-! ## Paths that end with a name -/

theorem walkWith_directory {files : FileSystem}
    {expand : FileId → List Component → Except Errno Place}
    (expandDirectory : ∀ start rest id, expand start rest = .ok (.directory id) →
      ∀ name, rest.getLast? ≠ some (.name name)) :
    ∀ (components : List Component) (current id : FileId),
      files.walkWith expand false current components = .ok (.directory id) →
        ∀ name, components.getLast? ≠ some (.name name) := by
  intro components
  induction components with
  | nil => simp
  | cons component rest ih =>
      intro current id reached name last
      unfold walkWith at reached
      rcases listed : files.directory? current with _ | ⟨entries, parent⟩
      · simp [listed] at reached
      simp only [listed] at reached
      have later : rest ≠ [] → rest.getLast? = some (.name name) := by
        intro nonempty
        rwa [List.getLast?_cons_of_ne_nil nonempty] at last
      have single : component ≠ .name name → rest ≠ [] := by
        rintro other rfl
        exact other (by simpa using last)
      cases component with
      | here => exact ih current id reached name (later (single (by simp)))
      | up => exact ih parent id reached name (later (single (by simp)))
      | name text =>
          dsimp only at reached
          split at reached
          · simp at reached
          by_cases ends : rest.isEmpty = true
          · rcases found : entries.lookup text with _ | child
            · simp [found, ends] at reached
            · simp [found, ends] at reached
          · have nonempty : rest ≠ [] := by simpa using ends
            rcases found : entries.lookup text with _ | child
            · simp [found, ends] at reached
            simp only [found, ends, Bool.false_and, Bool.false_eq_true, if_false] at reached
            rcases link : files.target? child with _ | target
            · simp only [link] at reached
              exact ih child id reached name (later nonempty)
            · simp only [link] at reached
              apply expandDirectory _ _ _ reached name
              rw [List.getLast?_append_of_ne_nil _ nonempty]
              exact later nonempty

theorem walk_directory {files : FileSystem} {limit : Nat} {current id : FileId}
    {components : List Component} {name : String}
    (reached : files.walk false limit current components = .ok (.directory id)) :
    components.getLast? ≠ some (.name name) := by
  induction limit generalizing current components id name with
  | zero => exact walkWith_directory (by simp) components current id reached name
  | succ limit ih =>
      exact walkWith_directory (fun _ _ _ expanded _ => ih expanded) components current id
        reached name

theorem exists_getLast?_segments {text : List Char} {character : Char}
    (last : text.getLast? = some character) (noSlash : character ≠ '/') :
    ∃ segment, (Path.segments text).getLast? = some segment ∧
      segment.getLast? = some character := by
  induction text with
  | nil => simp at last
  | cons first rest ih =>
      rcases rest with _ | ⟨next, others⟩
      · have isLast : first = character := by simpa using last
        subst isLast
        exact ⟨[first], by simp [Path.segments, noSlash], rfl⟩
      · rcases ih (by simpa using last) with ⟨segment, isSegment, ends⟩
        unfold Path.segments
        split
        · refine ⟨segment, ?_, ends⟩
          rwa [List.getLast?_cons_of_ne_nil (Path.segments_ne_nil _)]
        · rcases inner : Path.segments (next :: others) with _ | ⟨head, more⟩
          · exact absurd inner (Path.segments_ne_nil _)
          rw [inner] at isSegment
          rcases more with _ | ⟨second, last⟩
          · have whole : head = segment := by simpa using isSegment
            subst whole
            refine ⟨first :: head, rfl, ?_⟩
            rcases head with _ | ⟨letter, letters⟩
            · simp at ends
            · simpa using ends
          · exact ⟨segment, by simpa using isSegment, ends⟩

theorem getLast?_ofSegments_of_name {segments : List (List Char)} {segment : List Char}
    (last : segments.getLast? = some segment) (nonempty : segment ≠ []) (noDot : segment ≠ ['.'])
    (noDots : segment ≠ ['.', '.']) :
    (Component.ofSegments segments).getLast? = some (.name (String.ofList segment)) := by
  fun_induction Component.ofSegments segments with
  | case1 => simp at last
  | case2 =>
      have empty : [] = segment := by simpa using last
      exact absurd empty.symm nonempty
  | case3 rest others ih =>
      rcases rest with _ | ⟨next, more⟩
      · exact absurd rfl others
      · exact ih (by simpa using last)
  | case4 rest ih =>
      rcases rest with _ | ⟨next, more⟩
      · have single : ['.'] = segment := by simpa using last
        exact absurd single.symm noDot
      · rw [List.getLast?_cons_of_ne_nil (ofSegments_ne_nil (by simp))]
        exact ih (by simpa using last)
  | case5 rest ih =>
      rcases rest with _ | ⟨next, more⟩
      · have single : ['.', '.'] = segment := by simpa using last
        exact absurd single.symm noDots
      · rw [List.getLast?_cons_of_ne_nil (ofSegments_ne_nil (by simp))]
        exact ih (by simpa using last)
  | case6 first rest _ _ _ _ ih =>
      rcases rest with _ | ⟨next, more⟩
      · have single : first = segment := by simpa using last
        simp [single, Component.ofSegments]
      · rw [List.getLast?_cons_of_ne_nil (ofSegments_ne_nil (by simp))]
        exact ih (by simpa using last)

/-- A path that ends with neither a slash nor a dot leads to an entry, if it leads anywhere. -/
theorem entry_of_locate {files : FileSystem} {path : String} {character : Char} {place : Place}
    (last : path.toList.getLast? = some character) (noSlash : character ≠ '/')
    (noDot : character ≠ '.') (located : files.locate false path = .ok place) :
    ∃ directory name file, place = .entry directory name file := by
  rcases place with ⟨directory, name, file⟩ | id
  · exact ⟨directory, name, file, rfl⟩
  · rcases exists_getLast?_segments last noSlash with ⟨segment, isSegment, ends⟩
    have isName := getLast?_ofSegments_of_name isSegment
      (by rintro rfl; simp at ends)
      (by rintro rfl; exact noDot (by simpa using ends.symm))
      (by rintro rfl; exact noDot (by simpa using ends.symm))
    unfold locate at located
    split at located
    · simp at located
    split at located
    · simp at located
    exact absurd isName (walk_directory located)

end FileSystem

end MailSpool
