import MailSpool.Proofs.FileSystem.Resets
import MailSpool.Proofs.Host.Harm

/-!
# Old files and new ones

In the course of several calls new files are made, linked and removed, and old ones may lose a name.
As long as no old file gets a name that it did not have, `Inherits`, a path that leads to an old
file now, symbolic links followed or not, led to it from the start: every directory and every
symbolic link on its way is an old file.

Of an entry that a path leads to, this tells the past. Its future is told by the calls that keep
the entry and close no way.
-/

namespace MailSpool

namespace FileSystem

/-- Files that others have become: directories and symbolic links are the old ones, and every name
of an old file is an old name. -/
structure Inherits (before after : FileSystem) : Prop extends SameKinds before after where
  next : before.next ≤ after.next
  old : ∀ directory name id, after.child? directory name = some id → (before.file id).isSome →
    before.child? directory name = some id

/-- A path leads to an entry that names a file. -/
def LiesAt (files : FileSystem) (path : String) (directory : FileId) (name : String)
    (id : FileId) : Prop :=
  files.locate false path = .ok (.entry directory name (some id))

theorem isSome_file_of_directory? {files : FileSystem} {id : FileId}
    (isDirectory : (files.directory? id).isSome) : (files.file id).isSome := by
  rcases found : files.file id with _ | file
  · simp [(plain_of_file_eq_none found).1] at isDirectory
  · rfl

theorem isSome_file_of_target? {files : FileSystem} {id : FileId}
    (isLink : (files.target? id).isSome) : (files.file id).isSome := by
  rcases found : files.file id with _ | file
  · simp [(plain_of_file_eq_none found).2] at isLink
  · rfl

variable {before between after : FileSystem}

theorem SameKinds.trans (first : SameKinds before between) (second : SameKinds between after) :
    SameKinds before after where
  working := second.working.trans first.working
  parent id := (second.parent id).trans (first.parent id)
  target id := (second.target id).trans (first.target id)

theorem SameKinds.narrows (kinds : SameKinds before after)
    (old : ∀ directory name id, after.child? directory name = some id → (before.file id).isSome →
      before.child? directory name = some id) : Narrows before after where
  toSameKinds := kinds
  entry directory name id named := by
    rcases found : before.file id with _ | file
    · exact Or.inr (plain_of_file_eq_none found)
    · exact Or.inl (old directory name id named (by simp [found]))

namespace Inherits

theorem refl (files : FileSystem) : Inherits files files where
  working := rfl
  parent _ := rfl
  target _ := rfl
  next := Nat.le_refl _
  old _ _ _ named _ := named

theorem narrows (inherits : Inherits before after) : Narrows before after :=
  inherits.toSameKinds.narrows inherits.old

theorem sets (inherits : Inherits before between) {directory : FileId} {name : String}
    {child : Option FileId} (sets : Sets between after directory name child)
    (next : between.next ≤ after.next) (isNew : ∀ id, child = some id → before.file id = none) :
    Inherits before after where
  toSameKinds := inherits.toSameKinds.trans sets.toSameKinds
  next := Nat.le_trans inherits.next next
  old folder text id named known := by
    rw [sets.entry] at named
    split at named
    · rw [isNew id named] at known
      simp at known
    · exact inherits.old folder text id named known

theorem sameEntries (inherits : Inherits before between) (same : SameEntries between after)
    (next : between.next ≤ after.next) : Inherits before after where
  toSameKinds := inherits.toSameKinds.trans same.toSameKinds
  next := Nat.le_trans inherits.next next
  old folder text id named := by
    rw [same.entry] at named
    exact inherits.old folder text id named

theorem file_of_next_le (inherits : Inherits before between) (sound : before.Sound) {id : FileId}
    (made : id.number = between.next) : before.file id = none := by
  apply sound.unused
  rw [made]
  exact inherits.next

end Inherits

/-! ## The way back -/

section WayBack

variable (kinds : SameKinds before after)
  (old : ∀ directory name id, after.child? directory name = some id → (before.file id).isSome →
    before.child? directory name = some id)
  {follow : Bool} {id : FileId} (known : (before.file id).isSome)
include kinds old known

theorem walkWith_of_old
    {expandBefore expandAfter : FileId → List Component → Except Errno Place}
    (expandInherits : ∀ start rest place, expandAfter start rest = .ok place →
      place.file? = some id → expandBefore start rest = .ok place) :
    ∀ (components : List Component) (current : FileId) (place : Place),
      after.walkWith expandAfter follow current components = .ok place → place.file? = some id →
        before.walkWith expandBefore follow current components = .ok place := by
  intro components
  induction components with
  | nil =>
      intro current place reached _
      exact reached
  | cons component rest ih =>
      intro current place reached ends
      unfold walkWith at reached ⊢
      rcases listed : after.directory? current with _ | ⟨entries, parent⟩
      · simp [listed] at reached
      rcases (kinds.narrows old).directory listed with ⟨oldEntries, oldListed⟩
      have oldEntry : ∀ name child, entries.lookup name = some child →
          (before.file child).isSome → oldEntries.lookup name = some child := by
        intro name child found isOld
        have named : after.child? current name = some child := by simpa [child?, listed] using found
        simpa [child?, oldListed] using old current name child named isOld
      simp only [listed] at reached
      simp only [oldListed]
      cases component with
      | here => exact ih current place reached ends
      | up => exact ih parent place reached ends
      | name name =>
          dsimp only at reached ⊢
          split at reached
          · simp at reached
          case isFalse short =>
          rw [if_neg short]
          rcases found : entries.lookup name with _ | child
          · simp only [found] at reached
            split at reached
            · cases reached
              simp [Place.file?] at ends
            · simp at reached
          simp only [found] at reached
          have isOld : (before.file child).isSome := by
            rcases link : after.target? child with _ | target
            · simp only [link] at reached
              rcases rest with _ | ⟨next, others⟩
              · simp only [List.isEmpty_nil, Bool.true_and, if_true, ite_self,
                  Except.ok.injEq] at reached
                rw [← reached] at ends
                cases ends
                exact known
              · rcases inside : after.directory? child with _ | listing
                · simp [walkWith, inside] at reached
                · apply isSome_file_of_directory?
                  rcases (kinds.narrows old).directory inside with ⟨oldListing, wasDirectory⟩
                  rw [wasDirectory]
                  rfl
            · apply isSome_file_of_target?
              rw [← kinds.target, link]
              rfl
          rw [oldEntry name child found isOld]
          dsimp only
          split at reached
          case isTrue last =>
            rw [if_pos last]
            exact reached
          case isFalse more =>
            rw [if_neg more, ← kinds.target]
            split at reached
            case h_1 target link =>
              exact expandInherits _ _ place reached ends
            case h_2 link =>
              split at reached
              case isTrue last =>
                rw [if_pos last]
                exact reached
              case isFalse further =>
                rw [if_neg further]
                exact ih child place reached ends

theorem walk_of_old {limit : Nat} {current : FileId} {components : List Component} {place : Place}
    (reached : after.walk follow limit current components = .ok place)
    (ends : place.file? = some id) : before.walk follow limit current components = .ok place := by
  induction limit generalizing current components place with
  | zero =>
      exact walkWith_of_old kinds old known (by simp) components current place reached ends
  | succ limit ih =>
      exact walkWith_of_old kinds old known (fun _ _ _ expanded isEnd => ih expanded isEnd)
        components current place reached ends

theorem locate_of_old {path : String} {place : Place}
    (located : after.locate follow path = .ok place) (ends : place.file? = some id) :
    before.locate follow path = .ok place := by
  unfold FileSystem.locate at located ⊢
  split at located
  · simp at located
  case isFalse nonempty =>
  rw [if_neg nonempty]
  split at located
  · simp at located
  case isFalse short =>
  rw [if_neg short]
  have sameStart : start after.working path = start before.working path := by
    rw [kinds.working]
  rw [sameStart] at located
  exact walk_of_old kinds old known located ends

end WayBack

namespace Inherits

/-- A path that leads to an old file led to it from the start. -/
theorem locate (inherits : Inherits before after) {follow : Bool} {path : String} {place : Place}
    {id : FileId} (known : (before.file id).isSome)
    (located : after.locate follow path = .ok place) (ends : place.file? = some id) :
    before.locate follow path = .ok place :=
  locate_of_old inherits.toSameKinds inherits.old known located ends

theorem names (inherits : Inherits before after) {path : String} {id : FileId}
    (known : (before.file id).isSome) (named : after.Names path id) : before.Names path id := by
  rcases named with ⟨place, located, ends⟩
  exact ⟨place, inherits.locate known located ends, ends⟩

theorem find (inherits : Inherits before after) {follow : Bool} {path : String} {id : FileId}
    {found : File} (known : (before.file id).isSome)
    (looked : after.find follow path = .ok (id, found)) :
    ∃ old, before.find follow path = .ok (id, old) := by
  rcases find_eq_ok_iff.mp looked with ⟨place, located, ends, _⟩
  rcases Option.isSome_iff_exists.mp known with ⟨old, isOld⟩
  exact ⟨old, find_eq_ok_iff.mpr ⟨place, inherits.locate known located ends, ends, isOld⟩⟩

/-- An old file that has suffered did so before the last call or by it. -/
theorem harms_split (inherits : Inherits before between) {file : FileId}
    (harms : before.Harms after file) : before.Harms between file ∨ between.Harms after file := by
  by_cases already : before.Harms between file
  · exact Or.inl already
  right
  have kept : (∀ directory name, before.child? directory name = some file →
      between.child? directory name = some file) ∧
      (between.file file).map File.traits = (before.file file).map File.traits := by
    constructor
    · intro directory name named
      by_contra lost
      exact already ⟨harms.known, harms.plain, Or.inl ⟨directory, name, named, lost⟩⟩
    · by_contra changed
      exact already ⟨harms.known, harms.plain, Or.inr changed⟩
  refine ⟨?_, ?_, ?_⟩
  · have sameKnown := congrArg Option.isSome kept.2
    rw [Option.isSome_map, Option.isSome_map] at sameKnown
    exact sameKnown.trans harms.known
  · exact (inherits.directory?_eq_none_iff file).mpr harms.plain
  · rcases harms.loss with ⟨directory, name, named, lost⟩ | changed
    · exact Or.inl ⟨directory, name, kept.1 directory name named, lost⟩
    · right
      rw [kept.2]
      exact changed

end Inherits

/-! ## Entries and calls -/

variable {path : String} {directory : FileId} {name : String} {id : FileId}

theorem LiesAt.child? (lies : before.LiesAt path directory name id) :
    before.child? directory name = some id :=
  child?_of_locate lies

theorem LiesAt.names (lies : before.LiesAt path directory name id) : before.Names path id :=
  ⟨_, lies, rfl⟩

/-- `LiesAt` is kept as long as no way is closed and the entry is kept. -/
theorem LiesAt.of_widens (lies : before.LiesAt path directory name id)
    (widens : Narrows after before) (kept : after.child? directory name = some id) :
    after.LiesAt path directory name id := by
  rcases widens.locate lies with ⟨place, located, spot⟩
  rcases place with ⟨folder, text, found⟩ | other
  · obtain ⟨rfl, rfl⟩ : folder = directory ∧ text = name := by simpa [Place.spot] using spot
    rw [child?_of_locate located] at kept
    rw [LiesAt, located, kept]
  · simp [Place.spot] at spot

/-- The entry at which a path `LiesAt` was there before a way was closed. -/
theorem LiesAt.of_narrows (lies : after.LiesAt path directory name id)
    (narrows : Narrows before after) (same : before.child? directory name = some id) :
    before.LiesAt path directory name id := by
  rcases narrows.locate lies with ⟨place, located, spot⟩
  rcases place with ⟨folder, text, found⟩ | other
  · obtain ⟨rfl, rfl⟩ : folder = directory ∧ text = name := by simpa [Place.spot] using spot
    rw [child?_of_locate located] at same
    rw [LiesAt, located, same]
  · simp [Place.spot] at spot

theorem LiesAt.of_unlink {other : String} {now : Instant}
    (removed : before.unlink other now = .ok after) (lies : after.LiesAt path directory name id) :
    before.LiesAt path directory name id := by
  rcases unlink_spec removed with ⟨_, _, _, _, _, sets, _, _⟩
  refine lies.of_narrows (sets.narrows (by simp)) ?_
  have named := lies.child?
  rw [sets.entry] at named
  split at named
  · simp at named
  · exact named

theorem LiesAt.of_sameEntries (same : SameEntries before after)
    (lies : after.LiesAt path directory name id) : before.LiesAt path directory name id := by
  refine lies.of_narrows same.narrows ?_
  rw [← same.entry]
  exact lies.child?

theorem LiesAt.getLast?_name (lies : before.LiesAt path directory name id) :
    name.toList.getLast? = path.toList.getLast? :=
  getLast?_name_of_locate lies

theorem number_of_create {now : Instant} {node : Node}
    (created : before.create path node now = .ok (id, after)) : id.number = before.next := by
  unfold create at created
  rcases vacant : before.vacancy path with errno | ⟨folder, text⟩
  · simp [vacant, Except.map] at created
  · simp only [vacant, Except.map, make_eq, Except.ok.injEq, Prod.mk.injEq] at created
    rw [← created.1]

/-- A new entry harms nobody. -/
theorem not_harms_of_sets_vacant {child : Option FileId} (file : FileId)
    (sets : Sets before after directory name child)
    (vacant : before.child? directory name = none)
    (retains : Retains before after fun _ => False) : ¬before.Harms after file := by
  rintro ⟨known, plain, ⟨folder, text, named, lost⟩ | changed⟩
  · have different : (folder, text) ≠ (directory, name) := by
      rintro ⟨rfl, rfl⟩
      rw [vacant] at named
      simp at named
    rw [sets.entry_of_ne different] at lost
    exact lost named
  · exact changed (retains.traits file known plain (by simp))

/-! ## Where new files lie -/

/-- Every entry names an old file, or is the one to which a path of a kind leads. -/
def Confines (start files : FileSystem) (place : String → Prop) : Prop :=
  ∀ directory name id, files.child? directory name = some id →
    (start.file id).isSome ∨ ∃ path, place path ∧ files.LiesAt path directory name id

namespace Confines

variable {start : FileSystem} {place further : String → Prop} {now : Instant}

theorem of_widens (confines : Confines start before place) (widens : Narrows after before)
    (kept : ∀ folder text child, after.child? folder text = some child →
      before.child? folder text = some child)
    (implies : ∀ other, place other → further other) : Confines start after further := by
  intro folder text child named
  rcases confines folder text child (kept folder text child named) with old | ⟨other, isPlace, lies⟩
  · exact Or.inl old
  · exact Or.inr ⟨other, implies other isPlace, lies.of_widens widens named⟩

theorem of_sameEntries (confines : Confines start before place) (same : SameEntries before after)
    (implies : ∀ other, place other → further other) : Confines start after further := by
  refine confines.of_widens same.symm.narrows ?_ implies
  intro folder text child named
  rw [same.entry] at named
  exact named

theorem adds (confines : Confines start before place)
    (located : before.locate false path = .ok (.entry directory name none))
    (sets : Sets before after directory name (some id))
    (plain : before.directory? id = none ∧ before.target? id = none)
    (implies : ∀ other, place other ∨ other = path → further other) :
    Confines start after further := by
  have widens : Narrows after before := by
    refine sets.widens ?_
    rw [child?_of_locate located]
    simp
  have resets : Resets before after path none (some id) := by
    refine .of_sets located sets (sets.narrows ?_) widens
    rintro child ⟨⟩
    exact plain
  rcases resets.entry with ⟨_, _, placed, stillPlaced, _, _⟩
  cases located.symm.trans placed
  intro folder text child named
  by_cases same : (folder, text) = (directory, name)
  · cases same
    rw [sets.entry_self] at named
    cases named
    exact Or.inr ⟨path, implies path (Or.inr rfl), stillPlaced⟩
  · have old : before.child? folder text = some child := (sets.entry_of_ne same).symm.trans named
    rcases confines folder text child old with known | ⟨other, isPlace, lies⟩
    · exact Or.inl known
    · exact Or.inr ⟨other, implies other (Or.inl isPlace), lies.of_widens widens named⟩

theorem drops (confines : Confines start before place)
    (removed : before.unlink path now = .ok after) (widens : Narrows after before)
    (implies : ∀ other, place other → other ≠ path → further other) :
    Confines start after further := by
  rcases unlink_spec removed with ⟨folder, text, _, located, _, sets, _, _⟩
  intro otherFolder otherText child named
  have different : (otherFolder, otherText) ≠ (folder, text) := by
    rintro ⟨rfl, rfl⟩
    rw [sets.entry_self] at named
    simp at named
  have old : before.child? otherFolder otherText = some child :=
    (sets.entry_of_ne different).symm.trans named
  rcases confines otherFolder otherText child old with known | ⟨other, isPlace, lies⟩
  · exact Or.inl known
  refine Or.inr ⟨other, implies other isPlace ?_, lies.of_widens widens named⟩
  rintro rfl
  cases located.symm.trans lies
  exact different rfl

end Confines

end FileSystem

end MailSpool
