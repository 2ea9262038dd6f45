import MailSpool.Proofs.FileSystem.Inherits

/-!
# Files that are kept

A file is kept at an entry when calls set other entries only and write other files. Whether a path
still leads there is another question: this takes that no directory and no symbolic link on the way
loses its name. So what becomes of a mailbox is told in the three parts of `Mailbox.Stands`, its
entry, its content with its times, and the path to it.
-/

namespace MailSpool

namespace FileSystem

/-! ## Ways that are kept -/

section Ways

variable {before after : FileSystem} {follow : Bool} {directory : FileId} {name : String}
  {id : FileId}

theorem walkWith_of_widens (widens : Narrows after before)
    (kept : after.child? directory name = some id)
    {expandBefore expandAfter : FileId → List Component → Except Errno Place}
    (expandKept : ∀ start rest, expandBefore start rest = .ok (.entry directory name (some id)) →
      expandAfter start rest = .ok (.entry directory name (some id)))
    (components : List Component) (current : FileId)
    (reached : before.walkWith expandBefore follow current components =
      .ok (.entry directory name (some id))) :
    after.walkWith expandAfter follow current components =
      .ok (.entry directory name (some id)) := by
  induction components generalizing current with
  | nil => simp [walkWith] at reached
  | cons component rest ih =>
      unfold walkWith at reached ⊢
      rcases listed : before.directory? current with _ | ⟨entries, parent⟩
      · simp [listed] at reached
      rcases widens.directory listed with ⟨newEntries, newListed⟩
      simp only [listed] at reached
      simp only [newListed]
      cases component with
      | here => exact ih current reached
      | up => exact ih parent reached
      | name text =>
          dsimp only at reached ⊢
          split at reached
          · simp at reached
          case isFalse short =>
          rw [if_neg short]
          rcases found : entries.lookup text with _ | child
          · simp only [found] at reached
            split at reached
            · simp at reached
            · simp at reached
          have named : before.child? current text = some child := by simp [child?, listed, found]
          have onWay : (before.directory? child).isSome ∨ (before.target? child).isSome →
              newEntries.lookup text = some child := by
            intro way
            simpa [child?, newListed] using widens.entry_of_way named way
          have atEnd : Except.ok (ε := Errno) (Place.entry current text (some child)) =
              .ok (.entry directory name (some id)) → newEntries.lookup text = some child := by
            intro same
            cases same
            simpa [child?, newListed] using kept
          simp only [found] at reached
          split at reached
          case isTrue last =>
            rw [atEnd reached]
            exact (if_pos last).trans reached
          case isFalse more =>
            rcases link : before.target? child with _ | target
            · simp only [link] at reached
              split at reached
              case isTrue last =>
                simp only [atEnd reached, if_neg more, widens.target child ▸ link, if_pos last]
                exact reached
              case isFalse further =>
                have isDirectory : (before.directory? child).isSome := by
                  rcases rest with _ | ⟨next, others⟩
                  · simp at further
                  · rcases inside : before.directory? child with _ | listing
                    · simp [walkWith, inside] at reached
                    · rfl
                simp only [onWay (Or.inl isDirectory), if_neg more, widens.target child ▸ link,
                  if_neg further]
                exact ih child reached
            · simp only [link] at reached
              simp only [onWay (Or.inr (by simp [link])), if_neg more, widens.target child ▸ link]
              exact expandKept _ _ reached

theorem walk_of_widens (widens : Narrows after before)
    (kept : after.child? directory name = some id) {limit : Nat} {current : FileId}
    {components : List Component}
    (reached : before.walk follow limit current components =
      .ok (.entry directory name (some id))) :
    after.walk follow limit current components = .ok (.entry directory name (some id)) := by
  induction limit generalizing current components with
  | zero => exact walkWith_of_widens widens kept (by simp) components current reached
  | succ limit ih =>
      exact walkWith_of_widens widens kept (fun _ _ expanded => ih expanded) components current
        reached

theorem locate_of_widens (widens : Narrows after before)
    (kept : after.child? directory name = some id) {path : String}
    (located : before.locate follow path = .ok (.entry directory name (some id))) :
    after.locate follow path = .ok (.entry directory name (some id)) := by
  unfold locate at located ⊢
  split at located
  · simp at located
  case isFalse nonempty =>
  rw [if_neg nonempty]
  split at located
  · simp at located
  case isFalse short =>
  have sameStart : start after.working path = start before.working path := by rw [widens.working]
  rw [if_neg short, sameStart]
  exact walk_of_widens widens kept located

end Ways

end FileSystem

/-! ## Mailboxes -/

/-- A regular file at an entry, and a path that leads there. -/
structure Mailbox where
  path : String
  directory : FileId
  name : String
  file : FileId
  content : ByteArray

namespace Mailbox

open FileSystem

/-- The path of a mailbox leads to its entry, through symbolic links if there are some. -/
structure LiesIn (mailbox : Mailbox) (files : FileSystem) : Prop where
  located : files.locate true mailbox.path =
    .ok (.entry mailbox.directory mailbox.name (some mailbox.file))
  regular : files.node? mailbox.file = some (.regular mailbox.content)

/-- A mailbox stands as it did at a start: its entry names it, and it has its content. It also has
its times as long as it is `untouched`, and its path leads to it as long as all ways are `whole`. -/
structure Stands (mailbox : Mailbox) (start files : FileSystem) (untouched whole : Prop) :
    Prop where
  entry : files.child? mailbox.directory mailbox.name = some mailbox.file
  regular : files.node? mailbox.file = some (.regular mailbox.content)
  traits : untouched →
    (files.file mailbox.file).map File.traits = (start.file mailbox.file).map File.traits
  path : whole → files.locate true mailbox.path =
    .ok (.entry mailbox.directory mailbox.name (some mailbox.file))

variable {mailbox : Mailbox} {start before after : FileSystem} {untouched whole : Prop}

theorem LiesIn.stands (lies : mailbox.LiesIn start) (untouched whole : Prop) :
    mailbox.Stands start start untouched whole where
  entry := child?_of_locate lies.located
  regular := lies.regular
  traits _ := rfl
  path _ := lies.located

namespace Stands

theorem known (stands : mailbox.Stands start before untouched whole) :
    (before.file mailbox.file).isSome := by
  have regular := stands.regular
  rcases found : before.file mailbox.file with _ | file
  · simp [node?, found] at regular
  · rfl

/-- A mailbox `Stands` when its entry is kept and its file is none of those that are written. -/
theorem later (stands : mailbox.Stands start before untouched whole) {excepted : FileId → Prop}
    (entry : after.child? mailbox.directory mailbox.name = some mailbox.file)
    (retains : Retains before after excepted) (kept : ¬excepted mailbox.file)
    (widens : whole → Narrows after before) : mailbox.Stands start after untouched whole where
  entry := entry
  regular := retains.node? stands.regular kept
  traits spared := by
    rw [retains.traits _ stands.known (plain_of_node? stands.regular).1 kept]
    exact stands.traits spared
  path isWhole := locate_of_widens (widens isWhole) entry (stands.path isWhole)

/-- A call that fills a vacant entry leaves a mailbox as it is. -/
theorem sets_vacant (stands : mailbox.Stands start before untouched whole) {directory : FileId}
    {name : String} {child : Option FileId} (sets : Sets before after directory name child)
    (vacant : before.child? directory name = none)
    (retains : Retains before after fun _ => False) :
    mailbox.Stands start after untouched whole := by
  refine stands.later ?_ retains (by simp) fun _ => sets.widens (by simp [vacant])
  rw [sets.entry_of_ne]
  · exact stands.entry
  · rintro ⟨rfl, rfl⟩
    rw [stands.entry] at vacant
    simp at vacant

theorem sameEntries (stands : mailbox.Stands start before untouched whole)
    {excepted : FileId → Prop} (same : SameEntries before after)
    (retains : Retains before after excepted) (kept : ¬excepted mailbox.file) :
    mailbox.Stands start after untouched whole := by
  refine stands.later ?_ retains kept fun _ => same.symm.narrows
  rw [same.entry]
  exact stands.entry

/-- Removing a path that does not lead to the entry of a mailbox leaves the mailbox as it is. -/
theorem unlink (stands : mailbox.Stands start before untouched whole) {path : String}
    {now : Instant} (removed : before.unlink path now = .ok after)
    (misses : ¬before.LiesAt path mailbox.directory mailbox.name mailbox.file)
    (spares : whole → ∀ link, before.Names path link → before.target? link = none) :
    mailbox.Stands start after untouched whole := by
  rcases unlink_spec removed with
    ⟨directory, name, id, located, noDirectory, sets, retains, _⟩
  refine stands.later ?_ retains (by simp) ?_
  · rw [sets.entry_of_ne]
    · exact stands.entry
    · rintro ⟨rfl, rfl⟩
      have named := child?_of_locate located
      rw [stands.entry] at named
      cases named
      exact misses located
  · intro isWhole
    refine sets.widens ?_
    rw [child?_of_locate located]
    rintro child ⟨⟩
    exact ⟨noDirectory, spares isWhole id ⟨_, located, rfl⟩⟩

theorem touch (stands : mailbox.Stands start before untouched whole) {path : String}
    {now : Instant} (touched : before.touch path now = .ok after)
    (misses : untouched → ∀ found, before.stat path ≠ .ok (mailbox.file, found)) :
    mailbox.Stands start after untouched whole := by
  rcases touch_spec touched with ⟨id, file, looked, _, same, retains, _⟩
  by_cases isMailbox : mailbox.file = id
  · have evolves : Evolves before after fun _ => False := evolves_touch touched
    have entry : after.child? mailbox.directory mailbox.name = some mailbox.file := by
      rw [same.entry]
      exact stands.entry
    refine ⟨entry, evolves.node _ _ stands.regular (by simp), ?_, ?_⟩
    · intro spared
      rw [← isMailbox] at looked
      exact absurd looked (misses spared file)
    · intro isWhole
      exact locate_of_widens same.symm.narrows entry (stands.path isWhole)
  · exact stands.sameEntries same retains isMailbox

end Stands

end Mailbox

end MailSpool
