import MailSpool.Proofs.Dotlock.Names
import MailSpool.Proofs.Host.Occupied

/-!
# The temporary file lies next to the lock

The path of the temporary file is made from the text of the path of the lock: all that stands before
its last segment, without segments that name nothing, and a new name. So both paths lead through the
same directories, and where one ends at an entry, the other ends at an entry of the same directory,
unless it is too long. This is what makes the place of a lock known from the fact that its temporary
file could be made: see `exists_locate_lock` and `locate_temporary`.
-/

namespace MailSpool

open FileSystem

/-! ## Segments -/

namespace Path

/-- A segment that names nothing: it is empty or a dot. -/
def IsNameless (segment : List Char) : Prop :=
  segment = [] ∨ segment = ['.']

theorem segments_of_notMem {text : List Char} (noSlash : '/' ∉ text) : segments text = [text] := by
  induction text with
  | nil => rfl
  | cons first rest ih =>
      simp only [List.mem_cons, not_or] at noSlash
      simp [segments, Ne.symm noSlash.1, ih noSlash.2]

theorem segments_append (front back : List Char) :
    segments (front ++ '/' :: back) = segments front ++ segments back := by
  induction front with
  | nil => simp [segments]
  | cons first rest ih =>
      rw [List.cons_append, segments, segments, ih]
      split
      · rfl
      · rcases parts : segments rest with _ | ⟨segment, others⟩
        · exact absurd parts (segments_ne_nil rest)
        · rfl

theorem unsegment_append {front : List (List Char)} (nonempty : front ≠ []) (last : List Char) :
    unsegment (front ++ [last]) = unsegment front ++ '/' :: last := by
  induction front with
  | nil => exact absurd rfl nonempty
  | cons segment others ih =>
      rcases others with _ | ⟨next, more⟩
      · rfl
      · have rest := ih (by simp)
        simp only [List.cons_append] at rest ⊢
        simp only [unsegment, rest, List.append_assoc, List.cons_append]

theorem segments_unsegment {parts : List (List Char)} (nonempty : parts ≠ [])
    (noSlash : ∀ part ∈ parts, '/' ∉ part) : segments (unsegment parts) = parts := by
  induction parts with
  | nil => exact absurd rfl nonempty
  | cons segment others ih =>
      have alone := segments_of_notMem (noSlash segment List.mem_cons_self)
      rcases others with _ | ⟨next, more⟩
      · exact alone
      · rw [unsegment, segments_append, alone, ih (by simp)]
        · rfl
        · intro part member
          exact noSlash part (List.mem_cons_of_mem _ member)
        · simp

theorem segments_append_of_notMem {front : List (List Char)} {text last suffix : List Char}
    (parts : segments text = front ++ [last]) (noSlash : '/' ∉ suffix) :
    segments (text ++ suffix) = front ++ [last ++ suffix] := by
  have whole : text ++ suffix = unsegment (front ++ [last ++ suffix]) := by
    rw [← unsegment_segments text, parts]
    rcases front with _ | ⟨segment, others⟩
    · rfl
    · rw [unsegment_append (by simp), unsegment_append (by simp)]
      simp
  rw [whole, segments_unsegment (by simp)]
  intro part member
  have free : ∀ part ∈ segments text, '/' ∉ part := fun _ => slash_notMem_of_mem_segments
  rw [parts] at free
  rcases List.mem_append.mp member with before | isLast
  · exact free part (by simp [before])
  · rw [List.mem_singleton.mp isLast]
    simp [free last (by simp), noSlash]

theorem isAbsolute_of_notMem {name : String} (noSlash : '/' ∉ name.toList) :
    isAbsolute name = false := by
  rcases text : name.toList with _ | ⟨first, rest⟩
  · simp [isAbsolute, text]
  · simp only [text, List.mem_cons, not_or] at noSlash
    simp [isAbsolute, text, Ne.symm noSlash.1]

theorem segments_join (directory : String) {name : String} (noSlash : '/' ∉ name.toList) :
    ∃ front, segments (join directory name).toList = front ++ [name.toList] := by
  have relative := isAbsolute_of_notMem noSlash
  have alone := segments_of_notMem noSlash
  simp only [join, relative, Bool.false_eq_true, if_false]
  split
  case h_1 => exact ⟨[], alone⟩
  case h_2 ends =>
    rcases List.getLast?_eq_some_iff.mp ends with ⟨front, whole⟩
    refine ⟨segments front, ?_⟩
    rw [String.toList_append, whole, List.append_assoc, List.singleton_append, segments_append,
      alone]
  case h_3 =>
    refine ⟨segments directory.toList, ?_⟩
    rw [String.toList_append, String.toList_append, List.append_assoc]
    change segments (_ ++ '/' :: name.toList) = _
    rw [segments_append, alone]

theorem isAbsolute_iff {path : String} {segment : List Char} {others : List (List Char)}
    (parts : segments path.toList = segment :: others) :
    isAbsolute path = true ↔ segment = [] ∧ others ≠ [] := by
  have isSegment : segment ∈ segments path.toList := by simp [parts]
  have noSlash := slash_notMem_of_mem_segments isSegment
  have written := unsegment_segments path.toList
  rw [parts] at written
  rw [isAbsolute, ← written, decide_eq_true_iff]
  rcases segment with _ | ⟨first, rest⟩
  · rcases others with _ | ⟨next, more⟩
    · simp [unsegment]
    · simp [unsegment]
  · have different : first ≠ '/' := fun same => noSlash (by simp [same])
    rcases others with _ | ⟨next, more⟩
    · simp [unsegment, different]
    · simp [unsegment, different]

theorem mem_unsegment_iff {parts : List (List Char)} {character : Char} (other : character ≠ '/') :
    character ∈ unsegment parts ↔ ∃ part ∈ parts, character ∈ part := by
  induction parts with
  | nil => simp [unsegment]
  | cons segment others ih =>
      rcases others with _ | ⟨next, more⟩
      · simp [unsegment]
      · rw [unsegment]
        · simp only [List.mem_append, List.mem_cons, ih, other, false_or]
          simp
        · simp

theorem dropNameless_cases {parts : List (List Char)} (nonempty : parts ≠ []) :
    ∃ nameless segment others, parts = nameless ++ segment :: others ∧
      (∀ part ∈ nameless, IsNameless part) ∧ dropNameless parts = segment :: others ∧
      (IsNameless segment → others = []) := by
  induction parts with
  | nil => exact absurd rfl nonempty
  | cons segment others ih =>
      rcases others with _ | ⟨next, more⟩
      · exact ⟨[], segment, [], rfl, by simp, rfl, fun _ => rfl⟩
      · by_cases nameless : IsNameless segment
        · rcases ih (by simp) with ⟨dropped, kept, rest, parts, areNameless, isRest, alone⟩
          refine ⟨segment :: dropped, kept, rest, by rw [parts]; rfl, ?_, ?_, alone⟩
          · simpa [nameless] using areNameless
          · rw [dropNameless]
            · exact (if_pos nameless).trans isRest
            · simp
        · refine ⟨[], segment, next :: more, rfl, by simp, ?_, fun isNameless =>
            absurd isNameless nameless⟩
          rw [dropNameless]
          · exact if_neg nameless
          · simp

theorem getLast?_unsegment (front : List (List Char)) {last : List Char} (nonempty : last ≠ [])
    (noSlash : '/' ∉ last) :
    ∃ character, (unsegment (front ++ [last])).getLast? = some character ∧ character ≠ '/' := by
  rcases ends : last.getLast? with _ | character
  · exact absurd (List.getLast?_eq_none_iff.mp ends) nonempty
  refine ⟨character, ?_, ?_⟩
  · rcases front with _ | ⟨segment, others⟩
    · exact ends
    · rw [unsegment_append (by simp)]
      exact getLast?_append_of_some (by simp [List.getLast?_cons, ends])
  · rintro rfl
    exact noSlash (List.mem_of_getLast? ends)

theorem segments_join_parent {path name : String} {before : List (List Char)} {last : List Char}
    (parts : segments path.toList = before ++ [last]) (named : ¬IsNameless last)
    (noSlash : '/' ∉ name.toList) :
    ∃ front nameless, before = front ++ nameless ∧ (∀ part ∈ nameless, IsNameless part) ∧
      (front = [] → nameless = []) ∧
      segments (join ((parent path).getD ".") name).toList = front ++ [name.toList] := by
  have alone := segments_of_notMem noSlash
  have relative := isAbsolute_of_notMem noSlash
  rcases reversed : before.reverse with _ | ⟨next, more⟩
  · obtain rfl : before = [] := by simpa using reversed
    have isParent : parent path = some "" := by
      have nonempty : last ≠ [] := fun isEmpty => named (Or.inl isEmpty)
      simp [parent, parts, dropNameless, nonempty]
    refine ⟨[], [], rfl, by simp, fun _ => rfl, ?_⟩
    simp [isParent, join, relative, alone]
  rcases dropNameless_cases (List.cons_ne_nil next more) with
    ⟨nameless, segment, others, isRest, areNameless, dropped, single⟩
  have isBefore : before = (segment :: others).reverse ++ nameless.reverse := by
    rw [← List.reverse_append, ← isRest, ← reversed, List.reverse_reverse]
  have kept : dropNameless (last :: next :: more) = last :: next :: more := by
    rw [dropNameless]
    · exact if_neg named
    · simp
  have noSlashes : ∀ part ∈ segment :: others, '/' ∉ part := by
    intro part member
    have isSegment : part ∈ segments path.toList := by
      rw [parts, isBefore]
      simp only [List.mem_append, List.mem_reverse]
      exact Or.inl (Or.inl member)
    exact slash_notMem_of_mem_segments isSegment
  refine ⟨(segment :: others).reverse, nameless.reverse, isBefore, by simpa using areNameless,
    by simp, ?_⟩
  by_cases isRoot : segment = []
  · obtain rfl := single (Or.inl isRoot)
    have isParent : parent path = some "/" := by
      simp [parent, parts, reversed, kept, dropped, isRoot]
    rw [isParent]
    simp only [join, relative, Option.getD_some]
    change segments ("/" ++ name).toList = _
    rw [String.toList_append]
    change segments ([] ++ '/' :: name.toList) = _
    rw [segments_append, alone, isRoot]
    rfl
  · have isParent : parent path =
        some (String.ofList (unsegment (segment :: others).reverse)) := by
      simp only [parent, parts, List.reverse_append, List.reverse_singleton, List.singleton_append,
        reversed, kept, dropped]
      split
      case h_1 same => exact absurd (List.cons.inj same).1 isRoot
      case h_2 => rfl
    rcases getLast?_unsegment others.reverse isRoot (noSlashes _ List.mem_cons_self) with
      ⟨character, ends, other⟩
    rw [← List.reverse_cons] at ends
    have joined : (join ((parent path).getD ".") name).toList =
        unsegment (segment :: others).reverse ++ '/' :: name.toList := by
      simp only [isParent, Option.getD_some, join, relative, Bool.false_eq_true, if_false,
        String.toList_ofList, ends]
      rw [String.toList_append, String.toList_append, String.toList_ofList, List.append_assoc]
      rfl
    rw [joined, segments_append, alone, segments_unsegment (by simp)]
    intro part member
    exact noSlashes part (List.mem_reverse.mp member)

end Path

/-! ## Ways -/

theorem ofSegments_append (front : List (List Char)) :
    ∃ components, (∀ back, back ≠ [] →
        Component.ofSegments (front ++ back) = components ++ Component.ofSegments back) ∧
      ((∀ part ∈ front, Path.IsNameless part) → ∀ component ∈ components, component = .here) := by
  induction front with
  | nil => exact ⟨[], fun back _ => rfl, by simp⟩
  | cons segment others ih =>
      rcases ih with ⟨components, rest, heres⟩
      have later : (∀ part ∈ segment :: others, Path.IsNameless part) →
          ∀ component ∈ components, component = .here :=
        fun nameless => heres fun part member => nameless part (List.mem_cons_of_mem _ member)
      by_cases isEmpty : segment = []
      · refine ⟨components, fun back nonempty => ?_, later⟩
        rw [isEmpty, List.cons_append, Component.ofSegments]
        · exact rest back nonempty
        · intro same
          exact nonempty (List.append_eq_nil_iff.mp same).2
      by_cases isDot : segment = ['.']
      · refine ⟨.here :: components, fun back nonempty => ?_, fun nameless => ?_⟩
        · rw [isDot, List.cons_append, Component.ofSegments, rest back nonempty]
          rfl
        · simpa using later nameless
      have named : ¬∀ part ∈ segment :: others, Path.IsNameless part :=
        fun nameless => (nameless segment List.mem_cons_self).elim isEmpty isDot
      by_cases isUp : segment = ['.', '.']
      · refine ⟨.up :: components, fun back nonempty => ?_, fun nameless => absurd nameless named⟩
        rw [isUp, List.cons_append, Component.ofSegments, rest back nonempty]
        rfl
      · refine ⟨.name (String.ofList segment) :: components, fun back nonempty => ?_,
          fun nameless => absurd nameless named⟩
        rw [List.cons_append, Component.ofSegments, rest back nonempty]
        · rfl
        · exact fun same => absurd same isEmpty
        · exact isEmpty
        · exact isDot
        · exact isUp

theorem ofSegments_of_length {segment : List Char} (long : 2 < segment.length) :
    Component.ofSegments [segment] = [.name (String.ofList segment)] := by
  have different : ∀ short : List Char, short.length ≤ 2 → segment ≠ short := by
    rintro _ less rfl
    omega
  rw [Component.ofSegments]
  · rfl
  · exact fun same => absurd same (different [] (by decide))
  · exact different [] (by decide)
  · exact different ['.'] (by decide)
  · exact different ['.', '.'] (by decide)

section Walk

variable {files : FileSystem} {expand : FileId → List Component → Except Errno Place}
  {directory current : FileId} {first second text : String} {child : Option FileId}
  {heres others : List Component}

theorem walkWith_heres {entries : List (String × FileId)} {parent : FileId}
    (isHere : ∀ component ∈ heres, component = .here)
    (listed : files.directory? current = some (entries, parent)) (rest : List Component) :
    files.walkWith expand false current (heres ++ rest) =
      files.walkWith expand false current rest := by
  induction heres with
  | nil => rfl
  | cons component others ih =>
      obtain rfl : component = .here := isHere component List.mem_cons_self
      rw [List.cons_append, walkWith, listed]
      exact ih fun component member => isHere component (List.mem_cons_of_mem _ member)

/-- Two ways that part at their last names end at entries of one directory. A name at the end of a
way is at most `nameLimit` long, or it would lead nowhere. -/
theorem walkWith_sibling (isHere : ∀ component ∈ heres, component = .here)
    (isHereToo : ∀ component ∈ others, component = .here)
    (expandSibling : ∀ start rest,
      expand start (rest ++ (heres ++ [.name first])) = .ok (.entry directory text child) →
        first.utf8ByteSize ≤ nameLimit ∧ (second.utf8ByteSize ≤ nameLimit →
          expand start (rest ++ (others ++ [.name second])) =
            .ok (.entry directory second (files.child? directory second))))
    (front : List Component)
    (located : files.walkWith expand false current (front ++ (heres ++ [.name first])) =
      .ok (.entry directory text child)) :
    first.utf8ByteSize ≤ nameLimit ∧ (second.utf8ByteSize ≤ nameLimit →
      files.walkWith expand false current (front ++ (others ++ [.name second])) =
        .ok (.entry directory second (files.child? directory second))) := by
  induction front generalizing current with
  | nil =>
      rw [List.nil_append] at located ⊢
      rcases listed : files.directory? current with _ | ⟨entries, parent⟩
      · rcases heres with _ | ⟨component, more⟩
        · simp [walkWith, listed] at located
        · simp [walkWith, listed] at located
      rw [walkWith_heres isHere listed, walkWith, listed] at located
      rw [walkWith_heres isHereToo listed, walkWith, listed]
      simp only [List.isEmpty_nil, if_true, Bool.not_false, Bool.and_true] at located ⊢
      split at located
      · simp at located
      case isFalse fits =>
      refine ⟨Nat.not_lt.mp fits, fun short => ?_⟩
      rw [if_neg (Nat.not_lt.mpr short)]
      obtain rfl : current = directory := by
        split at located
        · cases located
          rfl
        · cases located
          rfl
      rcases found : entries.lookup second with _ | other
      · simp [child?, listed, found]
      · simp [child?, listed, found]
  | cons component rest ih =>
      rw [List.cons_append, walkWith] at located ⊢
      split at located
      · simp at located
      case h_2 entries parent listed =>
        cases component with
        | here => exact ih located
        | up => exact ih located
        | name name =>
            have more : (rest ++ (heres ++ [Component.name first])).isEmpty = false := by simp
            have goesOn : (rest ++ (others ++ [Component.name second])).isEmpty = false := by simp
            simp only [more, goesOn, Bool.false_eq_true, if_false, Bool.false_and] at located ⊢
            split at located
            · simp at located
            case isFalse fits =>
            rw [if_neg fits]
            split at located
            · simp at located
            case h_2 found isFound =>
              split at located
              case h_1 target isLink =>
                rw [← List.append_assoc] at located ⊢
                exact expandSibling _ _ located
              case h_2 noLink => exact ih located

theorem walk_sibling (second : String) (isHere : ∀ component ∈ heres, component = .here)
    (isHereToo : ∀ component ∈ others, component = .here) (limit : Nat) (front : List Component)
    (located : files.walk false limit current (front ++ (heres ++ [.name first])) =
      .ok (.entry directory text child)) :
    first.utf8ByteSize ≤ nameLimit ∧ (second.utf8ByteSize ≤ nameLimit →
      files.walk false limit current (front ++ (others ++ [.name second])) =
        .ok (.entry directory second (files.child? directory second))) := by
  induction limit generalizing current front with
  | zero =>
      exact walkWith_sibling isHere isHereToo (fun _ _ failed => by simp at failed) front located
  | succ limit ih => exact walkWith_sibling isHere isHereToo (fun _ rest => ih rest) front located

end Walk

/-! ## Locks -/

theorem exists_segments_of_fileName {path name : String} (named : Path.fileName path = some name) :
    ∃ before last, Path.segments path.toList = before ++ [last] ∧
      (last = name.toList ∨ Path.IsNameless last) := by
  have nonempty : (Path.segments path.toList).reverse ≠ [] := by simp [Path.segments_ne_nil]
  rcases Path.dropNameless_cases nonempty with
    ⟨nameless, segment, others, parts, areNameless, dropped, _⟩
  rw [List.reverse_eq_iff] at parts
  rcases nameless with _ | ⟨last, more⟩
  · refine ⟨others.reverse, segment, by simpa using parts, Or.inl ?_⟩
    simp only [Path.fileName, dropped] at named
    split at named
    · simp at named
    · rw [← Option.some.inj named, String.toList_ofList]
  · refine ⟨(more ++ segment :: others).reverse, last, by simpa using parts, Or.inr ?_⟩
    exact areNameless last List.mem_cons_self

theorem accepted_of_lockPath {settings : MailSettings} {mail : Option String}
    {user lock : String} (isLock : settings.lockPath mail user = .ok lock) :
    isEntryName user = true ∧ user.utf8ByteSize + lockSuffix.utf8ByteSize ≤ lockNameLimit := by
  unfold MailSettings.lockPath at isLock
  split at isLock
  · simp at isLock
  case isFalse entry =>
  split at isLock
  · simp at isLock
  case isFalse fits => exact ⟨by simpa using entry, Nat.not_lt.mp fits⟩

/-- The last of the `segments` of `lockPath` is the suffix of locks behind the name of the user, or
behind a segment that names nothing. It is short and has no NUL character. -/
theorem exists_segments_lockPath {settings : MailSettings} {mail : Option String}
    {user lock : String} (isLock : settings.lockPath mail user = .ok lock) :
    ∃ before last, Path.segments lock.toList = before ++ [last ++ lockSuffix.toList] ∧
      (String.ofList (last ++ lockSuffix.toList)).utf8ByteSize ≤ nameLimit ∧
      '\x00' ∉ last := by
  rcases accepted_of_lockPath isLock with ⟨entry, fits⟩
  simp only [isEntryName, Bool.and_eq_true, Bool.not_eq_true', List.contains_eq_mem,
    decide_eq_false_iff_not] at entry
  obtain ⟨before, last, parts, isLast⟩ : ∃ before last,
      Path.segments ((mail.filter fun mailbox =>
        settings.honorMail && Path.fileName mailbox == some user).getD
          (settings.spoolPath user)).toList = before ++ [last] ∧
      (last = user.toList ∨ Path.IsNameless last) := by
    rcases honored : mail.filter fun mailbox =>
      settings.honorMail && Path.fileName mailbox == some user with _ | mailbox
    · rcases Path.segments_join settings.spoolDirectory entry.1.2 with ⟨front, parts⟩
      exact ⟨front, user.toList, parts, Or.inl rfl⟩
    · have named : Path.fileName mailbox = some user :=
        eq_of_beq (Bool.and_eq_true_iff.mp (Option.filter_eq_some_iff.mp honored).2).2
      exact exists_segments_of_fileName named
  refine ⟨before, last, ?_, ?_, ?_⟩
  · rw [eq_of_lockPath isLock, String.toList_append]
    exact Path.segments_append_of_notMem parts (by decide)
  · rw [String.ofList_append, String.utf8ByteSize_append, String.ofList_toList]
    rcases isLast with rfl | rfl | rfl
    · rwa [String.ofList_toList]
    · decide
    · decide
  · rcases isLast with rfl | rfl | rfl
    · exact entry.2
    · decide
    · decide

theorem slash_notMem_toDigits {base : Nat} (large : 1 < base) (number : Nat) :
    '/' ∉ Nat.toDigits base number := by
  induction number using Nat.strongRecOn with
  | ind number ih =>
      rw [Nat.toDigits_eq_if large]
      split
      case isTrue => simp
      case isFalse more =>
        have rest := ih (number / base) (Nat.div_lt_self (by omega) large)
        simp [rest]

theorem slash_notMem_temporaryName (process : ProcessId) (tag : Nat) :
    '/' ∉ (temporaryName process tag).toList := by
  simp only [temporaryName, padded, String.toList_append, String.toList_ofList, List.mem_append,
    List.mem_replicate, not_or]
  exact ⟨by decide, ⟨by simp, slash_notMem_toDigits (by decide) _⟩, by simp,
    slash_notMem_toDigits (by decide) _⟩

theorem exists_segments_temporaryPath {settings : MailSettings} {mail : Option String}
    {user lock : String} (isLock : settings.lockPath mail user = .ok lock) (process : ProcessId)
    (tag : Nat) :
    ∃ front nameless last, Path.segments lock.toList = front ++ nameless ++ [last] ∧
      Path.segments (temporaryPath lock process tag).toList =
        front ++ [(temporaryName process tag).toList] ∧
      (∀ part ∈ nameless, Path.IsNameless part) ∧ (front = [] → nameless = []) ∧
      (String.ofList last).utf8ByteSize ≤ nameLimit ∧ '\x00' ∉ last ∧ 2 < last.length := by
  rcases exists_segments_lockPath isLock with ⟨before, last, parts, short, writable⟩
  have long : 2 < (last ++ lockSuffix.toList).length := by
    have suffix : lockSuffix.toList.length = 5 := rfl
    rw [List.length_append]
    omega
  have named : ¬Path.IsNameless (last ++ lockSuffix.toList) := by
    rintro (same | same)
    · simp [same] at long
    · simp [same] at long
  rcases Path.segments_join_parent parts named (slash_notMem_temporaryName process tag) with
    ⟨front, nameless, isBefore, areNameless, alone, temporaryParts⟩
  refine ⟨front, nameless, last ++ lockSuffix.toList, by rw [parts, isBefore], temporaryParts,
    areNameless, alone, short, ?_, long⟩
  simp only [List.mem_append, not_or]
  exact ⟨writable, by decide⟩

section Lock

variable {settings : MailSettings} {mail : Option String} {user lock : String}
  {process : ProcessId} {tag : Nat}

/-- If `temporaryPath` can be given to a call, `lockPath` can be. -/
theorem isWritable_of_temporaryPath (isLock : settings.lockPath mail user = .ok lock)
    (writable : Host.IsWritable (temporaryPath lock process tag)) : Host.IsWritable lock := by
  rcases exists_segments_temporaryPath isLock process tag with
    ⟨front, nameless, last, parts, temporaryParts, areNameless, _, _, noNul, _⟩
  simp only [Host.IsWritable, List.contains_eq_mem, decide_eq_false_iff_not] at writable ⊢
  rw [← Path.unsegment_segments lock.toList, parts, Path.mem_unsegment_iff (by decide)]
  rw [← Path.unsegment_segments (String.toList _), temporaryParts,
    Path.mem_unsegment_iff (by decide)] at writable
  rintro ⟨part, member, held⟩
  simp only [List.mem_append, List.mem_singleton] at member
  rcases member with (before | isNameless) | rfl
  · exact writable ⟨part, by simp [before], held⟩
  · rcases areNameless part isNameless with rfl | rfl
    · simp at held
    · exact absurd held (by decide)
  · exact noNul held

theorem isAbsolute_temporaryPath (isLock : settings.lockPath mail user = .ok lock)
    (process : ProcessId) (tag : Nat) :
    Path.isAbsolute (temporaryPath lock process tag) = Path.isAbsolute lock := by
  rcases exists_segments_temporaryPath isLock process tag with
    ⟨front, nameless, last, parts, temporaryParts, _, alone, _⟩
  rw [Bool.eq_iff_iff]
  rcases front with _ | ⟨segment, others⟩
  · rw [alone rfl] at parts
    rw [Path.isAbsolute_iff parts, Path.isAbsolute_iff temporaryParts]
    simp
  · rw [Path.isAbsolute_iff parts, Path.isAbsolute_iff temporaryParts]
    simp

theorem exists_ofPath_temporaryPath (isLock : settings.lockPath mail user = .ok lock)
    (process : ProcessId) (tag : Nat) :
    ∃ components heres text, Component.ofPath lock = components ++ (heres ++ [.name text]) ∧
      Component.ofPath (temporaryPath lock process tag) =
        components ++ ([] ++ [.name (temporaryName process tag)]) ∧
      (∀ component ∈ heres, component = .here) ∧ text.utf8ByteSize ≤ nameLimit := by
  rcases exists_segments_temporaryPath isLock process tag with
    ⟨front, nameless, last, parts, temporaryParts, areNameless, _, fits, _, long⟩
  rcases ofSegments_append front with ⟨components, way, _⟩
  rcases ofSegments_append nameless with ⟨heres, noWay, isHere⟩
  have marked : 2 < (temporaryName process tag).toList.length := by
    have mark : (".lk" : String).toList.length = 3 := rfl
    rw [temporaryName, String.toList_append, List.length_append]
    omega
  refine ⟨components, heres, String.ofList last, ?_, ?_, isHere areNameless, fits⟩
  · rw [Component.ofPath, parts, List.append_assoc, way _ (by simp), noWay _ (by simp),
      ofSegments_of_length long]
  · rw [Component.ofPath, temporaryParts, way _ (by simp), ofSegments_of_length marked,
      String.ofList_toList]
    rfl

variable {files : FileSystem} {directory : FileId} {name : String} {child : Option FileId}

theorem locate_eq_walk {path : String} {place : Place}
    (located : files.locate false path = .ok place) :
    path.isEmpty = false ∧ path.utf8ByteSize < pathLimit ∧
      files.walk false linkLimit (start files.working path) (Component.ofPath path) =
        .ok place := by
  unfold locate at located
  split at located
  · simp at located
  case isFalse nonempty =>
  split at located
  · simp at located
  case isFalse short =>
    exact ⟨by simpa using nonempty, Nat.not_le.mp short, located⟩

/-- Where `temporaryPath` leads to an entry, `lockPath` leads to an entry of the same directory, if
it is within `pathLimit`. -/
theorem exists_locate_lock (isLock : settings.lockPath mail user = .ok lock)
    (short : lock.utf8ByteSize < pathLimit)
    (located : files.locate false (temporaryPath lock process tag) =
      .ok (.entry directory name child)) :
    ∃ text, files.locate false lock =
      .ok (.entry directory text (files.child? directory text)) := by
  rcases exists_ofPath_temporaryPath isLock process tag with
    ⟨components, heres, text, toLock, toTemporary, isHere, fits⟩
  rcases locate_eq_walk located with ⟨_, _, walked⟩
  have nonempty : ¬lock.isEmpty = true := by
    intro isEmpty
    have suffix := getLast?_lockPath isLock
    rw [String.isEmpty_iff.mp isEmpty] at suffix
    simp at suffix
  refine ⟨text, ?_⟩
  unfold locate start
  unfold start at walked
  rw [if_neg nonempty, if_neg (Nat.not_le.mpr short), toLock,
    ← isAbsolute_temporaryPath isLock process tag]
  rw [toTemporary] at walked
  exact (walk_sibling text (by simp) isHere linkLimit components walked).2 fits

/-- If `temporaryPath` has led to an entry, it leads to one again as long as `lockPath` does, and
that in the same directory. -/
theorem locate_temporary {before : FileSystem} {folder : FileId} {text : String}
    {file : Option FileId} (isLock : settings.lockPath mail user = .ok lock)
    (wasLocated : before.locate false (temporaryPath lock process tag) =
      .ok (.entry directory name child))
    (located : files.locate false lock = .ok (.entry folder text file)) :
    files.locate false (temporaryPath lock process tag) =
      .ok (.entry folder name (files.child? folder name)) := by
  rcases exists_ofPath_temporaryPath isLock process tag with
    ⟨components, heres, last, toLock, toTemporary, isHere, _⟩
  rcases locate_eq_walk wasLocated with ⟨nonempty, short, wasWalked⟩
  rcases locate_eq_walk located with ⟨_, _, walked⟩
  obtain rfl : temporaryName process tag = name := by
    have ends := walk_name wasWalked
    rw [toTemporary] at ends
    simpa using ends
  rw [toTemporary] at wasWalked
  have noHeres : ∀ component ∈ ([] : List Component), component = .here := by simp
  have fits := (walk_sibling "" noHeres noHeres linkLimit components wasWalked).1
  unfold locate start
  unfold start at walked
  rw [if_neg (by simp [nonempty]), if_neg (Nat.not_le.mpr short), toTemporary,
    isAbsolute_temporaryPath isLock process tag]
  rw [toLock] at walked
  exact (walk_sibling _ isHere noHeres linkLimit components walked).2 fits

end Lock

end MailSpool
