import MailSpool.Proofs.Dotlock.Siblings

/-!
# The names and directories of locks

Two texts are one path when their components are the same: slashes at the end, doubled ones and
inner dots do not matter. A name that is joined to a directory becomes one more component, so the
lock of a user is the entry of the spool with the name of the user and the suffix, by
`lockPath_names_user`.

Where `$MAIL` is honored, the suffix is put behind its text. This makes the entry next to the
mailbox out of it as long as the text ends with the name of the user. When it ends with a slash or
with a dot instead, the suffix makes a name of its own: `/m/u/` has its lock at `/m/u/.lock`, and
`/m/u/.` at `/m/u/..lock`, which is also the lock of the user `.` of the spool `/m/u`.
-/

namespace MailSpool

namespace Path

instance (segment : List Char) : Decidable (IsNameless segment) :=
  inferInstanceAs (Decidable (segment = [] ∨ segment = ['.']))

/-- Segments without those behind the first one that name nothing. -/
def compress : List (List Char) → List (List Char)
  | [] => []
  | first :: others => first :: others.filter fun segment => ¬IsNameless segment

/-- The components of a path. The first one tells the root, or the dot that a path starts with. -/
def components (path : String) : List (List Char) :=
  if path.isEmpty then [] else compress (segments path.toList)

/-- A path is that of an entry of a directory: its last component is the name of the entry, and
those before are the ones of the directory. -/
def IsEntryOf (path directory name : String) : Prop :=
  components path = components directory ++ [name.toList]

/-- A name is what stands behind the last slash of a path. -/
def EndsIn (path name : String) : Prop :=
  (segments path.toList).getLast? = some name.toList

instance (path name : String) : Decidable (EndsIn path name) :=
  inferInstanceAs (Decidable (_ = _))

theorem compress_append_of_named (front : List (List Char)) {last : List Char}
    (named : ¬IsNameless last) : compress (front ++ [last]) = compress front ++ [last] := by
  rcases front with _ | ⟨first, others⟩
  · rfl
  · simp [compress, named]

theorem compress_append_of_nameless {front nameless : List (List Char)} (nonempty : front ≠ [])
    (areNameless : ∀ part ∈ nameless, IsNameless part) :
    compress (front ++ nameless) = compress front := by
  rcases front with _ | ⟨first, others⟩
  · exact absurd rfl nonempty
  · simpa [compress] using areNameless

theorem dropNameless_cons_of_named {last : List Char} (named : ¬IsNameless last)
    (others : List (List Char)) : dropNameless (last :: others) = last :: others := by
  rcases others with _ | ⟨next, more⟩
  · rfl
  · rw [dropNameless]
    · exact if_neg named
    · simp

section Segments

variable {path : String} {front : List (List Char)} {last : List Char}

theorem components_of_segments (parts : segments path.toList = front ++ [last])
    (named : ¬IsNameless last) : components path = compress front ++ [last] := by
  have nonempty : ¬path.isEmpty = true := by
    intro isEmpty
    rw [String.isEmpty_iff.mp isEmpty] at parts
    have alone : [[]] = front ++ [last] := parts
    rw [List.singleton_eq_append_iff] at alone
    simp only [List.cons.injEq, and_true, reduceCtorEq, and_false, or_false] at alone
    exact named (Or.inl alone.2)
  rw [components, if_neg nonempty, parts, compress_append_of_named front named]

theorem fileName_of_segments (parts : segments path.toList = front ++ [last])
    (named : ¬IsNameless last) (notUp : last ≠ ['.', '.']) :
    fileName path = some (String.ofList last) := by
  have isName : ¬(last = [] ∨ last = ['.'] ∨ last = ['.', '.']) := by
    rw [← or_assoc]
    exact not_or.mpr ⟨named, notUp⟩
  simp only [fileName, parts, List.reverse_append, List.reverse_singleton, List.singleton_append,
    dropNameless_cons_of_named named, if_neg isName]

end Segments

theorem named_of_fileName {path name : String} (named : fileName path = some name) :
    ¬IsNameless name.toList ∧ name.toList ≠ ['.', '.'] := by
  unfold fileName at named
  split at named
  · simp at named
  case h_2 segment _ _ =>
  split at named
  · simp at named
  case isFalse isName =>
    rw [← Option.some.inj named, String.toList_ofList]
    rw [← or_assoc] at isName
    exact not_or.mp isName

theorem isEntryOf_join (directory : String) {name : String} (noSlash : '/' ∉ name.toList)
    (named : ¬IsNameless name.toList) : IsEntryOf (join directory name) directory name := by
  have relative := isAbsolute_of_notMem noSlash
  have alone := segments_of_notMem noSlash
  unfold IsEntryOf
  rcases written : directory.toList.getLast? with _ | last
  · obtain rfl : directory = "" :=
      String.toList_eq_nil_iff.mp (List.getLast?_eq_none_iff.mp written)
    have joined : join "" name = name := by simp [join, relative]
    have single : segments name.toList = [] ++ [name.toList] := alone
    rw [joined, components_of_segments single named]
    rfl
  have nonempty : ¬directory.isEmpty = true := by
    intro isEmpty
    simp [String.isEmpty_iff.mp isEmpty] at written
  by_cases isSlash : last = '/'
  · subst isSlash
    rcases List.getLast?_eq_some_iff.mp written with ⟨front, whole⟩
    have joined : segments (join directory name).toList = segments front ++ [name.toList] := by
      simp only [join, relative, Bool.false_eq_true, if_false, written]
      rw [String.toList_append, whole, List.append_assoc, List.singleton_append, segments_append,
        alone]
    rw [components_of_segments joined named, components, if_neg nonempty, whole, segments_append,
      compress_append_of_nameless (segments_ne_nil front)]
    simp [segments, IsNameless]
  · have joined : segments (join directory name).toList =
        segments directory.toList ++ [name.toList] := by
      simp only [join, relative, Bool.false_eq_true, if_false, written]
      rw [String.toList_append, String.toList_append, List.append_assoc]
      change segments (_ ++ '/' :: name.toList) = _
      rw [segments_append, alone]
    rw [components_of_segments joined named, components, if_neg nonempty]

theorem exists_parent_of_segments {path : String} {front : List (List Char)} {last : List Char}
    (parts : segments path.toList = front ++ [last]) (named : ¬IsNameless last) :
    ∃ directory, parent path = some directory ∧ components directory = compress front := by
  have noSlash : '/' ∉ (String.ofList last).toList := by
    rw [String.toList_ofList]
    exact slash_notMem_of_mem_segments (by rw [parts]; simp)
  rcases segments_join_parent parts named noSlash with
    ⟨kept, nameless, isFront, areNameless, alone, joined⟩
  have sameFront : compress front = compress kept := by
    rw [isFront]
    by_cases isEmpty : kept = []
    · rw [alone isEmpty, List.append_nil]
    · exact compress_append_of_nameless isEmpty areNameless
  obtain ⟨directory, isParent⟩ : ∃ directory, parent path = some directory := by
    have notEmpty : last ≠ [] := fun isEmpty => named (Or.inl isEmpty)
    simp only [parent, parts, List.reverse_append, List.reverse_singleton, List.singleton_append,
      dropNameless_cons_of_named named]
    rcases front.reverse with _ | ⟨next, others⟩
    · simp [notEmpty]
    · dsimp only
      split
      · exact ⟨_, rfl⟩
      · exact ⟨_, rfl⟩
  rw [isParent, Option.getD_some] at joined
  have entry : IsEntryOf (join directory (String.ofList last)) directory (String.ofList last) :=
    isEntryOf_join directory noSlash (by rwa [String.toList_ofList])
  rw [IsEntryOf, components_of_segments joined (by rwa [String.toList_ofList])] at entry
  refine ⟨directory, isParent, ?_⟩
  rw [sameFront]
  exact (List.append_cancel_right entry).symm

theorem named_append_lockSuffix (segment : List Char) :
    ¬IsNameless (segment ++ lockSuffix.toList) ∧ segment ++ lockSuffix.toList ≠ ['.', '.'] := by
  have long : 2 < (segment ++ lockSuffix.toList).length := by
    have suffix : lockSuffix.toList.length = 5 := rfl
    rw [List.length_append]
    omega
  refine ⟨?_, ?_⟩
  · rintro (same | same)
    · simp [same] at long
    · simp [same] at long
  · intro same
    simp [same] at long

theorem endsIn_join (directory : String) {name : String} (noSlash : '/' ∉ name.toList) :
    EndsIn (join directory name) name := by
  rcases segments_join directory noSlash with ⟨front, parts⟩
  rw [EndsIn, parts, List.getLast?_concat]

end Path

theorem FileSystem.name_eq_of_endsIn {files : FileSystem} {path name text : String}
    {directory : FileId} {child : Option FileId} (ends : Path.EndsIn path name)
    (located : files.locate false path = .ok (.entry directory text child)) : text = name := by
  rcases locate_eq_walk located with ⟨_, _, walked⟩
  have last := (getLast?_ofSegments (walk_name walked)).1
  exact String.toList_inj.mp (Option.some.inj (last.symm.trans ends))

/-- A path that `EndsIn` a name leads to an entry of this name, if it leads anywhere. -/
theorem FileSystem.entry_of_endsIn {files : FileSystem} {path name : String} {place : Place}
    (ends : Path.EndsIn path name) (named : ¬Path.IsNameless name.toList)
    (notUp : name.toList ≠ ['.', '.']) (located : files.locate false path = .ok place) :
    ∃ directory child, place = .entry directory name child := by
  rcases place with ⟨directory, text, child⟩ | id
  · exact ⟨directory, child, by rw [name_eq_of_endsIn ends located]⟩
  · have isName := getLast?_ofSegments_of_name ends (fun isEmpty => named (Or.inl isEmpty))
      (fun isDot => named (Or.inr isDot)) notUp
    exact absurd isName (walk_directory (locate_eq_walk located).2.2)

/-! ## The lock of a user -/

namespace MailSettings

/-- `$MAIL` is honored, and names a mailbox of the user by its `fileName`. -/
structure Honors (settings : MailSettings) (mail : Option String) (user mailbox : String) :
    Prop where
  given : mail = some mailbox
  honored : settings.honorMail = true
  named : Path.fileName mailbox = some user

/-- The mailbox of the user that `$MAIL` names has more than the name at the end of its text. -/
def Strays (settings : MailSettings) (mail : Option String) (user : String) : Prop :=
  ∃ mailbox, settings.Honors mail user mailbox ∧ ¬Path.EndsIn mailbox user

variable {settings : MailSettings} {mail : Option String} {user path mailbox : String}

theorem isEntryName_iff {name : String} :
    isEntryName name = true ↔ name ≠ "" ∧ '/' ∉ name.toList ∧ '\x00' ∉ name.toList := by
  simp [isEntryName, and_assoc]

theorem slash_notMem_of_lockPath (found : settings.lockPath mail user = .ok path) :
    '/' ∉ (user ++ lockSuffix).toList := by
  rw [String.toList_append, List.mem_append]
  exact not_or.mpr ⟨(isEntryName_iff.mp (accepted_of_lockPath found).1).2.1, by decide⟩

theorem exists_lockPath_iff : (∃ path, settings.lockPath mail user = .ok path) ↔
    user ≠ "" ∧ '/' ∉ user.toList ∧ '\x00' ∉ user.toList ∧ user.utf8ByteSize ≤ 250 := by
  have limit : lockNameLimit = 250 + lockSuffix.utf8ByteSize := by decide
  have short : user.utf8ByteSize + lockSuffix.utf8ByteSize ≤ lockNameLimit ↔
      user.utf8ByteSize ≤ 250 := by
    rw [limit]
    exact Nat.add_le_add_iff_right
  rw [← short, ← and_assoc, ← and_assoc, and_assoc (a := user ≠ ""), ← isEntryName_iff]
  constructor
  · rintro ⟨path, found⟩
    exact accepted_of_lockPath found
  · rintro ⟨entry, fits⟩
    unfold lockPath
    rw [if_neg (by simp [entry]), if_neg (Nat.not_lt.mpr fits)]
    split
    · exact ⟨_, rfl⟩
    · exact ⟨_, rfl⟩

/-- The path of a lock is that of the mailbox with `lockSuffix` behind it: of the one that `$MAIL`
names if the settings say `Honors`, and of the one in the spool otherwise. -/
theorem lockPath_cases (found : settings.lockPath mail user = .ok path) :
    (∃ mailbox, settings.Honors mail user mailbox ∧ path = mailbox ++ lockSuffix) ∨
      (∀ mailbox, ¬settings.Honors mail user mailbox) ∧
        path = Path.join settings.spoolDirectory (user ++ lockSuffix) := by
  have isPath := eq_of_lockPath found
  rcases honored : mail.filter fun mailbox =>
    settings.honorMail && Path.fileName mailbox == some user with _ | mailbox
  · refine Or.inr ⟨?_, ?_⟩
    · rintro mailbox ⟨rfl, isHonored, named⟩
      simp [isHonored, named] at honored
    · rw [honored, Option.getD_none, spoolPath,
        ← Path.join_append _ _ (accepted_of_lockPath found).1] at isPath
      exact isPath
  · rcases Option.filter_eq_some_iff.mp honored with ⟨given, accepted⟩
    rw [Bool.and_eq_true, beq_iff_eq] at accepted
    refine Or.inl ⟨mailbox, ⟨given, accepted.1, accepted.2⟩, ?_⟩
    rw [honored, Option.getD_some] at isPath
    exact isPath

/-- Where `$MAIL` does not matter, the lock `IsEntryOf` the spool. -/
theorem isEntryOf_spool (found : settings.lockPath mail user = .ok path)
    (unhonored : ∀ mailbox, ¬settings.Honors mail user mailbox) :
    Path.IsEntryOf path settings.spoolDirectory (user ++ lockSuffix) := by
  rcases lockPath_cases found with ⟨mailbox, honors, _⟩ | ⟨_, rfl⟩
  · exact absurd honors (unhonored mailbox)
  apply Path.isEntryOf_join _ (slash_notMem_of_lockPath found)
  rw [String.toList_append]
  exact (Path.named_append_lockSuffix _).1

theorem segments_append_lockSuffix {front : List (List Char)} {last : List Char}
    (parts : Path.segments mailbox.toList = front ++ [last]) :
    Path.segments (mailbox ++ lockSuffix).toList = front ++ [last ++ lockSuffix.toList] := by
  rw [String.toList_append]
  exact Path.segments_append_of_notMem parts (by decide)

/-- Where `$MAIL` names the mailbox and `EndsIn` the name of the user, mailbox and lock are entries
of one directory, its `parent`. -/
theorem isEntryOf_parent (found : settings.lockPath mail user = .ok path)
    (honors : settings.Honors mail user mailbox) (ends : Path.EndsIn mailbox user) :
    ∃ directory, Path.parent mailbox = some directory ∧ Path.IsEntryOf mailbox directory user ∧
      Path.IsEntryOf path directory (user ++ lockSuffix) := by
  have named := (Path.named_of_fileName honors.named).1
  rcases List.getLast?_eq_some_iff.mp ends with ⟨front, parts⟩
  rcases Path.exists_parent_of_segments parts named with ⟨directory, isParent, sameFront⟩
  obtain rfl : path = mailbox ++ lockSuffix := by
    rcases lockPath_cases found with ⟨other, honored, isPath⟩ | ⟨unhonored, _⟩
    · cases honored.given.symm.trans honors.given
      exact isPath
    · exact absurd honors (unhonored mailbox)
  refine ⟨directory, isParent, ?_, ?_⟩
  · rw [Path.IsEntryOf, Path.components_of_segments parts named, sameFront]
  · rw [Path.IsEntryOf, Path.components_of_segments (segments_append_lockSuffix parts)
      (Path.named_append_lockSuffix _).1, sameFront, String.toList_append]

/-- The `fileName` of a lock is the user with `lockSuffix`, unless `$MAIL` goes on behind the name
of the user, which is when it `Strays`. -/
theorem fileName_lockPath_iff (found : settings.lockPath mail user = .ok path) :
    Path.fileName path = some (user ++ lockSuffix) ↔ ¬settings.Strays mail user := by
  rcases lockPath_cases found with ⟨mailbox, honors, rfl⟩ | ⟨unhonored, rfl⟩
  · rcases exists_segments_of_fileName honors.named with ⟨front, last, parts, _⟩
    have isName := Path.named_append_lockSuffix last
    have strays : settings.Strays mail user ↔ ¬Path.EndsIn mailbox user := by
      constructor
      · rintro ⟨other, honored, strays⟩
        cases honored.given.symm.trans honors.given
        exact strays
      · exact fun strays => ⟨mailbox, honors, strays⟩
    rw [Path.fileName_of_segments (segments_append_lockSuffix parts) isName.1 isName.2, strays,
      not_not, Path.EndsIn, parts, List.getLast?_concat, Option.some.injEq, Option.some.injEq,
      ← String.toList_inj, String.toList_ofList, String.toList_append, List.append_left_inj]
  · have isName := Path.named_append_lockSuffix user.toList
    rcases Path.segments_join settings.spoolDirectory (slash_notMem_of_lockPath found) with
      ⟨front, parts⟩
    rw [String.toList_append] at parts
    have tidy : ¬settings.Strays mail user := fun ⟨mailbox, honors, _⟩ => unhonored mailbox honors
    rw [Path.fileName_of_segments parts isName.1 isName.2, ← String.toList_append,
      String.ofList_toList]
    exact iff_of_true rfl tidy

theorem exists_isEntryOf (found : settings.lockPath mail user = .ok path)
    (tidy : ¬settings.Strays mail user) :
    ∃ directory, Path.IsEntryOf path directory (user ++ lockSuffix) := by
  by_cases honored : ∃ mailbox, settings.Honors mail user mailbox
  · rcases honored with ⟨mailbox, honors⟩
    have ends : Path.EndsIn mailbox user := by
      by_contra strays
      exact tidy ⟨mailbox, honors, strays⟩
    rcases isEntryOf_parent found honors ends with ⟨directory, _, _, entry⟩
    exact ⟨directory, entry⟩
  · exact ⟨_, isEntryOf_spool found (not_exists.mp honored)⟩

theorem eq_of_components {other otherPath : String}
    (found : settings.lockPath mail user = .ok path) (tidy : ¬settings.Strays mail user)
    (otherFound : settings.lockPath mail other = .ok otherPath)
    (otherTidy : ¬settings.Strays mail other)
    (same : Path.components otherPath = Path.components path) : other = user := by
  rcases exists_isEntryOf found tidy with ⟨directory, entry⟩
  rcases exists_isEntryOf otherFound otherTidy with ⟨otherDirectory, otherEntry⟩
  rw [Path.IsEntryOf] at entry otherEntry
  rw [entry, otherEntry] at same
  have names := (List.append_inj' same rfl).2
  simp only [List.cons.injEq, and_true, String.toList_append, List.append_left_inj] at names
  exact String.toList_inj.mp names

/-- The result of `lockPath`: which users have one, what its `fileName` and its directory are, and
that it is no other user's. All but the first holds unless `$MAIL` is honored and `Strays` from the
name of the user. -/
theorem lockPath_names_user (settings : MailSettings) (mail : Option String) (user : String) :
    ((∃ path, settings.lockPath mail user = .ok path) ↔
      user ≠ "" ∧ '/' ∉ user.toList ∧ '\x00' ∉ user.toList ∧ user.utf8ByteSize ≤ 250) ∧
    ∀ path, settings.lockPath mail user = .ok path →
      (Path.fileName path = some (user ++ lockSuffix) ↔ ¬settings.Strays mail user) ∧
      (¬settings.Strays mail user →
        ((∀ mailbox, ¬settings.Honors mail user mailbox) →
          Path.IsEntryOf path settings.spoolDirectory (user ++ lockSuffix)) ∧
        (∀ mailbox, settings.Honors mail user mailbox →
          ∃ directory, Path.parent mailbox = some directory ∧
            Path.IsEntryOf mailbox directory user ∧
            Path.IsEntryOf path directory (user ++ lockSuffix)) ∧
        ∀ other otherPath, settings.lockPath mail other = .ok otherPath →
          ¬settings.Strays mail other → Path.components otherPath = Path.components path →
          other = user) := by
  refine ⟨exists_lockPath_iff, fun path found => ⟨fileName_lockPath_iff found, fun tidy =>
    ⟨isEntryOf_spool found, ?_, ?_⟩⟩⟩
  · intro mailbox honors
    refine isEntryOf_parent found honors ?_
    by_contra strays
    exact tidy ⟨mailbox, honors, strays⟩
  · intro other otherPath otherFound otherTidy same
    exact eq_of_components found tidy otherFound otherTidy same

theorem lockPath_names_user_doubledSlash :
    let settings : MailSettings := { spoolDirectory := "/var/mail/" }
    let mail := some "/m//u"
    settings.lockPath mail "u" = .ok "/m//u.lock" ∧
      settings.lockPath mail "v" = .ok "/var/mail/v.lock" ∧
      Path.IsEntryOf "/m//u.lock" "/m" "u.lock" ∧
      Path.IsEntryOf "/var/mail/v.lock" "/var/mail/" "v.lock" ∧
      Path.components "/m//u.lock" ≠ Path.components "/var/mail/v.lock" := by
  intro settings mail
  have tidy : ∀ user, ¬settings.Strays mail user := by
    rintro user ⟨mailbox, ⟨given, _, named⟩, strays⟩
    obtain rfl : "/m//u" = mailbox := Option.some.inj given
    obtain rfl : "u" = user := Option.some.inj (Eq.trans (by decide) named)
    exact strays (by decide)
  have foundU : settings.lockPath mail "u" = .ok "/m//u.lock" := by decide
  have foundV : settings.lockPath mail "v" = .ok "/var/mail/v.lock" := by decide
  have unhonored : ∀ mailbox, ¬settings.Honors mail "v" mailbox := by
    rintro mailbox ⟨given, _, named⟩
    obtain rfl : "/m//u" = mailbox := Option.some.inj given
    exact absurd named (by decide)
  rcases ((lockPath_names_user settings mail "u").2 _ foundU).2 (tidy "u") with ⟨_, atMail, apart⟩
  rcases ((lockPath_names_user settings mail "v").2 _ foundV).2 (tidy "v") with ⟨inSpool, _⟩
  refine ⟨foundU, foundV, ?_, inSpool unhonored, ?_⟩
  · rcases atMail "/m//u" ⟨rfl, rfl, by decide⟩ with ⟨directory, isParent, _, entry⟩
    obtain rfl : directory = "/m" := Option.some.inj (isParent.symm.trans (by decide))
    exact entry
  · intro same
    exact absurd (apart "v" _ foundV (tidy "v") same.symm) (by decide)

/-- A `$MAIL` that ends with a dot: the lock of its user has another name, and is that of a user of
the spool too. -/
theorem lockPath_shared_behind_dot :
    let settings : MailSettings := { spoolDirectory := "/m/u" }
    let mail := some "/m/u/."
    settings.lockPath mail "u" = .ok "/m/u/..lock" ∧
      Path.fileName "/m/u/..lock" ≠ some ("u" ++ lockSuffix) ∧
      settings.lockPath mail "." = .ok "/m/u/..lock" := by
  decide

end MailSettings

end MailSpool
