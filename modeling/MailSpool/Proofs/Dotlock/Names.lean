import MailSpool.Dotlock.Acquisition

/-!
# The names of locks and of temporary files

The path of a lock ends with the suffix of locks, and that of a temporary file with a hexadecimal
digit. So no lock lies where a temporary file lies, whatever symbolic links are on the way. Compare
`getLast?_lockPath` and `getLast?_temporaryPath`.
-/

namespace MailSpool

theorem getLast?_append_of_some {front back : List Char} {character : Char}
    (last : back.getLast? = some character) : (front ++ back).getLast? = some character := by
  rw [List.getLast?_append, last]
  rfl

/-- What a path of a temporary file cannot end with: the last letter of the suffix of locks, and
what ends the path of a directory. -/
def foreignEnds : List Char := ['k', '/', '.']

theorem digitChar_notMem_foreignEnds {digit : Nat} (small : digit < 16) :
    digit.digitChar ∉ foreignEnds := by
  revert digit
  decide

theorem getLast?_toDigits (number : Nat) :
    ∃ digit, (Nat.toDigits 16 number).getLast? = some digit ∧ digit ∉ foreignEnds := by
  rw [Nat.toDigits_eq_if (by decide)]
  split
  case isTrue small => exact ⟨number.digitChar, rfl, digitChar_notMem_foreignEnds small⟩
  case isFalse =>
    refine ⟨(number % 16).digitChar, by simp, ?_⟩
    exact digitChar_notMem_foreignEnds (Nat.mod_lt _ (by decide))

theorem getLast?_temporaryName (process : ProcessId) (tag : Nat) :
    ∃ digit, (temporaryName process tag).toList.getLast? = some digit ∧ digit ∉ foreignEnds := by
  rcases getLast?_toDigits (tag % UInt32.size) with ⟨digit, last, native⟩
  refine ⟨digit, ?_, native⟩
  rw [temporaryName, String.toList_append]
  apply getLast?_append_of_some
  rw [String.toList_ofList]
  apply getLast?_append_of_some
  exact getLast?_append_of_some last

theorem getLast?_join {path : String} {character : Char} (directory : String)
    (last : path.toList.getLast? = some character) :
    (Path.join directory path).toList.getLast? = some character := by
  unfold Path.join
  split
  · exact last
  · split
    · exact last
    · rw [String.toList_append]
      exact getLast?_append_of_some last
    · rw [String.toList_append]
      exact getLast?_append_of_some last

theorem exists_getLast?_temporaryPath (lock : String) (process : ProcessId) (tag : Nat) :
    ∃ digit, (temporaryPath lock process tag).toList.getLast? = some digit ∧
      digit ∉ foreignEnds := by
  rcases getLast?_temporaryName process tag with ⟨digit, last, native⟩
  exact ⟨digit, getLast?_join _ last, native⟩

/-- The path of a temporary file does not end as that of a lock does. -/
theorem getLast?_temporaryPath (lock : String) (process : ProcessId) (tag : Nat) :
    (temporaryPath lock process tag).toList.getLast? ≠ some 'k' := by
  rcases exists_getLast?_temporaryPath lock process tag with ⟨digit, last, native⟩
  rw [last]
  rintro ⟨⟩
  exact native (by decide)

/-- The path of a lock ends with the last letter of the suffix of locks. -/
theorem getLast?_lockPath {settings : MailSettings} {mail : Option String} {user path : String}
    (found : settings.lockPath mail user = .ok path) : path.toList.getLast? = some 'k' := by
  have suffix : ∀ name : String, (name ++ lockSuffix).toList.getLast? = some 'k' := by
    intro name
    rw [String.toList_append]
    exact getLast?_append_of_some rfl
  unfold MailSettings.lockPath at found
  split at found
  · simp at found
  · split at found
    · simp at found
    · split at found
      · cases found
        exact suffix _
      · cases found
        exact getLast?_join _ (suffix user)

theorem Path.join_append {name : String} (directory suffix : String)
    (entry : isEntryName name = true) :
    join directory (name ++ suffix) = join directory name ++ suffix := by
  rcases text : name.toList with _ | ⟨first, rest⟩
  · have isEmpty : name = "" := String.toList_eq_nil_iff.mp text
    simp [isEntryName, isEmpty] at entry
  have noSlash : first ≠ '/' := by
    rintro rfl
    simp [isEntryName, text] at entry
  have relative : ∀ {path : String}, path.toList.head? = some first → isAbsolute path = false := by
    intro path head
    simp [isAbsolute, head, noSlash]
  have short : isAbsolute name = false := relative (by rw [text]; rfl)
  have long : isAbsolute (name ++ suffix) = false :=
    relative (by rw [String.toList_append, text]; rfl)
  simp only [join, short, long, Bool.false_eq_true, if_false]
  split
  · rfl
  · exact (String.append_assoc ..).symm
  · exact (String.append_assoc ..).symm

/-- The lock of a user is at its `spoolPath` with `lockSuffix`, or next to the mailbox that `$MAIL`
names if that is honored and is a mailbox of the user. -/
theorem eq_of_lockPath {settings : MailSettings} {mail : Option String} {user path : String}
    (found : settings.lockPath mail user = .ok path) :
    path = (mail.filter fun mailbox =>
        settings.honorMail && Path.fileName mailbox == some user).getD (settings.spoolPath user) ++
      lockSuffix := by
  unfold MailSettings.lockPath at found
  split at found
  · simp at found
  case isFalse entry =>
  have isEntry : isEntryName user = true := by simpa using entry
  split at found
  · simp at found
  · split at found
    case h_1 mailbox honored =>
      cases found
      rw [honored]
      rfl
    case h_2 other =>
      cases found
      rw [other]
      exact Path.join_append _ _ isEntry

end MailSpool
