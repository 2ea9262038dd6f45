import MailSpool.Proofs.Guard.BothLocks
import MailSpool.Proofs.Host.Probing

/-!
# What a tag asks for

A tag is written in characters and looked at as bytes. The two agree on which mode it tells as long
as its first character is a single byte: the second byte is then the first one of the second
character. A longer character brings a second byte of its own, which is never that of a `w`, so a
tag such as `éw` asks for a shared lock.

The mode is all that the operations on locks take from a tag. What each of them does with it is told
by the record lock that it `AsksFor`, whether it waits for it or not.
-/

namespace MailSpool

/-! ## Characters and bytes -/

namespace Text

theorem exists_utf8EncodeChar_of_wide {character : Char} (wide : character.utf8Size ≠ 1) :
    ∃ first second rest, String.utf8EncodeChar character = first :: second :: rest ∧
      128 ≤ first.toNat ∧ 128 ≤ second.toNat := by
  have large : ¬character.val.toNat ≤ 127 := by
    intro small
    exact wide (Char.utf8Size_eq_one_iff.mpr (UInt32.le_iff_toNat_le.mpr small))
  unfold String.utf8EncodeChar
  dsimp only
  rw [if_neg large]
  split
  · refine ⟨_, _, _, rfl, ?_, ?_⟩
    all_goals simp only [UInt8.toNat_ofNat']
    all_goals omega
  split
  · refine ⟨_, _, _, rfl, ?_, ?_⟩
    all_goals simp only [UInt8.toNat_ofNat']
    all_goals omega
  · refine ⟨_, _, _, rfl, ?_, ?_⟩
    all_goals simp only [UInt8.toNat_ofNat']
    all_goals omega

theorem head?_utf8EncodeChar_iff {character : Char} :
    (String.utf8EncodeChar character).head? = some 'w'.toUInt8 ↔ character = 'w' := by
  refine ⟨fun starts => ?_, fun same => by rw [same]; decide⟩
  by_cases narrow : character.utf8Size = 1
  · rw [String.utf8EncodeChar_eq_singleton narrow, List.head?_cons, Option.some.injEq] at starts
    have small : character.val.toNat ≤ 127 :=
      UInt32.le_iff_toNat_le.mp (Char.utf8Size_eq_one_iff.mp narrow)
    have same := congrArg UInt8.toNat starts
    simp only [UInt32.toNat_toUInt8] at same
    rw [Nat.mod_eq_of_lt (by omega)] at same
    exact Char.ext (UInt32.toNat_inj.mp same)
  · rcases exists_utf8EncodeChar_of_wide narrow with ⟨first, second, rest, bytes, large, _⟩
    rw [bytes, List.head?_cons, Option.some.injEq] at starts
    rw [starts] at large
    exact absurd large (by decide)

theorem utf8EncodeChar_ne_nil (character : Char) : String.utf8EncodeChar character ≠ [] := by
  intro empty
  have length := String.length_utf8EncodeChar character
  rw [empty, List.length_nil] at length
  exact absurd length.symm (Nat.ne_of_gt character.utf8Size_pos)

theorem toList_data_toUTF8 (text : String) :
    text.toUTF8.data.toList = text.toList.flatMap String.utf8EncodeChar := by
  conv_lhs => rw [← String.ofList_toList (s := text)]
  simp only [String.toUTF8, String.toByteArray_ofList, List.utf8Encode, List.data_toByteArray]

end Text

/-! ## The mode of a tag -/

namespace LockMode

variable {tag : String}

/-- The mode that the second character of a tag tells: exclusive for a `w`, and shared for any other
one or for none. -/
def ofSecond (tag : String) : LockMode :=
  if tag.toList[1]? = some 'w' then write else read

/-- A `w` in the second place of a tag stands behind a single byte. -/
def IsPlain (tag : String) : Prop :=
  ∀ first rest, tag.toList = first :: 'w' :: rest → first.utf8Size = 1

theorem ofSecond_eq_write_iff :
    ofSecond tag = write ↔ ∃ first rest, tag.toList = first :: 'w' :: rest := by
  unfold ofSecond
  rcases tag.toList with _ | ⟨first, _ | ⟨second, rest⟩⟩
  · simp
  · simp
  · simp

/-- `LockMode.ofTag` is `write` if and only if the second character is a `w` and the first one is a
single byte. -/
theorem ofTag_eq_write_iff :
    ofTag tag = write ↔ ∃ first rest, tag.toList = first :: 'w' :: rest ∧ first.utf8Size = 1 := by
  have isWrite : ofTag tag = write ↔
      (tag.toList.flatMap String.utf8EncodeChar)[1]? = some 'w'.toUInt8 := by
    rw [← Text.toList_data_toUTF8, Array.getElem?_toList]
    unfold ofTag
    split <;> simp_all
  rw [isWrite]
  rcases tag.toList with _ | ⟨first, others⟩
  · simp
  rw [List.flatMap_cons]
  by_cases narrow : first.utf8Size = 1
  · rw [String.utf8EncodeChar_eq_singleton narrow, List.singleton_append, List.getElem?_cons_succ,
      ← List.head?_eq_getElem?]
    rcases others with _ | ⟨second, rest⟩
    · simp
    rw [List.flatMap_cons, List.head?_append_of_ne_nil _ (Text.utf8EncodeChar_ne_nil second),
      Text.head?_utf8EncodeChar_iff]
    constructor
    · rintro rfl
      exact ⟨first, rest, rfl, narrow⟩
    · rintro ⟨_, _, same, _⟩
      cases same
      rfl
  · rcases Text.exists_utf8EncodeChar_of_wide narrow with ⟨lead, next, more, bytes, _, large⟩
    rw [bytes]
    constructor
    · intro same
      cases same
      exact absurd large (by decide)
    · rintro ⟨_, _, same, isNarrow⟩
      cases same
      exact absurd isNarrow narrow

/-- `LockMode.ofTag` tells the mode of the second character exactly for a tag that `IsPlain`. -/
theorem ofTag_eq_ofSecond_iff : ofTag tag = ofSecond tag ↔ IsPlain tag := by
  constructor
  · intro same first rest written
    have isWrite : ofTag tag = write :=
      same.trans (ofSecond_eq_write_iff.mpr ⟨first, rest, written⟩)
    rcases ofTag_eq_write_iff.mp isWrite with ⟨other, more, alsoWritten, narrow⟩
    cases written.symm.trans alsoWritten
    exact narrow
  · intro plain
    rcases told : ofSecond tag with _ | _
    · rcases asked : ofTag tag with _ | _
      · rfl
      · rcases ofTag_eq_write_iff.mp asked with ⟨first, rest, written, _⟩
        cases told.symm.trans (ofSecond_eq_write_iff.mpr ⟨first, rest, written⟩)
    · rcases ofSecond_eq_write_iff.mp told with ⟨first, rest, written⟩
      exact ofTag_eq_write_iff.mpr ⟨first, rest, written, plain first rest written⟩

end LockMode

/-! ## Waiting for a lock -/

namespace LockTable

variable {table : LockTable} {wanted : RecordLock}

/-- A request against which nothing stands is granted by `await` without waiting, and its lock is
held then. -/
theorem await_of_free (free : ∀ record ∈ table.held, record.standsAgainst wanted = false)
    (idle : table.isWaiting wanted.owner = false) :
    ∃ locks, table.await wanted = (.granted, locks) ∧ wanted ∈ locks.held := by
  let asking : LockTable :=
    { table with refused := table.refused.filter fun owner => owner ≠ wanted.owner }
  have noConflict : asking.conflict? wanted = none := conflict?_eq_none_iff.mpr free
  have granted : asking.request wanted = some (settle (asking.grant wanted).1
      (asking.grant wanted).2) := by
    simp only [request, noConflict, Option.isSome_none, Bool.false_eq_true, if_false]
  refine ⟨_, ?_, mem_held_of_request granted idle⟩
  have met : asking.meet wanted = (.granted, asking.grant wanted) := by
    simp only [meet, noConflict]
  have awaited : table.await wanted =
      ((asking.meet wanted).1, settle (asking.meet wanted).2.1 (asking.meet wanted).2.2) := rfl
  rw [awaited, met]

end LockTable

namespace Host

variable {host after : Host} {id : ProcessId}

theorem alters_keep (host : Host) (appointment : Appointment) :
    LockTable.Alters (fun _ => True) host.locks (host.keep appointment).locks := by
  unfold keep
  dsimp only
  generalize later : ({ host with now := _, agenda := _ } : Host) = moved
  have same : moved.locks = host.locks := by rw [← later]
  rw [← same]
  have wears : Wears (fun _ => True) moved (moved.perform appointment.deed) :=
    wears_perform moved appointment.deed
  exact LockTable.Serves.mono wears.locks fun _ _ => trivial

theorem alters_awaitGrant {result : Except Errno Unit} {steps : Nat}
    (waited : awaitGrant id steps host = some (result, after)) :
    LockTable.Alters (fun _ => True) host.locks after.locks := by
  induction steps generalizing host with
  | zero => simp [awaitGrant] at waited
  | succ steps ih =>
      simp only [awaitGrant] at waited
      split at waited
      · cases waited
        exact .refl _ _
      split at waited
      · simp at waited
      case h_2 appointment _ =>
        have kept := host.alters_keep appointment
        split at waited
        · cases waited
          exact LockTable.Serves.trans kept
            (LockTable.Serves.mono (LockTable.alters_withdraw _ id) fun _ _ => trivial)
        · exact LockTable.Serves.trans kept (ih waited)

theorem serves_setLockWaiting {descriptor : Int32} {mode : LockMode} {wanted : RecordLock}
    {result : Except Errno Unit} (isWanted : host.wanted id descriptor mode = .ok wanted)
    (waited : host.setLockWaiting id descriptor mode = some (result, after)) :
    LockTable.Serves (fun _ => True) ([wanted], host.locks) ([], after.locks) := by
  have served := (host.locks.serves_await wanted).mono fun _ (_ : False) => trivial
  unfold setLockWaiting requestLock at waited
  rw [isWanted] at waited
  simp only [Except.map] at waited
  rcases replied : host.locks.await wanted with ⟨reply, locks⟩
  rw [replied] at waited served
  cases reply with
  | granted => cases waited; exact served
  | waits => exact served.trans (alters_awaitGrant waited)
  | deadlock =>
      cases waited
      refine ⟨fun _ => Or.inl, fun _ member _ _ => member, ?_, fun compatible => compatible⟩
      rintro request (asked | waits)
      · simp at asked
      · exact Or.inr waits

end Host

/-! ## What is asked for -/

namespace Bridge

variable {bridge : Bridge} {host : Host} {descriptor number : Int32} {opened : OpenFile}
  {tag : String} {mode : LockMode}

/-- An operation on the file behind a descriptor asks for a record lock of a mode: what it answers,
and what it leaves in the `LockTable`, is what becomes of this lock and of no other one. -/
structure AsksFor (bridge : Bridge) (host : Host) (descriptor number : Int32) (opened : OpenFile)
    (tag : String) (wanted : RecordLock) : Prop where
  /-- The descriptor is not open in the way that the mode takes. -/
  unsuited : opened.suits wanted.mode = false → ∀ blocking,
    bridge.lock host descriptor tag blocking = some (.error (.badDescriptor number), host)
  /-- Nothing stands against the lock, which is granted. -/
  granted : opened.suits wanted.mode = true →
    (∀ record ∈ host.locks.held, record.standsAgainst wanted = false) →
    ∀ blocking, ∃ after, bridge.lock host descriptor tag blocking = some (.ok (), after) ∧
      wanted ∈ after.locks.held
  /-- A lock stands against it. -/
  refused : opened.suits wanted.mode = true →
    (∃ record ∈ host.locks.held, record.standsAgainst wanted = true) →
    bridge.lock host descriptor tag false = some (.error (.wouldBlock number), host)
  /-- However long it is waited for, the process comes by this lock only. -/
  only : ∀ blocking result after, bridge.lock host descriptor tag blocking = some (result, after) →
    ∀ record ∈ after.locks.held, record.owner = wanted.owner →
      record ∈ host.locks.held ∨ record = wanted
  /-- The holder that is told is that of the first lock that stands against it. -/
  probed : bridge.probe host descriptor tag =
    .ok ((host.locks.conflict? wanted).map fun lock => { owner := lock.owner, mode := lock.mode })

section Numbered

variable (numbered : bridge.systemDescriptor descriptor = .ok number)
  (found : host.descriptor? bridge.process number.toInt = some opened)

include numbered found

theorem lock_of_unsuited (unsuited : opened.suits (.ofTag tag) = false) (blocking : Bool) :
    bridge.lock host descriptor tag blocking = some (.error (.badDescriptor number), host) := by
  have refused : host.wanted bridge.process number (.ofTag tag) = .error .badDescriptor := by
    simp [Host.wanted, found, unsuited]
  cases blocking with
  | false =>
      simp only [lock, tryLock, numbered, Except.bind, Host.setLock, refused, locking]
      rfl
  | true =>
      simp only [lock, awaitLock, numbered, Host.setLockWaiting, Host.requestLock, refused, locking]
      rfl

theorem exists_lock_of_free (suits : opened.suits (.ofTag tag) = true)
    (idle : host.locks.isWaiting bridge.process = false)
    (free : ∀ record ∈ host.locks.held,
      record.standsAgainst (bridge.wanted opened.file tag) = false) (blocking : Bool) :
    ∃ after, bridge.lock host descriptor tag blocking = some (.ok (), after) ∧
      bridge.wanted opened.file tag ∈ after.locks.held := by
  cases blocking with
  | false =>
      rcases granted : host.locks.request (bridge.wanted opened.file tag) with _ | locks
      · rw [LockTable.request_eq_none_iff, LockTable.conflict?_eq_none_iff.mpr free] at granted
        simp at granted
      refine ⟨host.withLocks locks, ?_, LockTable.mem_held_of_request granted idle⟩
      rw [lock_of_numbered numbered found suits, granted]
  | true =>
      rcases LockTable.await_of_free free idle with ⟨locks, granted, member⟩
      refine ⟨host.withLocks locks, ?_, member⟩
      have wanted : host.wanted bridge.process number (.ofTag tag) =
          .ok (bridge.wanted opened.file tag) :=
        Host.wanted_eq_ok_iff.mpr ⟨opened, found, suits, rfl⟩
      simp only [lock, if_true, awaitLock, numbered, Host.setLockWaiting, Host.requestLock, wanted,
        Except.map, granted]
      rfl

theorem lock_of_conflict (suits : opened.suits (.ofTag tag) = true)
    (stands : ∃ record ∈ host.locks.held,
      record.standsAgainst (bridge.wanted opened.file tag) = true) :
    bridge.lock host descriptor tag false = some (.error (.wouldBlock number), host) := by
  have refused : host.locks.request (bridge.wanted opened.file tag) = none := by
    rw [LockTable.request_eq_none_iff, Option.isSome_iff_ne_none, ne_eq,
      LockTable.conflict?_eq_none_iff]
    rcases stands with ⟨record, held, isTrue⟩
    intro free
    rw [free record held] at isTrue
    simp at isTrue
  rw [lock_of_numbered numbered found suits, refused]

/-- What an operation leaves of locks that the process holds is what it held, and what it asked for
as `wanted`. -/
theorem eq_wanted_of_lock (idle : host.locks.isWaiting bridge.process = false) {blocking : Bool}
    {result : Except Failure Unit} {after : Host}
    (answered : bridge.lock host descriptor tag blocking = some (result, after))
    {record : RecordLock} (member : record ∈ after.locks.held)
    (isOwner : record.owner = bridge.process) :
    record ∈ host.locks.held ∨ record = bridge.wanted opened.file tag := by
  rcases suits : opened.suits (.ofTag tag) with _ | _
  · rw [lock_of_unsuited numbered found suits] at answered
    cases answered
    exact Or.inl member
  have isWanted : host.wanted bridge.process number (.ofTag tag) =
      .ok (bridge.wanted opened.file tag) :=
    Host.wanted_eq_ok_iff.mpr ⟨opened, found, suits, rfl⟩
  have served : after.locks = host.locks ∨ LockTable.Serves (fun _ => True)
      ([bridge.wanted opened.file tag], host.locks) ([], after.locks) := by
    cases blocking with
    | false =>
        rw [lock_of_numbered numbered found suits] at answered
        rcases granted : host.locks.request (bridge.wanted opened.file tag) with _ | locks
        · rw [granted] at answered
          cases answered
          exact Or.inl rfl
        · rw [granted] at answered
          cases answered
          exact Or.inr ((LockTable.serves_request granted).mono fun _ (_ : False) => trivial)
    | true =>
        simp only [lock, if_true, awaitLock, numbered] at answered
        rcases Option.map_eq_some_iff.mp answered with ⟨⟨reply, later⟩, waited, same⟩
        cases same
        exact Or.inr (Host.serves_setLockWaiting isWanted waited)
  rcases served with same | serves
  · rw [same] at member
    exact Or.inl member
  rcases serves.held record member with old | asked | ⟨waiter, waits, rfl⟩
  · exact Or.inl old
  · exact Or.inr (List.mem_singleton.mp asked)
  · exact absurd isOwner (LockTable.isWaiting_eq_false_iff.mp idle waiter waits)

/-- An operation `AsksFor` the lock of the mode that the tag tells. -/
theorem asksFor_wanted (idle : host.locks.isWaiting bridge.process = false) :
    bridge.AsksFor host descriptor number opened tag (bridge.wanted opened.file tag) where
  unsuited := lock_of_unsuited numbered found
  granted suits free := exists_lock_of_free numbered found suits idle free
  refused suits stands := lock_of_conflict numbered found suits stands
  only _ _ _ answered _ member isOwner :=
    eq_wanted_of_lock numbered found idle answered member isOwner
  probed := probe_of_numbered numbered found tag

end Numbered

/-- The second character of a tag decides which lock is asked for exactly when the tag `IsPlain`, so
when it is no `w` behind a character of several bytes. Then every operation `AsksFor` the lock of
this mode: to lock a descriptor, waiting or not, to probe for the lock, and to take a guard by
`SpoolGuard.acquire`, which is the same as with the usual tag of the mode and leaves the process
that one record lock more. -/
theorem second_character_decides (tag : String) :
    (LockMode.ofTag tag = .ofSecond tag ↔ LockMode.IsPlain tag) ∧
    (LockMode.IsPlain tag →
      (∀ (bridge : Bridge) (host : Host) (descriptor number : Int32) (opened : OpenFile),
        bridge.systemDescriptor descriptor = .ok number →
        host.descriptor? bridge.process number.toInt = some opened →
        host.locks.isWaiting bridge.process = false →
        bridge.AsksFor host descriptor number opened tag
          { file := opened.file, owner := bridge.process, mode := .ofSecond tag }) ∧
      ∀ (bridge : Bridge) (host : Host) (user : String) (retries : UInt32),
        SpoolGuard.acquire bridge host user tag retries =
          SpoolGuard.acquire bridge host user (LockMode.ofSecond tag).tag retries ∧
        ∀ guard after, host.IsReady bridge.process →
          SpoolGuard.acquire bridge host user tag retries = (.ok guard, after) →
          guard.mode = .ofSecond tag ∧
          ∃ target, after.descriptor? bridge.process
              (guard.descriptor - bridge.settings.descriptorOffset.toInt) = some target ∧
            { file := target.file, owner := bridge.process, mode := .ofSecond tag } ∈
              after.locks.held ∧
            ∀ record ∈ after.locks.held, record.owner = bridge.process →
              record ∈ host.locks.held ∨
              record =
                { file := target.file, owner := bridge.process, mode := .ofSecond tag }) := by
  refine ⟨LockMode.ofTag_eq_ofSecond_iff, fun plain => ?_⟩
  have same := LockMode.ofTag_eq_ofSecond_iff.mpr plain
  rw [← same]
  refine ⟨?_, ?_⟩
  · intro bridge host descriptor number opened numbered found idle
    exact asksFor_wanted numbered found idle
  · intro bridge host user retries
    refine ⟨?_, ?_⟩
    · simp only [SpoolGuard.acquire, LockMode.ofTag_tag]
    · intro guard after ready acquired
      rcases SpoolGuard.exists_of_acquire acquired with ⟨_, _, _, _, _, _, isMode, _⟩
      rcases SpoolGuard.exists_mailbox_of_acquire ready acquired with
        ⟨_, target, _, _, isTarget, locked, others⟩
      rw [isMode] at locked others
      exact ⟨isMode, target, isTarget, locked, others⟩

/-- Two processes that have read locks on one file. -/
def readersHost : Host :=
  sharedHost.withLocks { held := [sharedLock 1 .read, sharedLock 2 .read] }

theorem second_character_decides_oddTag :
    LockMode.IsPlain "xwé" ∧
      (ofSettings 1 {}).AsksFor readersHost 3 3 sharedFile "xwé" (sharedLock 1 .write) ∧
      (SpoolGuard.acquire SpoolGuard.plainBridge SpoolGuard.readerHost "u" "xwé" 0 =
        SpoolGuard.acquire SpoolGuard.plainBridge SpoolGuard.readerHost "u" "rw" 0) ∧
      SpoolGuard.readerHost.IsReady SpoolGuard.plainBridge.process ∧
      SpoolGuard.plainGuard.mode = .write := by
  have plain : LockMode.IsPlain "xwé" := by
    intro first rest written
    obtain rfl : 'x' = first := (List.cons.inj written).1
    decide
  have second : LockMode.ofSecond "xwé" = .write := by decide
  have number : (ofSettings 1 {}).systemDescriptor 3 = .ok 3 := systemDescriptor_of_zero rfl
  rcases (second_character_decides "xwé").2 plain with ⟨asks, takes⟩
  have asked := asks (ofSettings 1 {}) readersHost 3 3 sharedFile number rfl rfl
  rcases takes SpoolGuard.plainBridge SpoolGuard.readerHost "u" 0 with ⟨sameGuard, obtained⟩
  rw [second] at asked sameGuard
  have acquired := sameGuard.trans SpoolGuard.acquire_plainBridge
  have mode := (obtained _ _ SpoolGuard.isReady_readerHost acquired).1
  exact ⟨plain, asked, sameGuard, SpoolGuard.isReady_readerHost, mode.trans second⟩

/-- A `w` behind a character of two bytes: the lock that is granted is shared, and another process
is granted the same lock then. -/
theorem exclusive_tag_shared :
    LockMode.ofSecond "éw" = .write ∧
      ∃ after, (ofSettings 1 {}).lock sharedHost 3 "éw" false = some (.ok (), after) ∧
        after.locks.held = [sharedLock 1 .read] ∧
        ∃ later, (ofSettings 2 {}).lock after 3 "éw" false = some (.ok (), later) ∧
          later.locks.held = [sharedLock 1 .read, sharedLock 2 .read] := by
  refine ⟨by decide, sharedHost.withLocks { held := [sharedLock 1 .read] }, rfl, rfl,
    sharedHost.withLocks { held := [sharedLock 1 .read, sharedLock 2 .read] }, rfl, rfl⟩

end Bridge

end MailSpool
