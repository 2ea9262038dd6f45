import MailSpool.Proofs.Dotlock.Conceding
import MailSpool.Proofs.Dotlock.Conclusions
import MailSpool.Proofs.Dotlock.Freshness
import MailSpool.Proofs.Dotlock.Siblings

/-!
# What an acquisition decides

A locker that can make its temporary file where nobody else acts decides by what it finds at its
attempts. All of them but the last find the lock fresh; the status follows from the last find, and
so does what the locker counts. A free lock is taken, and so is a stale one once it is removed,
unless the path of the lock is then too long, or leads over the very symbolic link that was removed.
`Finding.Decides` tells this of one find, and `decides_of_acquire` of the whole call.
-/

namespace MailSpool

open FileSystem

/-- A host after a file was made at a path and written, as far as that can be done. -/
def Host.prepared (host : Host) (path : String) (content : ByteArray) : Host :=
  match host.create path with
  | .error _ => host
  | .ok (own, created) => (created.fill own content).toOption.getD created

/-- A lock can be removed, and after that its path is vacant. -/
def Host.Clears (host : Host) (lock : String) : Prop :=
  ∃ removed, host.unlink lock = .ok removed ∧ removed.IsVacant lock

/-- A host `CanPrepare` exactly the files that `create` makes and `fill` writes. -/
theorem Host.canPrepare_iff {host : Host} (path : String) (sound : host.files.Sound)
    (content : ByteArray) :
    host.CanPrepare path ↔ ∃ own created ready, host.create path = .ok (own, created) ∧
      created.fill own content = .ok ready := by
  constructor
  · rintro ⟨vacant, noFault⟩
    rcases exists_create_of_isVacant vacant with ⟨own, created, made⟩
    have stillNoFault : created.writeFault = none := by
      rw [(create_eq_ok made).2]
      exact noFault
    exact ⟨own, created, _, made, by rw [fill, stillNoFault]⟩
  · rintro ⟨own, created, ready, made, written⟩
    rcases create_spec sound (create_eq_ok made).1 with ⟨directory, name, located, _⟩
    refine ⟨⟨isWritable_of_create made, directory, name, located⟩, ?_⟩
    have noFault : created.writeFault = none := by
      unfold fill at written
      split at written
      · simp at written
      · assumption
    rw [(create_eq_ok made).2] at noFault
    exact noFault

namespace Locker

/-- A host at the first attempt of a locker to link its temporary file. -/
def readied (locker : Locker) (host : Host) (lock : String) : Host :=
  (locker.vacated host).prepared (locker.temporaryFor host lock) (ownerRecord locker.recordedOwner)

/-- A host at an attempt of a locker, which has rested before as often as it has tried. -/
def attemptHost (locker : Locker) (host : Host) (lock : String) (attempt : Nat) : Host :=
  locker.settings.rested (locker.readied host lock) attempt

end Locker

/-- What is found at the last attempt decides the status with which the taking of a lock ends, and
whether a stale lock is removed. -/
structure Finding.Decides (found : Finding) (host : Host) (lock : String) (spent : Prop)
    (status : MailLockStatus) (broken : Nat) : Prop where
  success : status = .success ↔
    (found = .free ∧ lock.utf8ByteSize < pathLimit) ∨ (found = .stale ∧ host.Clears lock)
  error : status = .error ↔
    found = .staleDirectory ∨ (found = .free ∧ pathLimit ≤ lock.utf8ByteSize) ∨
      (found = .stale ∧ ¬host.Clears lock)
  maxTries : status = .maxTries ↔ found = .fresh ∧ spent
  broken : broken = if found = .stale then 1 else 0

/-- The taking of a lock is decided by its last attempt: what the locker finds there decides by
`Finding.Decides`, and all earlier attempts find the lock fresh. -/
structure Locker.Decides (locker : Locker) (host : Host) (lock : String) (tries retries : Nat)
    (status : MailLockStatus) (next : Locker) (after : Host) : Prop where
  within : tries ≤ retries
  earlier : ∀ early < tries, locker.finding (locker.attemptHost host lock early) lock = .fresh
  /-- A lock that was changed at the time of an attempt, or will be, is stale by its owner only. -/
  future : ∀ attempt id found,
    (locker.attemptHost host lock attempt).lstat lock = .ok (id, found) →
    (locker.attemptHost host lock attempt).now ≤ found.modified →
    locker.finding (locker.attemptHost host lock attempt) lock ≠ .fresh →
      locker.settings.checkOwner = true ∧
        (locker.attemptHost host lock attempt).tellsDeadOwner locker.process lock = true
  last : ∃ broken, (locker.finding (locker.attemptHost host lock tries) lock).Decides
      (locker.attemptHost host lock tries) lock (tries = retries) status broken ∧
    next.counts.staleRemoved = locker.counts.staleRemoved + broken
  /-- A lock that is a regular file makes room for another one. -/
  clears : ∀ id content, (locker.attemptHost host lock tries).named? lock = some id →
    (locker.attemptHost host lock tries).files.node? id = some (.regular content) →
      (locker.attemptHost host lock tries).Clears lock
  /-- A lock that is found stale by the last attempt is removed. -/
  removed : locker.finding (locker.attemptHost host lock tries) lock = .stale →
    after.named? lock ≠ (locker.attemptHost host lock tries).named? lock
  contentions : next.counts.contentions = locker.counts.contentions + tries
  start : (locker.attemptHost host lock 0).now = host.now
  rests : ∀ attempt, (locker.attemptHost host lock (attempt + 1)).now =
    (locker.attemptHost host lock attempt).now +
      locker.settings.pause (locker.attemptHost host lock attempt) (.ofNat (attempt + 1))
  finish : after.now = (locker.attemptHost host lock tries).now

namespace Host

variable {host other : Host} {path lock : String}

theorem isVacant_congr (files : other.files = host.files) :
    other.IsVacant path ↔ host.IsVacant path := by
  unfold IsVacant
  rw [files]

theorem Clears.of_alike (clears : host.Clears lock) (alike : host.Alike other) :
    other.Clears lock := by
  rcases clears with ⟨removed, unlinked, vacant⟩
  rcases alike.unlink_eq_ok unlinked with ⟨after, stillUnlinked, stillAlike⟩
  exact ⟨after, stillUnlinked, (isVacant_congr stillAlike.files).mpr vacant⟩

theorem clears_congr (alike : host.Alike other) : other.Clears lock ↔ host.Clears lock :=
  ⟨fun clears => clears.of_alike alike.symm, fun clears => clears.of_alike alike⟩

theorem clears_of_regular {id : FileId} {content : ByteArray} {last : Char}
    (named : host.named? lock = some id)
    (regular : host.files.node? id = some (.regular content))
    (ends : lock.toList.getLast? = some last) (noSlash : last ≠ '/') (noDot : last ≠ '.') :
    host.Clears lock := by
  rcases named?_eq_some_iff_names.mp named with ⟨writable, names, _⟩
  rcases exists_unlink writable names regular ends noSlash noDot with ⟨removed, unlinked⟩
  rcases (resets_unlink (unlink_eq_ok unlinked).1 names.leads regular).entry with
    ⟨directory, name, _, located, _⟩
  exact ⟨removed, unlinked, writable, directory, name, located⟩

theorem named?_of_remaining {id : FileId} (files : other.files = host.remaining path)
    (named : other.named? lock = some id) : host.named? lock = some id := by
  rcases host.remaining_cases path with same | removed
  · exact (named?_congr (files.trans same) lock).symm.trans named
  · rw [← files] at removed
    rcases named?_eq_some_iff_names.mp named with ⟨writable, names, known⟩
    rw [isSome_file_of_unlink removed] at known
    exact named?_eq_some_iff_names.mpr ⟨writable, names.of_unlink removed, known⟩

theorem exists_link_of_isVacant {existing : String} {id : FileId} {content : ByteArray}
    (named : host.named? existing = some id)
    (regular : host.files.node? id = some (.regular content)) (vacant : host.IsVacant path) :
    ∃ linked, host.link existing path = .ok linked := by
  rcases vacant with ⟨writable, directory, name, located⟩
  rcases named?_eq_some_iff.mp named with ⟨⟨node, links, modified, accessed⟩, looked⟩
  rcases lstat_eq_ok_iff.mp looked with ⟨existingWritable, isFound⟩
  rcases find_eq_ok_iff.mp isFound with ⟨_, _, _, isFile⟩
  obtain rfl : node = .regular content := by simpa [node?, isFile] using regular
  obtain ⟨files, made⟩ : ∃ files, host.files.link existing path host.now = .ok files := by
    unfold FileSystem.link FileSystem.lstat
    rw [isFound]
    simp [vacancy_eq_ok_iff.mpr located, File.isDirectory]
  simp only [IsWritable] at writable existingWritable
  refine ⟨host.withFiles files, ?_⟩
  simp only [link, calling, List.any_cons, List.any_nil, writable, existingWritable, Bool.or_self,
    Bool.false_eq_true, if_false, made]
  rfl

end Host

/-- Hosts that are `Alike` decide the same way. -/
theorem Finding.Decides.of_alike {locker : Locker} {host other : Host} {lock : String}
    {spent : Prop} {status : MailLockStatus} {broken : Nat}
    (decides : (locker.finding other lock).Decides other lock spent status broken)
    (alike : host.Alike other) :
    (locker.finding host lock).Decides host lock spent status broken := by
  rw [Locker.finding_of_alike alike] at decides
  rcases decides with ⟨success, error, maxTries, isBroken⟩
  rw [Host.clears_congr alike] at success error
  exact ⟨success, error, maxTries, isBroken⟩

namespace Acquisition.Attempts

variable {locker : Locker} {work : Acquisition} {start host : Host} {own : FileId} {user : String}
  {settings : MailSettings} {mail : Option String} {process : ProcessId} {tag : Nat}
  {status : MailLockStatus} {broken : Nat} {files : FileSystem}

theorem isWritable_lock (attempts : Attempts start own work host)
    (isLock : settings.lockPath mail user = .ok work.lock)
    (isTemporary : work.temporary = temporaryPath work.lock process tag) :
    Host.IsWritable work.lock := by
  have writable := attempts.more.writable
  rw [isTemporary] at writable
  exact isWritable_of_temporaryPath isLock writable

theorem isVacant (attempts : Attempts start own work host)
    (isLock : settings.lockPath mail user = .ok work.lock)
    (isTemporary : work.temporary = temporaryPath work.lock process tag)
    (short : work.lock.utf8ByteSize < pathLimit) (unnamed : host.named? work.lock = none) :
    host.IsVacant work.lock := by
  have writable := attempts.isWritable_lock isLock isTemporary
  rcases attempts.more.beside.resets.entry with ⟨directory, name, _, located, _⟩
  rw [isTemporary] at located
  rcases exists_locate_lock isLock short located with ⟨text, isThere⟩
  refine ⟨writable, directory, text, ?_⟩
  rcases found : host.files.child? directory text with _ | id
  · rw [isThere, found]
  · have names : host.files.Names work.lock id := ⟨_, isThere, found⟩
    have known := attempts.more.beside.sound.named directory text id found
    rw [Host.named?_eq_some_iff_names.mpr ⟨writable, names, known⟩] at unnamed
    simp at unnamed

theorem named?_of_isVacant {removed : Host} (attempts : Attempts start own work host)
    (isLock : settings.lockPath mail user = .ok work.lock)
    (isTemporary : work.temporary = temporaryPath work.lock process tag)
    (unlinked : host.unlink work.lock = .ok removed) (vacant : removed.IsVacant work.lock) :
    removed.named? work.temporary = some own := by
  rcases attempts.exists_leads_of_unlink unlinked with ⟨content, leads, regular⟩
  rcases attempts.more.beside.resets.entry with ⟨directory, name, _, located, _⟩
  rcases vacant with ⟨_, folder, text, isThere⟩
  have stillLocated : removed.files.locate false work.temporary =
      .ok (.entry folder name (removed.files.child? folder name)) := by
    rw [isTemporary] at located ⊢
    exact locate_temporary isLock located isThere
  refine Host.named?_eq_some_iff_names.mpr ⟨attempts.more.writable,
    ⟨_, stillLocated, leads.eq_of_locate stillLocated⟩, ?_⟩
  rw [← isSome_node?, regular]
  rfl

/-- What is found at an attempt `Decides` the `Verdict` that comes of it. -/
theorem decides (attempts : Attempts start own work host)
    (isLock : settings.lockPath mail user = .ok work.lock)
    (isTemporary : work.temporary = temporaryPath work.lock process tag)
    (verdict : work.Verdict host status broken files) :
    (work.locker.finding host work.lock).Decides host work.lock (work.retries ≤ work.attempt) status
      broken := by
  cases verdict with
  | taken linked found made =>
      rcases link_spec (Host.link_eq_ok made).1 with ⟨_, _, _, _, _, located, _⟩
      have short := (locate_eq_walk located).2.1
      exact ⟨by simp [found, short], by simp [found, short], by simp [found], by simp [found]⟩
  | barred error found refused =>
      have long : pathLimit ≤ work.lock.utf8ByteSize := by
        by_contra short
        have vacant := attempts.isVacant isLock isTemporary (Nat.not_le.mp short)
          (Locker.finding_eq_free_iff.mp found)
        rcases attempts.more.beside.regular with ⟨content, regular⟩
        rcases attempts.more.exists_lstat with ⟨made, _, here, _⟩
        rcases Host.exists_link_of_isVacant (Host.named?_eq_some_iff.mpr ⟨made, here⟩) regular
          vacant with ⟨linked, made⟩
        simp [made] at refused
      have notShort := Nat.not_lt.mpr long
      exact ⟨by simp [found, notShort], by simp [found, long], by simp [found], by simp [found]⟩
  | broken removed linked found unlinked made =>
      have clears : host.Clears work.lock := by
        rcases link_spec (Host.link_eq_ok made).1 with ⟨directory, name, _, _, _, located, _⟩
        exact ⟨removed, unlinked, attempts.isWritable_lock isLock isTemporary, directory, name,
          located⟩
      exact ⟨by simp [found, clears], by simp [found, clears], by simp [found], by simp [found]⟩
  | closed removed error found unlinked refused =>
      have shut : ¬host.Clears work.lock := by
        rintro ⟨other, again, vacant⟩
        cases unlinked.symm.trans again
        have named := attempts.named?_of_isVacant isLock isTemporary unlinked vacant
        rcases attempts.exists_leads_of_unlink unlinked with ⟨content, _, regular⟩
        rcases Host.exists_link_of_isVacant named regular vacant with ⟨linked, made⟩
        simp [made] at refused
      exact ⟨by simp [found, shut], by simp [found, shut], by simp [found], by simp [found]⟩
  | obstructed found =>
      exact ⟨by simp [found], by simp [found], by simp [found], by simp [found]⟩
  | exhausted found spent =>
      exact ⟨by simp [found], by simp [found], by simp [found, spent], by simp [found]⟩

/-- A lock that is found stale is not there any more when the attempt is over. -/
theorem named?_ne_of_stale (attempts : Attempts start own work host)
    (verdict : work.Verdict host status broken files)
    (stale : work.locker.finding host work.lock = .stale) {after : Host}
    (left : after.files = files) : after.named? work.lock ≠ host.named? work.lock := by
  intro same
  obtain ⟨lock, named⟩ : ∃ lock, host.named? work.lock = some lock := by
    refine Option.ne_none_iff_exists'.mp fun unnamed => ?_
    simp [Locker.finding_eq_free_iff.mpr unnamed] at stale
  have different : lock ≠ own := by
    rintro rfl
    exact attempts.not_names_lock (Host.named?_eq_some_iff_names.mp named).2.1
  rw [named] at same
  cases verdict with
  | broken removed linked found unlinked made =>
      rcases attempts.exists_leads_of_unlink unlinked with ⟨content, leads, regular⟩
      have isLinked := Host.named?_of_link made (Host.named?_of_leads made leads regular) regular
      have still := Host.named?_of_remaining left same
      exact different (Option.some.inj (still.symm.trans isLinked))
  | closed removed error found unlinked refused =>
      have still := Host.named?_of_remaining left same
      simp [Host.named?_eq_none_of_unlink unlinked] at still
  | taken _ found | barred _ found | obstructed found | exhausted found =>
      simp [found] at stale

end Acquisition.Attempts

namespace Locker

variable {locker next : Locker} {host after : Host} {user lock : String} {retries : UInt32}
  {status : MailLockStatus}

theorem tellsDeadOwner_of_finding {id : FileId} {found : File}
    (looked : host.lstat lock = .ok (id, found)) (later : host.now ≤ found.modified)
    (notFresh : locker.finding host lock ≠ .fresh) :
    locker.settings.checkOwner = true ∧ host.tellsDeadOwner locker.process lock = true := by
  by_contra noOwner
  have isFresh : locker.isStale host lock found = false := by
    simp only [isStale, isOutdated_of_le locker.settings later, Bool.false_or,
      Bool.and_eq_false_imp]
    simpa using noOwner
  simp [finding, looked, isFresh] at notFresh

/-- The taking of a lock is decided by an attempt that comes to a `Verdict`, after those that have
found the lock fresh. -/
theorem decides_of_verdict {own : FileId} {created ready last : Host} {tries broken : Nat}
    (sound : host.files.Sound) (still : host.IsStill)
    (isLock : locker.lockPath host user = .ok lock)
    (made : (locker.vacated host).create (locker.temporaryFor host lock) = .ok (own, created))
    (written : created.fill own (ownerRecord locker.recordedOwner) = .ok ready)
    (within : tries ≤ retries.toNat)
    (fresh : ∀ early < tries, locker.finding (locker.settings.rested ready early) lock = .fresh)
    (alike : (locker.settings.rested ready tries).Alike last)
    (verdict : ((locker.beginning host user lock retries).tried tries).Verdict last status broken
      after.files)
    (now : after.now = last.now) :
    locker.Decides host lock tries retries.toNat status
      (((locker.beginning host user lock retries).tried tries).locker.settled user lock status
        broken) after := by
  have isReady : ready = locker.readied host lock := by
    simp [readied, Host.prepared, made, written, Except.toOption]
  have reached : (locker.attemptHost host lock tries).Alike last := by
    rw [attemptHost, ← isReady]
    exact alike
  have attempts := (attempts_of_written retries sound isLock made written).tried
    (files_of_rested still made written alike) tries
  have isTemporary : ((locker.beginning host user lock retries).tried tries).temporary =
      temporaryPath lock locker.process (host.draw UInt32.size).1 := by
    rw [Acquisition.temporary_tried, temporary_beginning, temporaryFor]
  have decides := attempts.decides isLock isTemporary verdict
  have spent : ((locker.beginning host user lock retries).tried tries).retries ≤
      ((locker.beginning host user lock retries).tried tries).attempt ↔ tries = retries.toNat :=
    Acquisition.attempt_tried within
  rw [spent] at decides
  constructor
  case within => exact within
  case earlier =>
    unfold attemptHost
    rw [← isReady]
    exact fresh
  case future =>
    exact fun attempt id found looked later notFresh =>
      tellsDeadOwner_of_finding looked later notFresh
  case last => exact ⟨broken, decides.of_alike reached, staleRemoved_settled ..⟩
  case clears =>
    exact fun id content named regular =>
      Host.clears_of_regular named regular (getLast?_lockPath isLock) (by decide) (by decide)
  case removed =>
    intro stale
    rw [← finding_of_alike reached] at stale
    rw [← Host.named?_congr reached.files]
    exact attempts.named?_ne_of_stale verdict stale rfl
  case contentions => exact contentions_settled ..
  case start =>
    rw [attemptHost, ← isReady]
    exact now_of_written made written
  case rests => exact fun attempt => locker.settings.now_rest _ _
  case finish => exact now.trans reached.now

/-- On a still host, a locker that `CanPrepare` its temporary file ends as `Decides` tells after
some number of tries, and any other one with the status of a temporary file that could not be made
or written. -/
theorem decides_of_acquire (sound : host.files.Sound) (still : host.IsStill)
    (isLock : locker.lockPath host user = .ok lock)
    (acquired : locker.acquire host user retries = (status, next, after)) :
    ((locker.vacated host).CanPrepare (locker.temporaryFor host lock) ∧
      ∃ tries, locker.Decides host lock tries retries.toNat status next after) ∨
    (¬(locker.vacated host).CanPrepare (locker.temporaryFor host lock) ∧
      (status = .temporaryLock ∨ status = .temporaryWrite)) := by
  have prepares := Host.canPrepare_iff (locker.temporaryFor host lock)
    (locker.sound_vacated sound) (ownerRecord locker.recordedOwner)
  cases concludes_of_acquire sound still isLock acquired with
  | unmade error after refused =>
      refine Or.inr ⟨?_, Or.inl rfl⟩
      rw [prepares]
      rintro ⟨own, created, ready, made, _⟩
      simp [made] at refused
  | unwritten own created after error isMade failed =>
      refine Or.inr ⟨?_, Or.inr rfl⟩
      rw [prepares]
      rintro ⟨_, _, ready, made, written⟩
      rw [made] at isMade
      cases isMade
      simp [written] at failed
  | decided own created ready last after tries broken status made written within fresh alike
      verdict now =>
      exact Or.inl ⟨prepares.mpr ⟨own, created, ready, made, written⟩, tries,
        decides_of_verdict sound still isLock made written within fresh alike verdict now⟩

/-! ## A lock that goes stale while its taker rests -/

/-- A spool with a lock that is one second old. -/
def ripeningHost : Host :=
  { Host.boot (seconds 1) fun number => number with
    files := ((FileSystem.empty 0).make root "u.lock" (.regular (ownerRecord 1)) 0).2 }

theorem sound_ripeningHost : ripeningHost.files.Sound :=
  sound_busyHost

def ripenedEnd : Acquisition × Host :=
  Acquisition.round^[17] (Acquisition.begin patientLocker ripeningHost "u" "/u.lock" 3)

theorem acquire_ripeningHost :
    patientLocker.acquire ripeningHost "u" 3 = (.success, ripenedEnd.1.locker, ripenedEnd.2) := by
  have found : patientLocker.lockPath ripeningHost "u" = .ok "/u.lock" := by decide +kernel
  unfold ripenedEnd
  apply Acquisition.acquire_eq_of_iterate "/u.lock" 17 found
  · decide +kernel
  · decide +kernel

theorem decides_of_acquire_ripeningHost :
    ripeningHost.files.Sound ∧ ripeningHost.IsStill ∧
      patientLocker.lockPath ripeningHost "u" = .ok "/u.lock" ∧
      ripenedEnd.1.locker.counts.staleRemoved = 1 ∧
      patientLocker.Decides ripeningHost "/u.lock" 1 3 .success ripenedEnd.1.locker
        ripenedEnd.2 := by
  have still : ripeningHost.IsStill := Host.isStill_of_agenda_eq_nil rfl
  have found : patientLocker.lockPath ripeningHost "u" = .ok "/u.lock" := by decide +kernel
  refine ⟨sound_ripeningHost, still, found, by decide +kernel, ?_⟩
  rcases decides_of_acquire sound_ripeningHost still found acquire_ripeningHost with
    ⟨_, tries, decides⟩ | ⟨_, unprepared⟩
  · have contentions : ripenedEnd.1.locker.counts.contentions = 1 := by decide +kernel
    obtain rfl : tries = 1 := by
      rw [decides.contentions] at contentions
      exact (Nat.zero_add tries).symm.trans contentions
    exact decides
  · simp at unprepared

/-! ## A lock that is a way to itself -/

/-- A spool with an old symbolic link to the directory in which it lies. The mailbox of the user is
reached over the link, and so is its lock: the lock is the link. -/
def detourHost : Host :=
  { (Host.boot (seconds 1000) fun number => number).setVariable 1 "MAIL" (some "/u.lock/u") with
    files := ((FileSystem.empty 0).make root "u.lock" (.link ".") 0).2 }

def detourLocker : Locker where
  process := 1
  settings := { spoolDirectory := "/", checkOwner := false }

def detourEnd : Acquisition × Host :=
  Acquisition.round^[11] (Acquisition.begin detourLocker detourHost "u" "/u.lock/u.lock" 0)

theorem sound_detourHost : detourHost.files.Sound := by
  have made : ((FileSystem.empty 0).make root "u.lock" (.link ".") 0).2.Sound := by
    apply (sound_empty 0).make_plain
    · simp
    · decide +kernel
    · decide +kernel
  exact made

theorem lockPath_detourHost :
    detourLocker.lockPath detourHost "u" = .ok "/u.lock/u.lock" := by
  decide +kernel

theorem acquire_detourHost :
    detourLocker.acquire detourHost "u" 0 = (.error, detourEnd.1.locker, detourEnd.2) := by
  unfold detourEnd
  apply Acquisition.acquire_eq_of_iterate "/u.lock/u.lock" 11 lockPath_detourHost
  · decide +kernel
  · decide +kernel

/-- The temporary file can be made and written, and a stale lock that is no directory is found and
removed, but it is not taken. -/
theorem stale_link_not_taken :
    detourHost.files.Sound ∧ detourHost.IsStill ∧
      (detourLocker.vacated detourHost).CanPrepare
        (detourLocker.temporaryFor detourHost "/u.lock/u.lock") ∧
      detourLocker.finding (detourLocker.attemptHost detourHost "/u.lock/u.lock" 0)
        "/u.lock/u.lock" = .stale ∧
      detourLocker.acquire detourHost "u" 0 = (.error, detourEnd.1.locker, detourEnd.2) ∧
      detourEnd.1.locker.counts.staleRemoved = 1 := by
  refine ⟨sound_detourHost, ?_, ?_, by decide +kernel, acquire_detourHost, by decide +kernel⟩
  · exact Host.isStill_of_agenda_eq_nil rfl
  · have writable : (detourLocker.temporaryFor detourHost "/u.lock/u.lock").toList.contains '\x00' =
        false := by decide +kernel
    exact ⟨⟨writable, root, temporaryName 1 0, by decide +kernel⟩, by decide +kernel⟩

end Locker

end MailSpool
