import MailSpool.Proofs.Dotlock.Attempts

/-!
# Locks that are pursued while others act

A lock is pursued from the first attempt to link it on. Between any two calls of the locker others
may do to the files what they like, and time passes. In the course of a pursuit the links are
counted, and how often a file has left the path of the lock, or was put there by others.

What one step and one change keep of the two accounts holds to the end of any pursuit. So the number
of links is bounded by what has happened to the path of the lock, by `links_bounded`, and the loop
ends, although the locker does not count every link as an attempt.
-/

namespace MailSpool

open FileSystem

/-- The taking of a lock from the first link on, with what has happened since. -/
structure Pursuit where
  work : Acquisition
  host : Host
  /-- Attempts to link. -/
  links : Nat := 0
  /-- How often a file has left the path of the lock. -/
  departures : Nat := 0
  /-- How often the path of the lock has come to name a file by what others did. -/
  arrivals : Nat := 0
  /-- Steps of the locker, apart from those in which it goes on to rest. -/
  steps : Nat := 0

/-- What happens meanwhile. -/
inductive PursuitMove where
  | step
  /-- Time passes, or others act. -/
  | change (next : Host)

namespace Pursuit

def begin (work : Acquisition) (host : Host) : Pursuit where
  work := work
  host := host

def move (pursuit : Pursuit) : PursuitMove → Pursuit
  | .step =>
    let (next, after) := pursuit.work.step pursuit.host
    { work := next
      host := after
      links := pursuit.links + pursuit.work.stage.tries
      departures := pursuit.departures + departure pursuit.work.lock pursuit.host after
      arrivals := pursuit.arrivals
      steps := pursuit.steps + if pursuit.work.isAsleep pursuit.host then 0 else 1 }
  | .change next =>
    { pursuit with
      host := next
      departures := pursuit.departures + departure pursuit.work.lock pursuit.host next
      arrivals := pursuit.arrivals + arrival pursuit.work.lock pursuit.host next }

def run (pursuit : Pursuit) (moves : List PursuitMove) : Pursuit :=
  moves.foldl move pursuit

/-- Others leave the path of the temporary file its file, and that a regular one. -/
def Spares (pursuit : Pursuit) : PursuitMove → Prop
  | .step => True
  | .change next =>
    next.named? pursuit.work.temporary = pursuit.host.named? pursuit.work.temporary ∧
      ∀ file content, pursuit.host.named? pursuit.work.temporary = some file →
        pursuit.host.files.node? file = some (.regular content) →
          ∃ other, next.files.node? file = some (.regular other)

def Permits : Pursuit → List PursuitMove → Prop
  | _, [] => True
  | pursuit, move :: later => pursuit.Spares move ∧ (pursuit.move move).Permits later

variable {pursuit : Pursuit}

theorem permits_steps (count : Nat) : pursuit.Permits (List.replicate count .step) := by
  induction count generalizing pursuit with
  | zero => trivial
  | succ count ih => exact ⟨trivial, ih⟩

theorem permits_append_iff {early late : List PursuitMove} :
    pursuit.Permits (early ++ late) ↔ pursuit.Permits early ∧ (pursuit.run early).Permits late := by
  induction early generalizing pursuit with
  | nil => simp [Permits, run]
  | cons move rest ih =>
      simp only [List.cons_append, Permits, ih, and_assoc]
      rfl

def named? (pursuit : Pursuit) : Option FileId :=
  pursuit.host.named? pursuit.work.lock

/-- What holds whatever others do: all links but one are paid by attempts that were counted and by
departures. -/
structure Paid (pursuit : Pursuit) : Prop where
  isRound : pursuit.work.stage.IsRound
  allowed : pursuit.work.attempt.toNat ≤ pursuit.work.retries.toNat
  paid : pursuit.links + pursuit.work.stage.due pursuit.named? ≤
    pursuit.work.attempt.toNat + 1 + pursuit.departures
  late : (∀ status, pursuit.work.stage ≠ .finished status) →
    pursuit.steps + 8 ≤ 8 * pursuit.links + pursuit.work.stage.lateness

/-- What holds while others spare the temporary file: all links but two are paid by attempts that
were counted and by arrivals. -/
structure Covered (own : FileId) (pursuit : Pursuit) : Prop where
  isRound : pursuit.work.stage.IsRound
  minds : pursuit.work.Minds own pursuit.host
  covered : pursuit.links + pursuit.work.stage.due pursuit.named? +
      pursuit.work.stage.stake own pursuit.named? ≤
    pursuit.work.attempt.toNat + 2 + pursuit.arrivals

theorem Paid.change (paid : pursuit.Paid) (next : Host) : (pursuit.move (.change next)).Paid where
  isRound := paid.isRound
  allowed := paid.allowed
  paid := by
    have owed := paid.paid
    have more := due_le_of_change pursuit.work.stage pursuit.work.lock pursuit.host next
    simp only [move, named?] at owed more ⊢
    omega
  late := paid.late

theorem Paid.step (paid : pursuit.Paid) : (pursuit.move .step).Paid := by
  have turn := Acquisition.turn_step pursuit.host paid.isRound
  have lock := (Acquisition.continues_step pursuit.work pursuit.host).lock
  have retries := pursuit.work.retries_step pursuit.host
  refine ⟨turn.isRound, ?_, ?_, ?_⟩
  · simp only [move, retries]
    exact turn.attempt_le paid.allowed
  · have owed := paid.paid
    have more := turn.due_le
    simp only [move, named?, lock] at owed more ⊢
    omega
  · intro going
    have late := paid.late
    have more := turn.lateness_le going
    simp only [move] at late more ⊢
    have wasGoing : ∀ status, pursuit.work.stage ≠ .finished status := by
      intro status ended
      have same := Acquisition.step_of_finished pursuit.host ended
      apply going status
      simp only [move, same, ended]
    have before := late wasGoing
    omega

theorem Paid.run (paid : pursuit.Paid) (moves : List PursuitMove) : (pursuit.run moves).Paid := by
  induction moves generalizing pursuit with
  | nil => exact paid
  | cons move later ih =>
      cases move with
      | step => exact ih paid.step
      | change next => exact ih (paid.change next)

theorem Covered.change {own : FileId} (covered : pursuit.Covered own) {next : Host}
    (spares : pursuit.Spares (.change next)) : (pursuit.move (.change next)).Covered own where
  isRound := covered.isRound
  minds := by
    rcases spares with ⟨same, regular⟩
    cases covered.minds with
    | keeps content named isRegular compared =>
        rcases regular own content named isRegular with ⟨other, still⟩
        exact .keeps other (same.trans named) still compared
    | lacks named vain => exact .lacks (same.trans named) vain
  covered := by
    have owed := covered.covered
    have more := stake_le_of_change pursuit.work.stage pursuit.work.lock own pursuit.host next
    simp only [move, named?] at owed more ⊢
    omega

theorem Covered.step {own : FileId} (covered : pursuit.Covered own) :
    (pursuit.move .step).Covered own := by
  have turn := Acquisition.turn_step pursuit.host covered.isRound
  have continues := Acquisition.continues_step pursuit.work pursuit.host
  refine ⟨turn.isRound, turn.minds continues.temporary covered.minds, ?_⟩
  have owed := covered.covered
  have more := turn.stake_le covered.minds
  simp only [move, named?, continues.lock] at owed more ⊢
  omega

theorem Covered.run {own : FileId} {moves : List PursuitMove} (covered : pursuit.Covered own)
    (permits : pursuit.Permits moves) : (pursuit.run moves).Covered own := by
  induction moves generalizing pursuit with
  | nil => exact covered
  | cons move later ih =>
      cases move with
      | step => exact ih covered.step permits.2
      | change next => exact ih (covered.change permits.1) permits.2

theorem retries_run (moves : List PursuitMove) :
    (pursuit.run moves).work.retries = pursuit.work.retries := by
  induction moves generalizing pursuit with
  | nil => rfl
  | cons move later ih =>
      cases move with
      | step => exact ih.trans (pursuit.work.retries_step pursuit.host)
      | change next => exact ih

theorem paid_begin {work : Acquisition} (host : Host) (stage : work.stage = .linking)
    (first : work.attempt = 0) : (begin work host).Paid where
  isRound := by
    rw [begin, stage]
    exact Or.inl trivial
  allowed := by simp [begin, first]
  paid := by simp [begin, stage]
  late := by simp [begin, stage]

theorem covered_begin {work : Acquisition} {own : FileId} {content : ByteArray} {host : Host}
    (stage : work.stage = .linking) (first : work.attempt = 0)
    (named : host.named? work.temporary = some own)
    (regular : host.files.node? own = some (.regular content)) : (begin work host).Covered own where
  isRound := (paid_begin host stage first).isRound
  minds := .keeps content named regular (by simp [begin, stage])
  covered := by
    by_cases free : host.named? work.lock = none
    · simp [begin, stage, Pursuit.named?, first, free]
    · simp [begin, stage, Pursuit.named?, first, free]

/-- From the first link on, whatever others do between two calls, a locker tries to link at most
once more often than it may retry and than there are `departures` from the path of the lock. If
others leave the temporary file alone, as `Permits` says, it tries at most twice more often than it
may retry and than there are `arrivals`, so at most that often in all if nobody makes a lock; and
once it has made eight steps for each of these links, and one more, it has come to its end. -/
theorem links_bounded {work : Acquisition} (host : Host) (moves : List PursuitMove)
    (stage : work.stage = .linking) (first : work.attempt = 0) :
    ((begin work host).run moves).links ≤
        work.retries.toNat + 1 + ((begin work host).run moves).departures ∧
      ∀ own content, host.named? work.temporary = some own →
        host.files.node? own = some (.regular content) → (begin work host).Permits moves →
          ((begin work host).run moves).links ≤
              work.retries.toNat + 2 + ((begin work host).run moves).arrivals ∧
            (8 * (work.retries.toNat + 2 + ((begin work host).run moves).arrivals) <
                ((begin work host).run moves).steps →
              ∃ status, ((begin work host).run moves).work.stage = .finished status) := by
  have paid := (paid_begin host stage first).run moves
  have sameRetries : ((begin work host).run moves).work.retries = work.retries := retries_run moves
  have allowed := paid.allowed
  rw [sameRetries] at allowed
  refine ⟨?_, ?_⟩
  · have owed := paid.paid
    omega
  · intro own content named regular permits
    have covered := ((covered_begin stage first named regular).run permits).covered
    refine ⟨by omega, ?_⟩
    intro many
    by_contra going
    have stillGoing : ∀ status, ((begin work host).run moves).work.stage ≠ .finished status :=
      fun status ended => going ⟨status, ended⟩
    have late := paid.late stillGoing
    have bounded := AcquisitionStage.lateness_le paid.isRound stillGoing
    omega

/-! ## A lock that is broken twice -/

/-- A host with a temporary file and an old lock. -/
def relockedHost : Host :=
  { Host.boot (seconds 1000) fun number => number with
    files :=
      (((FileSystem.empty 0).make root ".lk0000100000000" (.regular (ownerRecord 1)) 0).2.make root
        "u.lock" (.regular .empty) 0).2 }

/-- A locker that must not retry is about to link. -/
def relockedWork : Acquisition where
  locker :=
    { process := 1, settings := { spoolDirectory := "/", honorMail := false, checkOwner := false } }
  user := "u"
  lock := "/u.lock"
  temporary := "/.lk0000100000000"
  retries := 0
  stage := .linking

/-- The old lock was judged and removed. -/
def relockedBreak : Pursuit :=
  (begin relockedWork relockedHost).run (List.replicate 6 .step)

/-- Somebody puts another old lock in the place of the one that was removed. -/
def relockedAgain : Host :=
  { relockedBreak.host with
    files := (relockedBreak.host.files.make root "u.lock" (.regular .empty) 0).2 }

def relocking : List PursuitMove :=
  List.replicate 6 .step ++ .change relockedAgain :: List.replicate 20 .step

theorem named?_relockedHost : relockedHost.named? relockedWork.temporary = some ⟨1⟩ := by
  decide +kernel

theorem node?_relockedHost :
    relockedHost.files.node? ⟨1⟩ = some (.regular (ownerRecord 1)) :=
  rfl

theorem spares_relockedAgain : relockedBreak.Spares (.change relockedAgain) := by
  refine ⟨by decide +kernel, ?_⟩
  intro file content named regular
  have isTemporary : relockedBreak.host.named? relockedBreak.work.temporary = some ⟨1⟩ := by
    decide +kernel
  cases isTemporary.symm.trans named
  exact ⟨ownerRecord 1, rfl⟩

theorem permits_relocking : (begin relockedWork relockedHost).Permits relocking := by
  refine permits_append_iff.mpr ⟨permits_steps 6, spares_relockedAgain, permits_steps 20⟩

/-- Both bounds are met: without a retry, three links for two departures, one arrival. -/
theorem links_bounded_relocking :
    ((begin relockedWork relockedHost).run relocking).links = 3 ∧
      ((begin relockedWork relockedHost).run relocking).departures = 2 ∧
      ((begin relockedWork relockedHost).run relocking).arrivals = 1 ∧
      ((begin relockedWork relockedHost).run relocking).links ≤ relockedWork.retries.toNat + 1 +
        ((begin relockedWork relockedHost).run relocking).departures ∧
      ∃ status,
        ((begin relockedWork relockedHost).run relocking).work.stage = .finished status := by
  have stage : relockedWork.stage = .linking := rfl
  have first : relockedWork.attempt = 0 := rfl
  have bounds := links_bounded relockedHost relocking stage first
  have ends := bounds.2 ⟨1⟩ _ named?_relockedHost node?_relockedHost permits_relocking
  refine ⟨by decide +kernel, by decide +kernel, by decide +kernel, bounds.1, ends.2 ?_⟩
  decide +kernel

end Pursuit

end MailSpool
