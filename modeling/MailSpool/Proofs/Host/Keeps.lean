import MailSpool.Proofs.Host.RecordLocks

/-!
# What a process keeps of a file

Most of what happens on a host `Keeps` for a process what it has of one file: it comes to no new
descriptor of that file, and loses no record lock on it. Where nobody waits for a lock, this can be
told of each process apart from all others, and of one event after another.
-/

namespace MailSpool

/-- No two locks stand against each other, and nobody waits. -/
structure LockTable.Calm (table : LockTable) : Prop where
  compatible : table.Compatible
  idle : ∀ owner, table.isWaiting owner = false

namespace LockTable

variable {lost : RecordLock → Prop} {before after : LockTable} {wanted : RecordLock}

theorem Alters.calm (alters : Alters lost before after) (calm : before.Calm) : after.Calm where
  compatible := Serves.compatible alters calm.compatible
  idle owner := alters.isWaiting (calm.idle owner)

theorem Calm.request (calm : before.Calm) (granted : before.request wanted = some after) :
    after.Calm where
  compatible := (serves_request granted).compatible calm.compatible
  idle owner := isWaiting_of_request granted (calm.idle owner)

end LockTable

namespace Host

/-- What a process has of a file is kept: it comes to no new descriptor of it and loses no lock
on it. -/
structure Keeps (target : FileId) (id : ProcessId) (before after : Host) : Prop where
  alive : after.isAlive id = true → before.isAlive id = true
  opened : after.isAlive id = true → ∀ number file, after.descriptor? id number = some file →
    file.file = target → before.descriptor? id number = some file
  calm : before.locks.Calm → after.locks.Calm
  held : before.locks.Calm → after.isAlive id = true → ∀ lock ∈ before.locks.held,
    lock.owner = id → lock.file = target → lock ∈ after.locks.held

variable {target : FileId} {id actor : ProcessId} {host before between after : Host}

namespace Keeps

theorem refl (target : FileId) (id : ProcessId) (host : Host) : Keeps target id host host where
  alive alive := alive
  opened _ _ _ found _ := found
  calm calm := calm
  held _ _ _ member _ _ := member

theorem trans (first : Keeps target id before between) (second : Keeps target id between after) :
    Keeps target id before after where
  alive alive := first.alive (second.alive alive)
  opened alive number file found isTarget :=
    first.opened (second.alive alive) number file (second.opened alive number file found isTarget)
      isTarget
  calm calm := second.calm (first.calm calm)
  held calm alive lock member isOwner isFile :=
    second.held (first.calm calm) alive lock
      (first.held calm (second.alive alive) lock member isOwner isFile) isOwner isFile

theorem of_wears {lost : RecordLock → Prop} (wears : Wears lost before after)
    (stays : ∀ lock, lost lock → lock.owner = id → lock.file ≠ target) :
    Keeps target id before after where
  alive := wears.isAlive
  opened alive number file found _ := by
    rw [wears.descriptor? alive] at found
    exact found
  calm := wears.locks.calm
  held calm alive lock member isOwner isFile := by
    refine wears.mem_held member ?_ ?_ (calm.idle lock.owner)
    · intro gone
      exact stays lock gone isOwner isFile
    · rw [isOwner]
      exact alive

theorem of_spares (wears : Wears (fun _ => False) before after) :
    Keeps target id before after :=
  .of_wears wears fun _ lost => False.elim lost

theorem of_same (process : after.process = before.process) (locks : after.locks = before.locks) :
    Keeps target id before after :=
  .of_spares (.of_same process locks)

theorem of_sameWorld (world : before.SameWorld after) : Keeps target id before after :=
  .of_same world.process world.locks

theorem of_opens {path : String} {writable : Bool} {number : Nat} {file : OpenFile}
    (opens : Opens before actor path writable number file after)
    (other : id = actor → file.file ≠ target) : Keeps target id before after where
  alive alive := by
    rw [opens.isAlive] at alive
    exact alive
  opened alive place found isFound isTarget := by
    by_cases same : id = actor ∧ place = number
    · rcases same with ⟨rfl, rfl⟩
      rw [opens.descriptor?_self] at isFound
      cases isFound
      exact absurd isTarget (other rfl)
    · rw [opens.descriptor?_of_ne] at isFound
      · exact isFound
      · exact fun isActor isNumber => same ⟨isActor, isNumber⟩
  calm calm := by
    rw [opens.locks]
    exact calm
  held calm alive lock member _ _ := by
    rw [opens.locks]
    exact member

theorem of_close {number : Nat}
    (other : id = actor → ∀ file, before.descriptor? actor number = some file →
      file.file ≠ target) : Keeps target id before (before.close actor number) where
  alive alive := by
    rw [isAlive_close] at alive
    exact alive
  opened _ _ _ found _ := descriptor?_of_close found
  calm := (before.alters_close actor number).calm
  held calm alive lock member isOwner isFile := by
    refine (before.alters_close actor number).kept member ?_ (calm.idle lock.owner)
    rintro ⟨isActor, closed⟩
    rcases Option.map_eq_some_iff.mp closed with ⟨file, found, same⟩
    exact other (isOwner.symm.trans isActor) file found (same.trans isFile)

theorem of_request {wanted : RecordLock} {locks : LockTable}
    (granted : before.locks.request wanted = some locks) (other : id ≠ wanted.owner) :
    Keeps target id before (before.withLocks locks) where
  alive alive := alive
  opened _ _ _ found _ := found
  calm calm := calm.request granted
  held calm _ lock member isOwner _ := by
    refine LockTable.mem_held_of_request_of_ne granted member ?_ (calm.idle lock.owner)
    rw [isOwner]
    exact other

end Keeps

end Host

end MailSpool
