import MailSpool.Proofs.Guard.Thread

/-!
# A stopped refresher is silent

A refresher is told by steps that each stand for several: its thread wakes and is about its task at
once, and its owner sends the message and gives up the channel at once. In a `FineRefresher` these
are taken apart. Between the end of a rest and the beginning of the task the owner may send its
message, and then the task is begun although the thread has been told to end. It is not begun after
the owner has gone on: the owner waits until the thread has ended, and before that the thread finds
the message.

A shutdown takes the sending end of the channel and the handle of the thread, each only if they are
still there. So whoever shuts down a refresher again finds neither, sends nothing and waits for
nothing.
-/

namespace MailSpool

/-! ## The messages of a refresher -/

namespace Refresher

/-- A refresher after events at their times. -/
def run (refresher : Refresher) (events : List (Instant × RefresherEvent)) : Refresher :=
  events.foldl (fun earlier event => earlier.step event.1 event.2) refresher

variable {refresher : Refresher}

/-- How far the stopping of a refresher has come, and how many messages were sent. -/
inductive Conduct (refresher : Refresher) : Prop where
  | working (working : refresher.Working) (sent : refresher.sent = 0)
  | stopping (stopping : refresher.Stopping) (sent : refresher.sent = 1)
  | done (owner : refresher.owner = .done) (thread : refresher.thread = .exited)
      (sent : refresher.sent = 1)

theorem Conduct.of_thread {next : Refresher} {now : Instant} {event : RefresherEvent}
    (conduct : refresher.Conduct) (ofThread : event.isOfThread = true)
    (stepped : refresher.step? now event = some next) : next.Conduct := by
  have same : next.sent = refresher.sent := by
    rcases thread_cases ofThread stepped with
      ⟨_, _, _, _, _, rfl⟩ | ⟨_, _, rfl⟩ | ⟨_, _, _, rfl⟩ <;> rfl
  cases conduct with
  | working working sent => exact .working (working.step ofThread stepped) (same.trans sent)
  | stopping stopping sent => exact .stopping (stopping.step ofThread stepped) (same.trans sent)
  | done _ thread _ => simp [step?_of_exited thread ofThread] at stepped

theorem Conduct.of_stop {next : Refresher} {now : Instant} (conduct : refresher.Conduct)
    (stepped : refresher.step? now .stop = some next) : next.Conduct := by
  cases conduct with
  | working working sent =>
      simp only [step?, working.owner, working.message, Bool.false_eq_true, if_false,
        Option.some.injEq] at stepped
      subst stepped
      exact .stopping ⟨rfl, Or.inl rfl⟩ (by simp [sent])
  | stopping stopping _ => simp [step?, stopping.owner] at stepped
  | done owner thread sent =>
      simp only [step?, owner, Option.some.injEq] at stepped
      subst stepped
      exact .done owner thread sent

theorem Conduct.of_join {next : Refresher} {now : Instant} (conduct : refresher.Conduct)
    (stepped : refresher.step? now .join = some next) : next.Conduct := by
  have exited := thread_of_join stepped
  cases conduct with
  | working working _ => simp [step?, working.owner] at stepped
  | stopping stopping sent =>
      simp only [step?, stopping.owner] at stepped
      split at stepped
      case h_1 => exact Option.some.inj stepped ▸ .done rfl ‹_› sent
      case h_2 => simp at stepped
  | done owner _ _ => simp [step?, owner] at stepped

theorem Conduct.step (conduct : refresher.Conduct) (now : Instant) (event : RefresherEvent) :
    (refresher.step now event).Conduct := by
  unfold Refresher.step
  cases stepped : refresher.step? now event with
  | none => exact conduct
  | some next =>
      cases event with
      | stop => exact conduct.of_stop stepped
      | join => exact conduct.of_join stepped
      | wake | rest | receive | disconnect => exact conduct.of_thread rfl stepped

theorem Conduct.run (conduct : refresher.Conduct) (events : List (Instant × RefresherEvent)) :
    (refresher.run events).Conduct := by
  induction events generalizing refresher with
  | nil => exact conduct
  | cons event later ih => exact ih (conduct.step event.1 event.2)

theorem run_of_done (done : refresher.owner = .done) (exited : refresher.thread = .exited)
    (events : List (Instant × RefresherEvent)) : refresher.run events = refresher := by
  induction events with
  | nil => rfl
  | cons event later ih =>
      have same : refresher.step event.1 event.2 = refresher := by
        unfold step
        cases ofThread : event.2.isOfThread with
        | true => rw [step?_of_exited exited ofThread, Option.getD_none]
        | false =>
            cases kind : event.2 with
            | stop | join => simp [step?, done]
            | wake | rest | receive | disconnect =>
                simp [kind, RefresherEvent.isOfThread] at ofThread
      rw [run, List.foldl_cons, same]
      exact ih

/-- A refresher sends one message at most, and there is room for it. When it is stopped, nothing
happens to it any more. -/
structure Silent (refresher : Refresher) : Prop where
  few : refresher.sent ≤ 1
  room : refresher.owner = .idle → ∀ now, ∃ next, refresher.step? now .stop = some next
  stopped : refresher.owner = .done → ∀ later, refresher.run later = refresher

theorem Conduct.silent (conduct : refresher.Conduct) : refresher.Silent := by
  cases conduct with
  | working working sent =>
      refine ⟨by simp [sent], ?_, by simp [working.owner]⟩
      intro _ now
      rcases working.exists_stop now with ⟨next, stopped, _⟩
      exact ⟨next, stopped⟩
  | stopping stopping sent =>
      exact ⟨by simp [sent], by simp [stopping.owner], by simp [stopping.owner]⟩
  | done owner thread sent =>
      exact ⟨by simp [sent], by simp [owner], fun _ => run_of_done owner thread⟩

end Refresher

/-! ## A refresher step by step -/

/-- What the thread of a refresher does, step by step. -/
inductive FineThread where
  /-- It waits for a message, until a time. -/
  | waiting (wake : Instant)
  /-- No message has come in time, and the task is to be begun. -/
  | timedOut
  | working
  /-- It was told to end. -/
  | leaving
  | exited
  deriving DecidableEq, Repr

/-- Whether the thread begins no task any more. -/
def FineThread.isLeft : FineThread → Bool
  | leaving | exited => true
  | _ => false

/-- What the owner of a refresher does, step by step. -/
inductive ShutdownStage where
  /-- It does not shut down the refresher. -/
  | outside
  | takingSender
  | sending
  /-- It gives up the channel. -/
  | closing
  | takingHandle
  | joining
  deriving DecidableEq, Repr

/-- A refresher and its owner, step by step. -/
structure FineRefresher where
  rest : Nat
  thread : FineThread
  stage : ShutdownStage := .outside
  hasSender : Bool := true
  hasHandle : Bool := true
  /-- Whether a message is in the channel. -/
  message : Bool := false
  connected : Bool := true
  sent : Nat := 0
  /-- How often the task was begun. -/
  begun : Nat := 0
  /-- How often the task has ended. -/
  ended : Nat := 0
  /-- How many shutdowns have returned. -/
  returned : Nat := 0
  deriving DecidableEq, Repr

inductive FineEvent where
  | timeOut
  | beginTask
  | endTask
  | receive
  | disconnect
  | exit
  /-- The owner begins to shut down the refresher: it stops it, or drops it. -/
  | shutDown
  /-- The owner goes on to shut down the refresher. -/
  | proceed
  deriving DecidableEq, Repr

namespace FineRefresher

def start (rest : Nat) (now : Instant) : FineRefresher where
  rest := rest
  thread := .waiting (now + rest)

/-- The next step of a shutdown, if it is not held up. There is room for one message, and the end of
the thread is waited for. -/
def proceed? (fine : FineRefresher) : Option FineRefresher :=
  match fine.stage with
  | .outside => none
  | .takingSender =>
    if fine.hasSender then some { fine with stage := .sending, hasSender := false }
    else some { fine with stage := .takingHandle }
  | .sending =>
    if fine.message then none
    else some { fine with stage := .closing, message := true, sent := fine.sent + 1 }
  | .closing => some { fine with stage := .takingHandle, connected := false }
  | .takingHandle =>
    if fine.hasHandle then some { fine with stage := .joining, hasHandle := false }
    else some { fine with stage := .outside, returned := fine.returned + 1 }
  | .joining =>
    if fine.thread = .exited then
      some { fine with stage := .outside, returned := fine.returned + 1 }
    else none

/-- The refresher after an event, if the event can happen. A message or the end of the channel is
found before the time is up. -/
def step? (fine : FineRefresher) (now : Instant) (event : FineEvent) : Option FineRefresher :=
  match event, fine.thread with
  | .timeOut, .waiting wake =>
    if wake ≤ now ∧ fine.message = false ∧ fine.connected = true then
      some { fine with thread := .timedOut }
    else none
  | .beginTask, .timedOut => some { fine with thread := .working, begun := fine.begun + 1 }
  | .endTask, .working =>
    some { fine with thread := .waiting (now + fine.rest), ended := fine.ended + 1 }
  | .receive, .waiting _ =>
    if fine.message then some { fine with thread := .leaving, message := false } else none
  | .disconnect, .waiting _ =>
    if fine.message = false ∧ fine.connected = false then some { fine with thread := .leaving }
    else none
  | .exit, .leaving => some { fine with thread := .exited }
  | .shutDown, _ =>
    if fine.stage = .outside then some { fine with stage := .takingSender } else none
  | .proceed, _ => fine.proceed?
  | _, _ => none

def step (fine : FineRefresher) (now : Instant) (event : FineEvent) : FineRefresher :=
  (fine.step? now event).getD fine

def run (fine : FineRefresher) (events : List (Instant × FineEvent)) : FineRefresher :=
  events.foldl (fun earlier event => earlier.step event.1 event.2) fine

/-- What happens when an event can happen. -/
inductive Turn (fine : FineRefresher) (now : Instant) (next : FineRefresher) :
    FineEvent → Prop where
  | timesOut (wake : Instant) (thread : fine.thread = .waiting wake) (due : wake ≤ now)
      (message : fine.message = false) (connected : fine.connected = true)
      (result : next = { fine with thread := .timedOut }) : Turn fine now next .timeOut
  | begins (thread : fine.thread = .timedOut)
      (result : next = { fine with thread := .working, begun := fine.begun + 1 }) :
      Turn fine now next .beginTask
  | ends (thread : fine.thread = .working)
      (result : next =
        { fine with thread := .waiting (now + fine.rest), ended := fine.ended + 1 }) :
      Turn fine now next .endTask
  | receives (wake : Instant) (thread : fine.thread = .waiting wake) (message : fine.message = true)
      (result : next = { fine with thread := .leaving, message := false }) :
      Turn fine now next .receive
  | disconnects (wake : Instant) (thread : fine.thread = .waiting wake)
      (message : fine.message = false) (connected : fine.connected = false)
      (result : next = { fine with thread := .leaving }) : Turn fine now next .disconnect
  | exits (thread : fine.thread = .leaving) (result : next = { fine with thread := .exited }) :
      Turn fine now next .exit
  | shutsDown (stage : fine.stage = .outside)
      (result : next = { fine with stage := .takingSender }) : Turn fine now next .shutDown
  | takesSender (stage : fine.stage = .takingSender) (hasSender : fine.hasSender = true)
      (result : next = { fine with stage := .sending, hasSender := false }) :
      Turn fine now next .proceed
  | findsNoSender (stage : fine.stage = .takingSender) (hasSender : fine.hasSender = false)
      (result : next = { fine with stage := .takingHandle }) : Turn fine now next .proceed
  | sends (stage : fine.stage = .sending) (message : fine.message = false)
      (result : next =
        { fine with stage := .closing, message := true, sent := fine.sent + 1 }) :
      Turn fine now next .proceed
  | closes (stage : fine.stage = .closing)
      (result : next = { fine with stage := .takingHandle, connected := false }) :
      Turn fine now next .proceed
  | takesHandle (stage : fine.stage = .takingHandle) (hasHandle : fine.hasHandle = true)
      (result : next = { fine with stage := .joining, hasHandle := false }) :
      Turn fine now next .proceed
  | findsNoHandle (stage : fine.stage = .takingHandle) (hasHandle : fine.hasHandle = false)
      (result : next = { fine with stage := .outside, returned := fine.returned + 1 }) :
      Turn fine now next .proceed
  | joins (stage : fine.stage = .joining) (thread : fine.thread = .exited)
      (result : next = { fine with stage := .outside, returned := fine.returned + 1 }) :
      Turn fine now next .proceed

variable {fine next : FineRefresher} {now : Instant} {event : FineEvent}

theorem turn_of_proceed? (proceeded : fine.proceed? = some next) : Turn fine now next .proceed := by
  unfold proceed? at proceeded
  split at proceeded
  case h_1 => simp at proceeded
  case h_2 stage =>
    split at proceeded
    case isTrue has => exact .takesSender stage has (Option.some.inj proceeded).symm
    case isFalse lacks =>
      exact .findsNoSender stage (eq_false_of_ne_true lacks)
        (Option.some.inj proceeded).symm
  case h_3 stage =>
    split at proceeded
    case isTrue => simp at proceeded
    case isFalse room =>
      exact .sends stage (eq_false_of_ne_true room) (Option.some.inj proceeded).symm
  case h_4 stage => exact .closes stage (Option.some.inj proceeded).symm
  case h_5 stage =>
    split at proceeded
    case isTrue has => exact .takesHandle stage has (Option.some.inj proceeded).symm
    case isFalse lacks =>
      exact .findsNoHandle stage (eq_false_of_ne_true lacks)
        (Option.some.inj proceeded).symm
  case h_6 stage =>
    split at proceeded
    case isTrue exited => exact .joins stage exited (Option.some.inj proceeded).symm
    case isFalse => simp at proceeded

theorem turn_of_step? (stepped : fine.step? now event = some next) : Turn fine now next event := by
  unfold step? at stepped
  split at stepped
  case h_1 wake thread =>
    split at stepped
    case isTrue may =>
      exact .timesOut wake thread may.1 may.2.1 may.2.2 (Option.some.inj stepped).symm
    case isFalse => simp at stepped
  case h_2 thread => exact .begins thread (Option.some.inj stepped).symm
  case h_3 thread => exact .ends thread (Option.some.inj stepped).symm
  case h_4 wake thread =>
    split at stepped
    case isTrue message => exact .receives wake thread message (Option.some.inj stepped).symm
    case isFalse => simp at stepped
  case h_5 wake thread =>
    split at stepped
    case isTrue may => exact .disconnects wake thread may.1 may.2 (Option.some.inj stepped).symm
    case isFalse => simp at stepped
  case h_6 thread => exact .exits thread (Option.some.inj stepped).symm
  case h_7 =>
    split at stepped
    case isTrue stage => exact .shutsDown stage (Option.some.inj stepped).symm
    case isFalse => simp at stepped
  case h_8 => exact turn_of_proceed? stepped
  case h_9 => simp at stepped

/-! ## The phases of a shutdown -/

/-- The message is not yet sent, and the thread works. -/
structure Working (fine : FineRefresher) : Prop where
  owner : fine.hasSender = true ∧ (fine.stage = .outside ∨ fine.stage = .takingSender) ∨
    fine.hasSender = false ∧ fine.stage = .sending
  hasHandle : fine.hasHandle = true
  message : fine.message = false
  connected : fine.connected = true
  sent : fine.sent = 0
  returned : fine.returned = 0
  thread : fine.thread.isLeft = false

/-- The message is in the channel until the thread finds it, and the owner comes to wait for the end
of the thread. -/
structure Told (fine : FineRefresher) : Prop where
  owner : fine.hasHandle = true ∧ (fine.stage = .closing ∨ fine.stage = .takingHandle) ∨
    fine.hasHandle = false ∧ fine.stage = .joining
  hasSender : fine.hasSender = false
  sent : fine.sent = 1
  returned : fine.returned = 0
  found : fine.message = !fine.thread.isLeft

/-- A shutdown has returned. One that comes later finds neither sender nor handle. -/
structure Stopped (fine : FineRefresher) : Prop where
  owner : fine.stage = .outside ∨ fine.stage = .takingSender ∨ fine.stage = .takingHandle
  hasSender : fine.hasSender = false
  hasHandle : fine.hasHandle = false
  sent : fine.sent = 1
  returned : 0 < fine.returned
  message : fine.message = false
  thread : fine.thread = .exited

theorem working_start (rest : Nat) (now : Instant) : (start rest now).Working :=
  ⟨Or.inl ⟨rfl, Or.inl rfl⟩, rfl, rfl, rfl, rfl, rfl, rfl⟩

theorem Working.step (working : fine.Working) (turn : Turn fine now next event) :
    next.Working ∨ next.Told := by
  rcases working with ⟨owner, hasHandle, message, connected, sent, returned, thread⟩
  cases turn with
  | timesOut _ _ _ _ _ result | begins _ result | ends _ result =>
      subst result
      exact Or.inl ⟨owner, hasHandle, message, connected, sent, returned, rfl⟩
  | receives _ _ unread _ => simp [message] at unread
  | disconnects _ _ _ closed _ => simp [connected] at closed
  | exits left _ => simp [left, FineThread.isLeft] at thread
  | shutsDown stage result =>
      subst result
      have hasSender : fine.hasSender = true := by simpa [stage] using owner
      exact Or.inl ⟨Or.inl ⟨hasSender, Or.inr rfl⟩, hasHandle, message, connected, sent, returned,
        thread⟩
  | takesSender _ _ result =>
      subst result
      exact Or.inl ⟨Or.inr ⟨rfl, rfl⟩, hasHandle, message, connected, sent, returned, thread⟩
  | findsNoSender stage lacks _ => simp [stage, lacks] at owner
  | sends stage _ result =>
      subst result
      have hasSender : fine.hasSender = false := by simpa [stage] using owner
      exact Or.inr ⟨Or.inl ⟨hasHandle, Or.inl rfl⟩, hasSender, by simp [sent], returned,
        by simp [thread]⟩
  | closes stage _ | takesHandle stage _ _ | findsNoHandle stage _ _ | joins stage _ _ =>
      simp [stage] at owner

theorem Told.step (told : fine.Told) (turn : Turn fine now next event) :
    next.Told ∨ next.Stopped := by
  rcases told with ⟨owner, hasSender, sent, returned, found⟩
  cases turn with
  | timesOut _ thread _ unread _ _ | disconnects _ thread unread _ _ =>
      simp [thread, unread, FineThread.isLeft] at found
  | begins thread result | ends thread result | exits thread result =>
      subst result
      rw [thread] at found
      exact Or.inl ⟨owner, hasSender, sent, returned, found⟩
  | receives _ _ _ result =>
      subst result
      exact Or.inl ⟨owner, hasSender, sent, returned, rfl⟩
  | shutsDown stage _ | takesSender stage _ _ | findsNoSender stage _ _ | sends stage _ _ =>
      simp [stage] at owner
  | closes stage result =>
      subst result
      have hasHandle : fine.hasHandle = true := by simpa [stage] using owner
      exact Or.inl ⟨Or.inl ⟨hasHandle, Or.inr rfl⟩, hasSender, sent, returned, found⟩
  | takesHandle _ _ result =>
      subst result
      exact Or.inl ⟨Or.inr ⟨rfl, rfl⟩, hasSender, sent, returned, found⟩
  | findsNoHandle stage lacks _ => simp [stage, lacks] at owner
  | joins stage exited result =>
      subst result
      have hasHandle : fine.hasHandle = false := by simpa [stage] using owner
      have message : fine.message = false := by simpa [exited, FineThread.isLeft] using found
      exact Or.inr ⟨Or.inl rfl, hasSender, hasHandle, sent, Nat.succ_pos _, message, exited⟩

/-- When a shutdown has returned and the refresher is `Stopped`, all that happens is that others
begin and return. -/
theorem Stopped.step (stopped : fine.Stopped) (turn : Turn fine now next event) :
    next.Stopped ∧ next = { fine with stage := next.stage, returned := next.returned } := by
  rcases stopped with ⟨owner, hasSender, hasHandle, sent, returned, message, thread⟩
  cases turn with
  | timesOut _ other _ _ _ _ | begins other _ | ends other _ | receives _ other _ _
  | disconnects _ other _ _ _ | exits other _ => simp [thread] at other
  | shutsDown _ result =>
      subst result
      exact ⟨⟨Or.inr (Or.inl rfl), hasSender, hasHandle, sent, returned, message, thread⟩, rfl⟩
  | takesSender _ has _ => simp [hasSender] at has
  | findsNoSender _ _ result =>
      subst result
      exact ⟨⟨Or.inr (Or.inr rfl), hasSender, hasHandle, sent, returned, message, thread⟩, rfl⟩
  | sends stage _ _ | closes stage _ | joins stage _ _ => simp [stage] at owner
  | takesHandle _ has _ => simp [hasHandle] at has
  | findsNoHandle _ _ result =>
      subst result
      exact ⟨⟨Or.inl rfl, hasSender, hasHandle, sent, Nat.succ_pos _, message, thread⟩, rfl⟩

inductive Phase (fine : FineRefresher) : Prop where
  | working (working : fine.Working)
  | told (told : fine.Told)
  | stopped (stopped : fine.Stopped)

theorem Phase.step (phase : fine.Phase) (turn : Turn fine now next event) : next.Phase := by
  cases phase with
  | working working =>
      rcases working.step turn with same | told
      · exact .working same
      · exact .told told
  | told told =>
      rcases told.step turn with same | stopped
      · exact .told same
      · exact .stopped stopped
  | stopped stopped => exact .stopped (stopped.step turn).1

theorem phase_start (rest : Nat) (now : Instant) : (start rest now).Phase :=
  .working (working_start rest now)

theorem Phase.working_of_waiting (phase : fine.Phase) {wake : Instant}
    (thread : fine.thread = .waiting wake) (message : fine.message = false) : fine.Working := by
  cases phase with
  | working working => exact working
  | told told => simpa [thread, message, FineThread.isLeft] using told.found
  | stopped stopped => simpa [thread] using stopped.thread

theorem Phase.working_of_sending (phase : fine.Phase) (stage : fine.stage = .sending) :
    fine.Working := by
  cases phase with
  | working working => exact working
  | told told => simpa [stage] using told.owner
  | stopped stopped => simpa [stage] using stopped.owner

theorem Phase.told_of_joining (phase : fine.Phase) (stage : fine.stage = .joining) :
    fine.Told := by
  cases phase with
  | working working => simpa [stage] using working.owner
  | told told => exact told
  | stopped stopped => simpa [stage] using stopped.owner

theorem Phase.stopped_of_takingHandle (phase : fine.Phase) (stage : fine.stage = .takingHandle)
    (lacks : fine.hasHandle = false) : fine.Stopped := by
  cases phase with
  | working working => simpa [stage] using working.owner
  | told told => simpa [stage, lacks] using told.owner
  | stopped stopped => exact stopped

theorem run_induction (Holds : FineRefresher → Prop) (holds : Holds fine)
    (kept : ∀ {earlier later : FineRefresher} {now : Instant} {event : FineEvent},
      Holds earlier → Turn earlier now later event → Holds later)
    (events : List (Instant × FineEvent)) : Holds (fine.run events) := by
  induction events generalizing fine with
  | nil => exact holds
  | cons event later ih =>
      change Holds ((fine.step event.1 event.2).run later)
      refine ih ?_
      unfold step
      cases stepped : fine.step? event.1 event.2 with
      | none => exact holds
      | some next => exact kept holds (turn_of_step? stepped)

theorem Stopped.run (stopped : fine.Stopped) (events : List (Instant × FineEvent)) :
    ∃ stage returned, fine.run events = { fine with stage := stage, returned := returned } := by
  have kept : (fine.run events).Stopped ∧ fine.run events =
      { fine with stage := (fine.run events).stage, returned := (fine.run events).returned } := by
    refine run_induction
      (fun later => later.Stopped ∧
        later = { fine with stage := later.stage, returned := later.returned })
      ⟨stopped, rfl⟩ ?_ events
    intro earlier later now event before turn
    rcases before.1.step turn with ⟨stopped, same⟩
    refine ⟨stopped, ?_⟩
    rw [same, before.2]
  exact ⟨_, _, kept.2⟩

/-! ## Tasks one after another -/

/-- Every task that was begun has ended, but the one that the thread is about. -/
def Counts (fine : FineRefresher) : Prop :=
  fine.begun = fine.ended + if fine.thread = .working then 1 else 0

theorem counts_start (rest : Nat) (now : Instant) : (start rest now).Counts :=
  rfl

theorem Counts.step (counts : fine.Counts) (turn : Turn fine now next event) : next.Counts := by
  unfold Counts at counts ⊢
  cases turn with
  | begins thread result | ends thread result =>
      subst result
      simpa [thread] using counts
  | timesOut _ thread _ _ _ result | receives _ thread _ result
  | disconnects _ thread _ _ result | exits thread result =>
      subst result
      simpa [thread] using counts
  | shutsDown _ result | takesSender _ _ result | findsNoSender _ _ result | sends _ _ result
  | closes _ result | takesHandle _ _ result | findsNoHandle _ _ result | joins _ _ result =>
      subst result
      exact counts

/-! ## A shutdown returns -/

/-- The steps that are left at most to a shutdown and to a thread that is told to end. -/
def stepsLeft (fine : FineRefresher) : Nat :=
  (match fine.stage with
    | .outside => 0
    | .joining => 1
    | .takingHandle => 2
    | .closing => 3
    | .sending => 4
    | .takingSender => 5) +
  match fine.thread with
    | .exited => 0
    | .leaving => 1
    | .waiting _ => 2
    | .working => 3
    | .timedOut => 4

theorem stepsLeft_le (fine : FineRefresher) : fine.stepsLeft ≤ 9 := by
  unfold stepsLeft
  cases fine.stage <;> cases fine.thread <;> simp

/-- A step brings the return of a shutdown nearer, or is its return. -/
structure Nears (fine next : FineRefresher) : Prop where
  less : next.stepsLeft < fine.stepsLeft
  returned : next.returned = fine.returned + if next.stage = .outside then 1 else 0

theorem nears_of_proceed (turn : Turn fine now next .proceed) : fine.Nears next := by
  cases turn with
  | takesSender stage _ result | findsNoSender stage _ result | sends stage _ result
  | closes stage result | takesHandle stage _ result | findsNoHandle stage _ result
  | joins stage _ result =>
      subst result
      exact ⟨by simp [stepsLeft, stage], by simp⟩

theorem Phase.exists_proceed (phase : fine.Phase) (inside : fine.stage ≠ .outside)
    (free : fine.stage = .joining → fine.thread = .exited) :
    ∃ next, fine.proceed? = some next := by
  unfold proceed?
  cases stage : fine.stage with
  | outside => exact absurd stage inside
  | takingSender => cases fine.hasSender <;> exact ⟨_, rfl⟩
  | sending =>
      have room : fine.message = false := (phase.working_of_sending stage).message
      exact ⟨_, by simp [room]; rfl⟩
  | closing => exact ⟨_, rfl⟩
  | takingHandle => cases fine.hasHandle <;> exact ⟨_, rfl⟩
  | joining => exact ⟨_, by simp [free stage]; rfl⟩

/-- A shutdown is held up only while it waits for the thread, and then the thread goes on. -/
theorem Phase.exists_step (phase : fine.Phase) (inside : fine.stage ≠ .outside) (now : Instant) :
    ∃ event next, event ≠ .shutDown ∧ fine.step? now event = some next ∧ fine.Nears next := by
  by_cases free : fine.stage = .joining → fine.thread = .exited
  · rcases phase.exists_proceed inside free with ⟨next, proceeded⟩
    have turn : Turn fine now next .proceed := turn_of_proceed? proceeded
    exact ⟨.proceed, next, by simp, proceeded, nears_of_proceed turn⟩
  obtain ⟨joining, going⟩ := Classical.not_imp.mp free
  have found : fine.message = !fine.thread.isLeft := (phase.told_of_joining joining).found
  cases thread : fine.thread with
  | waiting wake =>
      have message : fine.message = true := by
        rw [found, thread]
        rfl
      refine ⟨.receive, { fine with thread := .leaving, message := false }, by simp, ?_, ?_, ?_⟩
      · simp [step?, thread, message]
      · simp [stepsLeft, thread]
      · simp [joining]
  | timedOut =>
      refine ⟨.beginTask, { fine with thread := .working, begun := fine.begun + 1 }, by simp,
        ?_, ?_, ?_⟩
      · simp [step?, thread]
      · simp [stepsLeft, thread]
      · simp [joining]
  | working =>
      refine ⟨.endTask,
        { fine with thread := .waiting (now + fine.rest), ended := fine.ended + 1 }, by simp,
        ?_, ?_, ?_⟩
      · simp [step?, thread]
      · simp [stepsLeft, thread]
      · simp [joining]
  | leaving =>
      refine ⟨.exit, { fine with thread := .exited }, by simp, ?_, ?_, ?_⟩
      · simp [step?, thread]
      · simp [stepsLeft, thread]
      · simp [joining]
  | exited => exact absurd thread going

/-- A shutdown that has begun can come to its end in at most `stepsLeft` steps. -/
theorem Phase.exists_return (phase : fine.Phase) (inside : fine.stage ≠ .outside) (now : Instant) :
    ∃ way : List (Instant × FineEvent), way.length ≤ fine.stepsLeft ∧
      (∀ event ∈ way, event.1 = now ∧ event.2 ≠ .shutDown) ∧
      (fine.run way).returned = fine.returned + 1 := by
  induction left : fine.stepsLeft using Nat.strongRecOn generalizing fine with
  | ind left ih =>
      subst left
      rcases phase.exists_step inside now with ⟨event, next, goesOn, stepped, less, returned⟩
      have isNext : fine.step now event = next := by simp [FineRefresher.step, stepped]
      by_cases outside : next.stage = .outside
      · refine ⟨[(now, event)], Nat.zero_lt_of_lt less, by simp [goesOn], ?_⟩
        simp [run, isNext, returned, outside]
      · rw [if_neg outside, Nat.add_zero] at returned
        rcases ih _ less (phase.step (turn_of_step? stepped)) outside rfl with
          ⟨way, short, allGoOn, returns⟩
        refine ⟨(now, event) :: way, Nat.succ_le_of_lt (Nat.lt_of_le_of_lt short less), ?_, ?_⟩
        · simpa [goesOn] using allGoOn
        · rw [← returned, ← returns, ← isNext]
          rfl

/-! ## The steps of a refresher -/

/-- A refresher whose steps are told one by one, with the steps of which it counts only the first:
its thread is about its task when its rest is over, and has ended when it was told to; its channel
is given up when the message is sent. -/
def view (fine : FineRefresher) : Refresher where
  rest := fine.rest
  thread :=
    match fine.thread with
    | .waiting wake => .resting wake
    | .timedOut | .working => .running
    | .leaving | .exited => .exited
  owner := if fine.sent = 0 then .idle else if fine.returned = 0 then .joining else .done
  message := fine.message
  connected := fine.sent = 0
  sent := fine.sent
  runs := fine.begun + if fine.thread = .timedOut then 1 else 0

/-- A step is one of the `view`, which is a refresher, or none. -/
theorem Phase.view_step (phase : fine.Phase) (turn : Turn fine now next event) :
    next.view = fine.view ∨ ∃ told, fine.view.step? now told = some next.view := by
  cases turn with
  | timesOut wake thread due message connected result =>
      subst result
      have sent : fine.sent = 0 := (phase.working_of_waiting thread message).sent
      refine Or.inr ⟨.wake, ?_⟩
      simp [Refresher.step?, view, thread, due, message, sent]
  | begins thread result =>
      subst result
      exact Or.inl (by simp [view, thread])
  | ends thread result =>
      subst result
      exact Or.inr ⟨.rest, by simp [Refresher.step?, view, thread]⟩
  | receives wake thread message result =>
      subst result
      exact Or.inr ⟨.receive, by simp [Refresher.step?, view, thread, message]⟩
  | disconnects wake thread message connected result =>
      simp [(phase.working_of_waiting thread message).connected] at connected
  | exits thread result =>
      subst result
      exact Or.inl (by simp [view, thread])
  | shutsDown _ result | takesSender _ _ result | findsNoSender _ _ result | closes _ result
  | takesHandle _ _ result =>
      subst result
      exact Or.inl rfl
  | sends stage message result =>
      subst result
      have working := phase.working_of_sending stage
      refine Or.inr ⟨.stop, ?_⟩
      simp [Refresher.step?, view, message, working.sent, working.returned]
  | findsNoHandle stage lacks result =>
      subst result
      have returned := (phase.stopped_of_takingHandle stage lacks).returned
      exact Or.inl (by simp [view, Nat.ne_of_gt returned])
  | joins stage exited result =>
      subst result
      have told := phase.told_of_joining stage
      exact Or.inr ⟨.join, by simp [Refresher.step?, view, exited, told.sent, told.returned]⟩

/-- The steps of a run are those of the `view`, which is a refresher. -/
theorem Phase.exists_run (phase : fine.Phase) (events : List (Instant × FineEvent)) :
    ∃ told, fine.view.run told = (fine.run events).view := by
  induction events generalizing fine with
  | nil => exact ⟨[], rfl⟩
  | cons event later ih =>
      change ∃ told, fine.view.run told = ((fine.step event.1 event.2).run later).view
      unfold FineRefresher.step
      cases stepped : fine.step? event.1 event.2 with
      | none => exact ih phase
      | some next =>
          have turn := turn_of_step? stepped
          rcases ih (phase.step turn) with ⟨told, result⟩
          rcases phase.view_step turn with same | ⟨first, step⟩
          · exact ⟨told, same ▸ result⟩
          · refine ⟨(event.1, first) :: told, ?_⟩
            rw [Option.getD_some, ← result, Refresher.run, List.foldl_cons, Refresher.step, step]
            rfl

/-- What a `FineRefresher` has come to that began at a time to touch its path after each rest. -/
structure Silent (rest : Nat) (now : Instant) (fine : FineRefresher) : Prop where
  /-- At most one message is ever sent. -/
  few : fine.sent ≤ 1
  /-- There is room for the message. -/
  room : fine.stage = .sending → ∃ next, fine.proceed? = some next
  /-- One task at most is under way. -/
  counts : fine.begun = fine.ended + (if fine.thread = .working then 1 else 0)
  /-- A task is begun only when those before have ended, and none once a shutdown has returned. -/
  begins : ∀ time next, fine.step? time .beginTask = some next →
    fine.begun = fine.ended ∧ fine.returned = 0
  /-- Once a shutdown has returned, nothing happens but that others begin and return. -/
  silent : 0 < fine.returned → ∀ later, ∃ stage returned,
    fine.run later = { fine with stage := stage, returned := returned }
  /-- A shutdown that has begun can always come to its end. -/
  returns : fine.stage ≠ .outside → ∀ time : Instant, ∃ way : List (Instant × FineEvent),
    way.length ≤ 9 ∧ (∀ event ∈ way, event.1 = time ∧ event.2 ≠ .shutDown) ∧
      (fine.run way).returned = fine.returned + 1
  /-- The steps are those of a `Refresher`. -/
  told : ∃ told, (Refresher.start rest now).run told = fine.view
  /-- Once a shutdown has returned, that one is stopped. -/
  stopped : 0 < fine.returned → fine.view.owner = .done
  /-- However a `Refresher` acts, it is silent as well. -/
  coarse : ∀ told refresher, (Refresher.start rest now).run told = refresher → refresher.Silent

/-- However the steps of the thread come between those of an owner that stops or drops the
refresher, and does so again, the refresher is `Silent`: once `returned` is positive, no event
changes more than `stage` and `returned`. -/
theorem silent_once_returned (rest : Nat) (now : Instant) (events : List (Instant × FineEvent))
    {fine : FineRefresher} (course : (start rest now).run events = fine) :
    fine.Silent rest now := by
  have phase : fine.Phase := by
    rw [← course]
    exact run_induction Phase (phase_start rest now) Phase.step events
  have counts : fine.Counts := by
    rw [← course]
    exact run_induction Counts (counts_start rest now) Counts.step events
  have stopped : 0 < fine.returned → fine.Stopped := by
    intro returned
    cases phase with
    | working working => simp [working.returned] at returned
    | told told => simp [told.returned] at returned
    | stopped stopped => exact stopped
  constructor
  case few =>
    cases phase with
    | working working => simp [working.sent]
    | told told => simp [told.sent]
    | stopped stopped => simp [stopped.sent]
  case room =>
    intro sending
    exact phase.exists_proceed (by simp [sending]) (by simp [sending])
  case counts => exact counts
  case begins =>
    intro _ next begins
    cases turn_of_step? begins with
    | begins thread result =>
        refine ⟨by simpa [Counts, thread] using counts, ?_⟩
        cases phase with
        | working working => exact working.returned
        | told told => exact told.returned
        | stopped stopped => simpa [thread] using stopped.thread
  case silent => exact fun returned => (stopped returned).run
  case returns =>
    intro inside time
    rcases phase.exists_return inside time with ⟨way, short, goesOn, returns⟩
    exact ⟨way, Nat.le_trans short fine.stepsLeft_le, goesOn, returns⟩
  case told =>
    rw [← course]
    exact (phase_start rest now).exists_run events
  case stopped =>
    intro returned
    simp [view, (stopped returned).sent, Nat.ne_of_gt returned]
  case coarse =>
    rintro told refresher rfl
    have conduct : (Refresher.start rest now).Conduct :=
      .working (Refresher.working_start rest now) rfl
    exact (conduct.run told).silent

/-- The time of a rest is up just before the message is sent. The owner waits for the task that is
begun afterwards, and shuts down the refresher once more. -/
def lateTask : List (Instant × FineEvent) :=
  [(5, .timeOut), (5, .shutDown), (5, .proceed), (5, .proceed), (6, .beginTask), (6, .proceed),
    (6, .proceed), (7, .endTask), (8, .receive), (8, .exit), (9, .proceed), (9, .shutDown),
    (9, .proceed), (9, .proceed)]

def lateStopped : FineRefresher where
  rest := 5
  thread := .exited
  hasSender := false
  hasHandle := false
  connected := false
  sent := 1
  begun := 1
  ended := 1
  returned := 2

theorem silent_once_returned_lateTask :
    (start 5 0).run lateTask = lateStopped ∧ lateStopped.sent ≤ 1 ∧ 0 < lateStopped.returned ∧
      ∀ later, ∃ stage returned,
        lateStopped.run later = { lateStopped with stage := stage, returned := returned } := by
  have course : (start 5 0).run lateTask = lateStopped := by decide
  have silent := silent_once_returned 5 0 lateTask course
  exact ⟨course, silent.few, by decide, silent.silent (by decide)⟩

end FineRefresher

end MailSpool
