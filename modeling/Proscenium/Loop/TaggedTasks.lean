import Proscenium.Loop.TaskLoop

/-!
# A loop of tagged tasks

A session drives one task loop from its owning thread with tasks that record tags. A task may
record its tag; record it and queue a task recording a second tag; abort with a text; try to
drain the loop it runs on (or to run it), recording how that went; or ask the loop to stop.
Inline work (`runInline`) runs at once on the owning thread.

Each command answers a value and reports the events recorded while it ran, in order.

A task only ever runs inside a drain, where the loop is marked as draining, so a task's attempt
to drain the loop is always refused.
-/

namespace Proscenium

/-- What a tagged task does when it runs. -/
inductive TaggedTask (α : Type) where
  | record (tag : α)
  | chain (tag next : α)
  | fail (text : String)
  | drainFromTask (tag : α)
  | runFromTask (tag : α)
  | stopFromTask
deriving Inhabited

/-- What tasks and inline work record. -/
inductive TaggedEvent (α : Type) where
  | tag (t : α)
  /-- A task's drain or run of its own loop was refused with this text. -/
  | refused (tag : α) (text : String)
  /-- A task's drain or run of its own loop went ahead. -/
  | accepted (tag : α) (ok : Bool)
  /-- A task asked the loop to stop; whether the request was queued. -/
  | stopRequested (queued : Bool)

/-- A loop of tagged tasks and the events recorded so far. -/
structure TaggedSession (α : Type) where
  loop : TaskLoop (TaggedTask α)
  events : List (TaggedEvent α)
deriving Inhabited

/-- The commands a session takes. -/
inductive TaggedCommand (α : Type) where
  | post (tag : α)
  | postChain (tag next : α)
  | postFailing (text : String)
  | postDrain (tag : α)
  | postRun (tag : α)
  | postStop
  | runPending
  | run
  | stop
  | runInline (tag : α)
  | nextZ
  | isStopped
  | onLoopThread

/-- What a command answers. -/
inductive TaggedAnswer (α : Type) where
  | none
  | count (n : Nat)
  | flag (b : Bool)
  | tag (t : α)
  | index (z : Int)

namespace TaggedSession

variable {α : Type}

/-- A fresh session. -/
def fresh : TaggedSession α := ⟨TaskLoop.fresh, []⟩

/-- Record an event. -/
def record (s : TaggedSession α) (e : TaggedEvent α) : TaggedSession α :=
  { s with events := s.events ++ [e] }

/-- A task's attempt to drain (or run) the loop it runs on: refused while a drain is running. -/
def fromTask (s : TaggedSession α) (tag : α) (what : String) : TaggedSession α :=
  if s.loop.draining then
    s.record (.refused tag ("precondition violated: " ++ what ++ " called from inside a ui task"))
  else s.record (.accepted tag true)

/-- What running a task does to the session. -/
def exec : TaggedTask α → TaggedSession α → TaggedSession α × Option Failure
  | .record t, s => (s.record (.tag t), none)
  | .chain t n, s => ({ s.record (.tag t) with loop := s.loop.post (.record n) }, none)
  | .fail text, s => (s, some (.abort text))
  | .drainFromTask t, s => (s.fromTask t "UiLoop::run_pending", none)
  | .runFromTask t, s => (s.fromTask t "UiLoop::run", none)
  | .stopFromTask, s => ({ s.record (.stopRequested true) with loop := s.loop.requestStop }, none)

/-- Messages a queued message may still cause to be taken: itself and what it queues. -/
def weight : Message (TaggedTask α) → Nat
  | .run (.chain _ _) => 2
  | .run .stopFromTask => 2
  | _ => 1

/-- The loop engine of a session. -/
def engine : Engine (TaggedSession α) (TaggedTask α) where
  loop := TaggedSession.loop
  setLoop s l := { s with loop := l }
  exec := exec
  budget s := s.loop.queue.foldl (fun n m => n + weight m) 0 + 1

/-- Run one command. -/
def step (s : TaggedSession α) (c : TaggedCommand α) : Step (TaggedSession α) (TaggedEvent α) (TaggedAnswer α) :=
  let s := { s with events := [] }
  let done (s' : TaggedSession α) (a : Outcome (TaggedAnswer α)) : Step _ _ _ :=
    ⟨{ s' with events := [] }, a, s'.events⟩
  match c with
  | .post t => done { s with loop := s.loop.post (.record t) } (.ok .none)
  | .postChain t n => done { s with loop := s.loop.post (.chain t n) } (.ok .none)
  | .postFailing text => done { s with loop := s.loop.post (.fail text) } (.ok .none)
  | .postDrain t => done { s with loop := s.loop.post (.drainFromTask t) } (.ok .none)
  | .postRun t => done { s with loop := s.loop.post (.runFromTask t) } (.ok .none)
  | .postStop => done { s with loop := s.loop.post .stopFromTask } (.ok .none)
  | .runPending =>
    let (s', r) := engine.runPending s
    done s' (r.map .count)
  | .run =>
    let (s', r) := engine.run s
    done s' (r.map fun _ => .none)
  | .stop => done { s with loop := s.loop.requestStop } (.ok .none)
  | .runInline t =>
    let (s', r) := engine.runInline (.record t) s
    done s' (r.map fun _ => .tag t)
  | .nextZ =>
    let (z, l) := s.loop.allocateZ
    done { s with loop := l } (.ok (.index z))
  | .isStopped => done s (.ok (.flag s.loop.stopped))
  | .onLoopThread => done s (.ok (.flag true))

end TaggedSession

end Proscenium
