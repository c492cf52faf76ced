import Proscenium.Failure

/-!
# The task loop

One thread owns the scene and runs queued work on it. Its queue holds messages in the order they
were sent: *run a task*, or *stop*. Draining takes messages from the front. A task runs to its
end, and may send further messages, which join the back of the queue and so run in the same
drain if no stop precedes them. A stop message ends the drain and stops the loop for good: a
stopped loop runs nothing more, and its queue is left as it is.

A task that aborts stops the loop too, and the abort reaches whoever drained. A drain may not
start while another is running: a task that tries it is refused with a broken precondition, and
the refusal changes nothing.

The loop also hands out stacking indices `1, 2, 3, …` for the life of the loop.

Tasks are data here (`τ`); what a task does to the world is the world's `Engine`.
-/

namespace Proscenium

/-- A message on the loop's queue. -/
inductive Message (τ : Type) where
  | run (task : τ)
  | stop
deriving Inhabited

/-- The loop: its queue, whether it has stopped, whether a drain is running, and the next
stacking index. -/
structure TaskLoop (τ : Type) where
  queue : List (Message τ)
  stopped : Bool
  draining : Bool
  nextZ : Int
deriving Inhabited

namespace TaskLoop

/-- A fresh loop: nothing queued, running, stacking from 1. -/
def fresh : TaskLoop τ := ⟨[], false, false, 1⟩

/-- Queue a task at the back. -/
def post (l : TaskLoop τ) (t : τ) : TaskLoop τ := { l with queue := l.queue ++ [.run t] }

/-- Queue a stop message at the back. -/
def requestStop (l : TaskLoop τ) : TaskLoop τ := { l with queue := l.queue ++ [.stop] }

/-- The next stacking index, and the loop with its counter moved on. The counter is a signed
64-bit word that wraps past the greatest word. -/
def allocateZ (l : TaskLoop τ) : Int × TaskLoop τ :=
  (l.nextZ, { l with nextZ := if l.nextZ = wordMax then wordMin else l.nextZ + 1 })

@[simp] theorem queue_post (l : TaskLoop τ) (t : τ) : (l.post t).queue = l.queue ++ [.run t] := rfl

@[simp] theorem stopped_post (l : TaskLoop τ) (t : τ) : (l.post t).stopped = l.stopped := rfl

@[simp] theorem draining_post (l : TaskLoop τ) (t : τ) : (l.post t).draining = l.draining := rfl

@[simp] theorem queue_requestStop (l : TaskLoop τ) : l.requestStop.queue = l.queue ++ [.stop] := rfl

@[simp] theorem stopped_requestStop (l : TaskLoop τ) : l.requestStop.stopped = l.stopped := rfl

@[simp] theorem allocateZ_fst (l : TaskLoop τ) : l.allocateZ.1 = l.nextZ := rfl

@[simp] theorem queue_allocateZ (l : TaskLoop τ) : l.allocateZ.2.queue = l.queue := rfl

end TaskLoop

/-- How a world holds its loop and what its tasks do. Running a task gives the world after it,
and the abort that cut it short, if any: work done before an abort stays done. `budget` bounds
the number of messages a drain of the world can take off the queue. -/
structure Engine (σ τ : Type) where
  loop : σ → TaskLoop τ
  setLoop : σ → TaskLoop τ → σ
  exec : τ → σ → σ × Option Failure
  budget : σ → Nat

namespace Engine

variable {σ τ : Type} (e : Engine σ τ)

/-- Change the world's loop. -/
def modifyLoop (w : σ) (f : TaskLoop τ → TaskLoop τ) : σ := e.setLoop w (f (e.loop w))

/-- Take messages off the front until the queue is empty, a stop is taken, or a task aborts
(which stops the loop). `n` counts the tasks run so far. -/
def drainFrom : Nat → σ → Nat → σ × Nat × Option Failure
  | 0, w, n => (w, n, none)
  | fuel + 1, w, n =>
    let l := e.loop w
    if l.stopped then (w, n, none)
    else
      match l.queue with
      | [] => (w, n, none)
      | .stop :: rest => (e.setLoop w { l with queue := rest, stopped := true }, n, none)
      | .run t :: rest =>
        match e.exec t (e.setLoop w { l with queue := rest }) with
        | (w', none) => drainFrom fuel w' (n + 1)
        | (w', some f) => (e.modifyLoop w' fun l' => { l' with stopped := true }, n, some f)

/-- Run one drain of the queue, refusing it while another drain is running. `what` names the
operation in the refusal's text. The answer is the number of tasks run, or the abort of the task
that stopped the loop. -/
def drain (what : String) (w : σ) : σ × Outcome Nat :=
  if (e.loop w).draining then
    (w, .error (.violation (what ++ " called from inside a ui task")))
  else
    let (w', n, f) := e.drainFrom (e.budget w) (e.modifyLoop w fun l => { l with draining := true }) 0
    let w'' := e.modifyLoop w' fun l => { l with draining := false }
    (w'', match f with
      | none => .ok n
      | some f => .error f)

/-- Run a task at once on the owning thread, outside the queue. The caller gets the task's abort,
if any; the loop is left as the task leaves it. -/
def runInline (t : τ) (w : σ) : σ × Outcome Unit :=
  match e.exec t w with
  | (w', none) => (w', .ok ())
  | (w', some f) => (w', .error f)

/-- Run every queued task, including tasks they queue, stopping at a stop message. -/
def runPending (w : σ) : σ × Outcome Nat := e.drain "UiLoop::run_pending" w

/-- Run tasks until a stop message is taken. (With an empty queue this returns, where a thread
would wait.) -/
def run (w : σ) : σ × Outcome Unit :=
  let (w', r) := e.drain "UiLoop::run" w
  (w', r.map fun _ => ())

end Engine

end Proscenium
