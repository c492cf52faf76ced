import Proscenium.Loop.TaggedTasks
import Proscenium.Proofs.Loop.Drain

/-!
# Sessions of tagged tasks

The loop of a session of tagged tasks is a lawful engine (`engine_lawful`): its tasks queue at
most one message each, and the budget, the weight of the queue, falls with every task taken.
So everything `Proofs.Loop.Drain` says of drains holds of sessions.

On top of that, a session driven by any commands is never left draining between commands
(`draining_of_reaches`), and a stopped session stays stopped whatever is done to it next
(`stopped_of_reaches`). Every task runs inside a drain, so a task's own attempt to drain the
loop is always refused, and the refusal is recorded and changes nothing else.
-/

namespace Proscenium

namespace TaggedSession

variable {α : Type}

/-! ## The session's loop is a lawful engine -/

/-- The weight of a queue: what its messages may still cause to be taken. -/
def queueWeight (q : List (Message (TaggedTask α))) : Nat := q.foldl (fun n m => n + weight m) 0

/-- Weighing from `k` adds `k` to the weight. -/
theorem foldl_weight (q : List (Message (TaggedTask α))) (k : Nat) :
    q.foldl (fun n m => n + weight m) k = k + queueWeight q := by
  induction q generalizing k with
  | nil => rfl
  | cons m q ih =>
    simp only [List.foldl_cons, queueWeight]
    rw [ih (k + weight m), ih (0 + weight m)]
    omega

@[simp] theorem queueWeight_cons (m : Message (TaggedTask α)) (q : List (Message (TaggedTask α))) :
    queueWeight (m :: q) = weight m + queueWeight q := by
  rw [queueWeight, List.foldl_cons, foldl_weight, Nat.zero_add]

@[simp] theorem queueWeight_append (q q' : List (Message (TaggedTask α))) :
    queueWeight (q ++ q') = queueWeight q + queueWeight q' := by
  rw [queueWeight, List.foldl_append, foldl_weight]
  rfl

theorem budget_eq (s : TaggedSession α) : engine.budget s = queueWeight s.loop.queue + 1 := rfl

/-- What a task does to the loop while a drain runs: it queues messages that weigh less than
the task itself. -/
theorem exec_queued (t : TaggedTask α) (s : TaggedSession α) :
    ∃ ps, TaskLoop.Queued s.loop (exec t s).1.loop ps ∧ queueWeight ps < weight (.run t) := by
  cases t with
  | record tag => exact ⟨[], TaskLoop.Queued.refl _, by simp [queueWeight, weight]⟩
  | chain tag next =>
    exact ⟨_, TaskLoop.Queued.post _ (TaggedTask.record next), by simp [queueWeight, weight]⟩
  | fail text => exact ⟨[], TaskLoop.Queued.refl _, by simp [queueWeight, weight]⟩
  | drainFromTask tag =>
    refine ⟨[], ?_, by simp [queueWeight, weight]⟩
    simp only [exec, fromTask]
    split <;> exact TaskLoop.Queued.refl _
  | runFromTask tag =>
    refine ⟨[], ?_, by simp [queueWeight, weight]⟩
    simp only [exec, fromTask]
    split <;> exact TaskLoop.Queued.refl _
  | stopFromTask => exact ⟨_, TaskLoop.Queued.requestStop _, by simp [queueWeight, weight]⟩

theorem engine_lawful : (engine : Engine (TaggedSession α) (TaggedTask α)).Lawful where
  loop_setLoop _ _ := rfl
  setLoop_loop _ := rfl
  setLoop_setLoop _ _ _ := rfl
  exec_queued t s _ := (exec_queued t s).imp fun _ h => h.1
  budget_pos _ := Nat.succ_pos _
  budget_draining _ _ := rfl
  budget_exec s t rest _ hq := by
    obtain ⟨ps, hps, hw⟩ := exec_queued t (engine.setLoop s { engine.loop s with queue := rest })
    have hqueue : (engine.exec t (engine.setLoop s { engine.loop s with queue := rest })).1.loop.queue =
        rest ++ ps := hps.queue
    rw [budget_eq, budget_eq, hqueue, show s.loop.queue = .run t :: rest from hq,
      queueWeight_append, queueWeight_cons]
    omega

/-! ## Between commands -/

/-- `s'` is reached from `s` by running some commands. -/
inductive Reaches (s : TaggedSession α) : TaggedSession α → Prop
  | refl : Reaches s s
  | step {s' : TaggedSession α} (c : TaggedCommand α) : Reaches s s' → Reaches s (s'.step c).world

/-- A session that a script reaches from a fresh one. -/
def Reachable (s : TaggedSession α) : Prop := Reaches fresh s

/-- What one command does to the loop's flags, between commands: the draining mark is off
afterwards, and a stopped loop stays stopped. -/
theorem flags_step (s : TaggedSession α) (c : TaggedCommand α) (hd : s.loop.draining = false) :
    (s.step c).world.loop.draining = false ∧
      (s.loop.stopped = true → (s.step c).world.loop.stopped = true) := by
  have hd' : (engine.loop { s with events := [] }).draining = false := hd
  cases c with
  | runPending =>
    refine ⟨?_, fun hs => ?_⟩
    · simp only [step]
      rw [engine.runPending_of_idle hd']
      rfl
    · simp only [step]
      rw [engine_lawful.runPending_of_stopped hd' hs]
      exact hs
  | run =>
    refine ⟨?_, fun hs => ?_⟩
    · simp only [step, Engine.run]
      rw [engine.drain_of_idle "UiLoop::run" hd']
      rfl
    · simp only [step, Engine.run]
      rw [engine_lawful.drain_of_stopped "UiLoop::run" hd' hs]
      exact hs
  | runInline t => exact ⟨hd, id⟩
  | nextZ => exact ⟨hd, id⟩
  | _ => exact ⟨hd, id⟩

/-- **Never draining between commands.** -/
theorem draining_of_reaches {s s' : TaggedSession α} (h : Reaches s s')
    (hd : s.loop.draining = false) : s'.loop.draining = false := by
  induction h with
  | refl => exact hd
  | step c _ ih => exact (flags_step _ c ih).1

theorem draining_of_reachable {s : TaggedSession α} (h : Reachable s) : s.loop.draining = false :=
  draining_of_reaches h rfl

/-- **Stopped for good.** Once a loop driven by commands is stopped, it stays stopped. -/
theorem stopped_of_reaches {s s' : TaggedSession α} (h : Reaches s s')
    (hd : s.loop.draining = false) (hs : s.loop.stopped = true) : s'.loop.stopped = true := by
  induction h with
  | refl => exact hs
  | step c hr ih => exact (flags_step _ c (draining_of_reaches hr hd)).2 ih

/-- Between commands, `runPending` on a stopped session answers 0 and reports nothing. -/
theorem step_runPending_of_stopped (s : TaggedSession α) (hd : s.loop.draining = false)
    (hs : s.loop.stopped = true) :
    (s.step .runPending).answer = .ok (.count 0) ∧ (s.step .runPending).events = [] := by
  have h := engine_lawful.runPending_of_stopped (w := { s with events := [] }) hd hs
  simp [step, h, Except.map]

/-! ## What a drain reports -/

/-- What a task records when it runs inside a drain: a task that tries to drain the loop it
runs on records the refusal. -/
def inDrain : TaggedTask α → List (TaggedEvent α)
  | .record t => [.tag t]
  | .chain t _ => [.tag t]
  | .fail _ => []
  | .drainFromTask t =>
    [.refused t "precondition violated: UiLoop::run_pending called from inside a ui task"]
  | .runFromTask t => [.refused t "precondition violated: UiLoop::run called from inside a ui task"]
  | .stopFromTask => [.stopRequested true]

/-- What a message taken by a drain records. -/
def recorded : Message (TaggedTask α) → List (TaggedEvent α)
  | .run t => inDrain t
  | .stop => []

/-- A task trying to drain the loop it runs on, inside a drain, is refused: it records the
refusal, leaves the loop as it was, and the drain goes on. -/
theorem exec_drainFromTask (s : TaggedSession α) (tag : α) (hd : s.loop.draining = true) :
    exec (.drainFromTask tag) s =
      (s.record (.refused tag "precondition violated: UiLoop::run_pending called from inside a ui task"),
        none) := by
  simp [exec, fromTask, hd]

theorem exec_events (t : TaggedTask α) (s : TaggedSession α) (hd : s.loop.draining = true) :
    (exec t s).1.events = s.events ++ inDrain t := by
  cases t <;> simp [exec, fromTask, record, hd, inDrain]

/-- A drain reports what the messages it took record, in the order it took them. -/
theorem events_drainLog {fuel n : Nat} {s : TaggedSession α} (hd : s.loop.draining = true) :
    (engine.drainLog fuel s n).world.events =
      s.events ++ (engine.drainLog fuel s n).messages.flatMap recorded := by
  induction fuel generalizing s n with
  | zero => simp [Drained.messages]
  | succ fuel ih =>
    cases hs : s.loop.stopped
    case true => simp [Engine.drainLog_of_stopped (e := engine) hs, Drained.messages]
    case false =>
      rcases engine_lawful.drainLog_succ hd hs with ⟨-, h⟩ | ⟨rest, -, h⟩ |
          ⟨t, rest, w', ps, -, hx, hps, -, h⟩ | ⟨t, rest, w', ps, f, -, hx, -, h⟩ <;> rw [h]
      · simp [Drained.messages]
      · simp [Drained.messages, recorded]
        rfl
      · -- the task ran on the session with its message taken off, which records nothing else
        have he : w'.events = s.events ++ inDrain t := by
          rw [← congrArg (fun r => r.1.events) hx]
          exact exec_events t _ hd
        rw [Drained.world_cons, Drained.messages_cons, ih (hps.draining.trans hd), he]
        simp [recorded]
      · have he : w'.events = s.events ++ inDrain t := by
          rw [← congrArg (fun r => r.1.events) hx]
          exact exec_events t _ hd
        simp only [Drained.messages, List.map_cons, List.map_nil, List.flatMap_cons,
          List.flatMap_nil, recorded, List.append_nil]
        exact he

/-- Between commands, the events a `runPending` command reports are what the messages it took
recorded, in order. -/
theorem step_runPending_events (s : TaggedSession α) (hd : s.loop.draining = false) :
    (s.step .runPending).events =
      (engine.pendingLog { s with events := [] }).messages.flatMap recorded := by
  have hd' : (engine.loop { s with events := [] }).draining = false := hd
  simp only [step]
  rw [engine.runPending_of_idle hd']
  exact events_drainLog (s := engine.modifyLoop { s with events := [] } _) rfl

/-! ## The loop as a queue -/

section Queue

variable {σ τ : Type}

/-- **The loop is a first-in first-out queue.** Take any lawful engine and any world between
tasks. A drain of a running loop runs the tasks queued ahead of the first stop, in the order
they were queued, tasks queued while it runs included, each once, and answers how many it ran
(`Engine.RunsInOrder`). A drain of a stopped loop runs nothing, answers 0 and leaves the world
as it was, queue included. Work run inline on a session runs at once, before anything queued:
its tag is the only event reported, and the loop is left as it was. -/
theorem drain_runs_in_queue_order (e : Engine σ τ) (hl : e.Lawful) (w : σ)
    (hd : (e.loop w).draining = false) :
    ((e.loop w).stopped = false → e.RunsInOrder w) ∧
    ((e.loop w).stopped = true → e.runPending w = (w, .ok 0)) ∧
    ∀ (s : TaggedSession α) (tag : α),
      s.step (.runInline tag) = ⟨{ s with events := [] }, .ok (.tag tag), [.tag tag]⟩ :=
  ⟨hl.runPending_spec hd, hl.runPending_of_stopped hd, fun _ _ => rfl⟩

/-- A session whose first task queues another, whose second queues a stop, and whose third
records a tag. -/
theorem drain_runs_in_queue_order_of_session :
    let w : TaggedSession Nat :=
      ⟨⟨[.run (.chain 1 2), .run .stopFromTask, .run (.record 3)], false, false, 1⟩, []⟩
    (engine.loop w).draining = false ∧
      (((engine.loop w).stopped = false → engine.RunsInOrder w) ∧
        ((engine.loop w).stopped = true → engine.runPending w = (w, .ok 0)) ∧
        ∀ (s : TaggedSession Nat) (tag : Nat),
          s.step (.runInline tag) = ⟨{ s with events := [] }, .ok (.tag tag), [.tag tag]⟩) :=
  ⟨rfl, drain_runs_in_queue_order engine engine_lawful _ rfl⟩

/-- **Nested drains are refused; a task's abort stops the loop.** Between the commands of any
script the loop is not draining, so a drain asked for by a command goes ahead. A drain asked for
while one runs is refused with a broken precondition and changes nothing; a session's task that
tries it records the refusal and the drain goes on, and the events a drain reports are what
its tasks recorded, in order. When a task aborts, the drain answers that abort, the loop is
stopped and no longer draining, and what was queued behind the task stays queued. From a
stopped loop on, every later drain answers 0 and runs nothing. Work run inline passes its
abort to the caller and leaves the loop as the work left it. -/
theorem drain_refuses_nesting_and_stops_on_abort :
    (∀ s : TaggedSession α, Reachable s → s.loop.draining = false) ∧
    (∀ (e : Engine σ τ) (w : σ), (e.loop w).draining = true →
      e.runPending w =
        (w, .error (.abort "precondition violated: UiLoop::run_pending called from inside a ui task"))) ∧
    (∀ (s : TaggedSession α) (tag : α), s.loop.draining = true →
      exec (.drainFromTask tag) s =
        (s.record (.refused tag "precondition violated: UiLoop::run_pending called from inside a ui task"),
          none)) ∧
    (∀ s : TaggedSession α, Reachable s →
      (s.step .runPending).events =
        (engine.pendingLog { s with events := [] }).messages.flatMap recorded) ∧
    (∀ (e : Engine σ τ) (w : σ) (f : Failure), e.Lawful → (e.loop w).draining = false →
      (e.loop w).stopped = false → (e.pendingLog w).abort = some f →
      (e.runPending w).2 = .error f ∧ (e.loop (e.runPending w).1).stopped = true ∧
        (e.loop (e.runPending w).1).draining = false ∧
        (e.loop (e.runPending w).1).queue =
          ((e.loop w).queue ++ (e.pendingLog w).posted).drop (e.pendingLog w).messages.length) ∧
    (∀ s s' : TaggedSession α, Reachable s → s.loop.stopped = true → Reaches s s' →
      (s'.step .runPending).answer = .ok (.count 0) ∧ (s'.step .runPending).events = []) ∧
    (∀ (e : Engine σ τ) (t : τ) (w w' : σ) (f : Failure), e.exec t w = (w', some f) →
      e.runInline t w = (w', .error f)) := by
  refine ⟨fun _ h => draining_of_reachable h, fun e w hd => e.drain_of_draining _ hd,
    fun s tag hd => exec_drainFromTask s tag hd,
    fun s h => step_runPending_events s (draining_of_reachable h), ?_, ?_, ?_⟩
  · intro e w f hl hd hs ha
    obtain ⟨hdr, hfifo, -, habort⟩ := hl.runPending_spec hd hs
    obtain ⟨hr, -, -, hst⟩ := habort f ha
    refine ⟨hr, hst, hdr, ?_⟩
    rw [← hfifo, List.drop_left]
  · intro s s' h hs hr
    have hd := draining_of_reachable h
    exact step_runPending_of_stopped s' (draining_of_reaches hr hd) (stopped_of_reaches hr hd hs)
  · intro e t w w' f hx
    simp [Engine.runInline, hx]

/-- A fresh session is reachable and not draining; a session whose first task aborts ends its
drain stopped, with the task behind it still queued. -/
theorem drain_refuses_nesting_and_stops_on_abort_of_failing_task :
    let w : TaggedSession Nat := ⟨⟨[.run (.fail "boom"), .run (.record 1)], false, false, 1⟩, []⟩
    (Reachable (fresh : TaggedSession Nat) ∧ (fresh : TaggedSession Nat).loop.draining = false) ∧
    ((engine : Engine (TaggedSession Nat) (TaggedTask Nat)).Lawful ∧ (engine.loop w).draining = false ∧ (engine.loop w).stopped = false ∧
      (engine.pendingLog w).abort = some (.abort "boom")) ∧
    ((engine.runPending w).2 = .error (.abort "boom") ∧
      (engine.loop (engine.runPending w).1).stopped = true ∧
      (engine.loop (engine.runPending w).1).draining = false ∧
      (engine.loop (engine.runPending w).1).queue =
        ((engine.loop w).queue ++ (engine.pendingLog w).posted).drop
          (engine.pendingLog w).messages.length) :=
  ⟨⟨.refl, (@drain_refuses_nesting_and_stops_on_abort Nat Unit Unit).1 _ .refl⟩,
    ⟨engine_lawful, rfl, rfl, rfl⟩,
    (@drain_refuses_nesting_and_stops_on_abort Nat (TaggedSession Nat) (TaggedTask Nat)).2.2.2.2.1
      engine _ _ engine_lawful rfl rfl rfl⟩

end Queue

end TaggedSession

end Proscenium
