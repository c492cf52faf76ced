import Proscenium.Loop.TaskLoop

/-!
# Draining the task loop

A drain takes messages off the front of the queue while the tasks it runs queue more at the
back. This module shows that, across a whole drain, the loop is a first-in first-out queue: the
messages come out in the order they went in, whatever the tasks queue while they run.

* `Engine.Lawful` is what an engine promises: its loop reads back as it was set, a task running
  inside a drain only queues messages at the back, and the budget falls with every task taken,
  so that the tasks of one drain queue finitely many messages in all.
* `Engine.drainLog` is `Engine.drainFrom` listing the messages it took, each with the messages
  its task queued (`drainFrom_eq_drainLog`).
* `taken_append_queue`: the messages taken, then those left, are the messages queued before and
  during the drain, in order. `drainLog_ending` says how a drain of a running loop ends.
* `runPending_spec` puts these together for a drain started between tasks: it runs exactly the
  tasks queued ahead of the first stop, in order, and leaves what follows that stop queued.
-/

namespace Proscenium

namespace Message

variable {τ : Type}

/-- Is the message a task rather than a stop? -/
def isRun : Message τ → Bool
  | .run _ => true
  | .stop => false

@[simp] theorem isRun_run (t : τ) : (Message.run t).isRun = true := rfl

@[simp] theorem isRun_stop : (Message.stop : Message τ).isRun = false := rfl

end Message

/-- `l'` is `l` with the messages `ps` queued at the back and the same flags; the stacking
counter may have moved. -/
structure TaskLoop.Queued {τ : Type} (l l' : TaskLoop τ) (ps : List (Message τ)) : Prop where
  queue : l'.queue = l.queue ++ ps
  stopped : l'.stopped = l.stopped
  draining : l'.draining = l.draining

namespace TaskLoop.Queued

variable {τ : Type}

theorem refl (l : TaskLoop τ) : TaskLoop.Queued l l [] := ⟨(List.append_nil _).symm, rfl, rfl⟩

theorem post (l : TaskLoop τ) (t : τ) : TaskLoop.Queued l (l.post t) [.run t] := ⟨rfl, rfl, rfl⟩

theorem requestStop (l : TaskLoop τ) : TaskLoop.Queued l l.requestStop [.stop] := ⟨rfl, rfl, rfl⟩

end TaskLoop.Queued

/-- A message a drain took off the queue, and the messages its task queued while it ran (none
for a stop). -/
structure Taken (τ : Type) where
  message : Message τ
  queued : List (Message τ)

/-- What a drain leaves: the world, the count of tasks run, the abort that ended it, and the
messages it took, in order. -/
structure Drained (σ τ : Type) where
  world : σ
  ran : Nat
  abort : Option Failure
  taken : List (Taken τ)

namespace Drained

variable {σ τ : Type}

/-- The messages the drain took, in order. -/
def messages (d : Drained σ τ) : List (Message τ) := d.taken.map Taken.message

/-- Everything the drain's tasks queued, in the order they queued it. -/
def posted (d : Drained σ τ) : List (Message τ) := (d.taken.map Taken.queued).flatten

/-- The drain with one more message taken in front. -/
def cons (d : Drained σ τ) (m : Taken τ) : Drained σ τ := { d with taken := m :: d.taken }

@[simp] theorem messages_cons (d : Drained σ τ) (m : Taken τ) :
    (d.cons m).messages = m.message :: d.messages := rfl

@[simp] theorem posted_cons (d : Drained σ τ) (m : Taken τ) :
    (d.cons m).posted = m.queued ++ d.posted := rfl

@[simp] theorem world_cons (d : Drained σ τ) (m : Taken τ) : (d.cons m).world = d.world := rfl

@[simp] theorem abort_cons (d : Drained σ τ) (m : Taken τ) : (d.cons m).abort = d.abort := rfl

@[simp] theorem ran_cons (d : Drained σ τ) (m : Taken τ) : (d.cons m).ran = d.ran := rfl

/-- How a drain that began on a running loop ended, read off the messages it took and the loop
`l` it left, `n` being the count it began with: it ran tasks until the queue was empty; or ran
tasks and then took a stop; or ran tasks until one of them aborted. -/
def Ending (d : Drained σ τ) (n : Nat) (l : TaskLoop τ) : Prop :=
  (d.abort = none ∧ (∀ m ∈ d.messages, m.isRun) ∧ d.ran = n + d.messages.length ∧
    l.queue = [] ∧ l.stopped = false) ∨
  (d.abort = none ∧ (∃ runs, d.messages = runs ++ [.stop] ∧ (∀ m ∈ runs, m.isRun) ∧
    d.ran = n + runs.length) ∧ l.stopped = true) ∨
  (d.abort.isSome ∧ d.messages ≠ [] ∧ (∀ m ∈ d.messages, m.isRun) ∧ l.stopped = true)

/-- What the drain answers: the count of tasks it ran, or the abort that ended it. -/
def outcome (d : Drained σ τ) : Outcome Nat :=
  match d.abort with
  | none => .ok d.ran
  | some f => .error f

/-- A task taken in front of a drain keeps its ending, counting one more task. -/
theorem Ending.cons {d : Drained σ τ} {n : Nat} {l : TaskLoop τ} (h : d.Ending (n + 1) l)
    (t : τ) (ps : List (Message τ)) : (d.cons ⟨.run t, ps⟩).Ending n l := by
  rcases h with ⟨ha, hrun, hran, hq, hs⟩ | ⟨ha, ⟨runs, hm, hrun, hran⟩, hs⟩ | ⟨ha, hne, hrun, hs⟩
  · refine .inl ⟨ha, ?_, ?_, hq, hs⟩
    · simpa using hrun
    · simp only [ran_cons, messages_cons, List.length_cons]; omega
  · refine .inr (.inl ⟨ha, ⟨.run t :: runs, by simp [hm], by simpa using hrun, ?_⟩, hs⟩)
    simp only [ran_cons, List.length_cons]; omega
  · exact .inr (.inr ⟨ha, by simp, by simpa using hrun, hs⟩)

/-- Where no task aborted, the ending and the first-in first-out law fix the drain: given that
`sent` is what it took followed by what it left, it took the tasks of `sent` ahead of the first
stop, then that stop if there is one, and left what follows it; it counted those tasks, and
the loop is stopped exactly when `sent` holds a stop. -/
theorem Ending.of_sent {d : Drained σ τ} {n : Nat} {l : TaskLoop τ} {sent : List (Message τ)}
    (h : d.Ending n l) (ha : d.abort = none) (hsent : d.messages ++ l.queue = sent) :
    d.messages = sent.takeWhile Message.isRun ++ (sent.dropWhile Message.isRun).take 1 ∧
    l.queue = (sent.dropWhile Message.isRun).drop 1 ∧
    l.stopped = sent.any (fun m => !m.isRun) ∧
    d.ran = n + (sent.takeWhile Message.isRun).length := by
  subst hsent
  rcases h with ⟨-, hrun, hran, hq, hs⟩ | ⟨-, ⟨runs, hm, hrun, hran⟩, hs⟩ | ⟨hsome, -⟩
  · rw [hq, List.takeWhile_append_of_pos hrun, List.dropWhile_append_of_pos hrun]
    refine ⟨by simp, by simp, ?_, by simp [hran]⟩
    simpa [hs] using hrun
  · rw [hm, List.append_assoc, List.takeWhile_append_of_pos hrun,
      List.dropWhile_append_of_pos hrun]
    refine ⟨by simp, by simp, ?_, by simp [hran]⟩
    simp [hs]
  · simp [ha] at hsome

end Drained

/-- Setting the draining flag to what it is changes nothing. -/
theorem TaskLoop.with_draining_self {τ : Type} {l : TaskLoop τ} {b : Bool} (h : l.draining = b) :
    { l with draining := b } = l := by
  subst h
  rfl

namespace Engine

variable {σ τ : Type} (e : Engine σ τ)

/-- The laws of an engine. The first three say that the loop is a part of the world that can
be read and set on its own. `exec_queued` is all a task can do to the loop it runs on while a
drain runs: queue messages at the back (a nested drain is refused and changes nothing). The
budget is a ranking: it is positive, ignores the draining flag, and falls with every task
taken, so a drain never runs out of it. -/
structure Lawful : Prop where
  loop_setLoop : ∀ w l, e.loop (e.setLoop w l) = l
  setLoop_loop : ∀ w, e.setLoop w (e.loop w) = w
  setLoop_setLoop : ∀ w l l', e.setLoop (e.setLoop w l) l' = e.setLoop w l'
  exec_queued : ∀ t w, (e.loop w).draining = true →
    ∃ ps, TaskLoop.Queued (e.loop w) (e.loop (e.exec t w).1) ps
  budget_pos : ∀ w, 0 < e.budget w
  budget_draining : ∀ w b, e.budget (e.modifyLoop w fun l => { l with draining := b }) = e.budget w
  budget_exec : ∀ w t rest, (e.loop w).draining = true → (e.loop w).queue = .run t :: rest →
    e.budget (e.exec t (e.setLoop w { e.loop w with queue := rest })).1 < e.budget w

/-- `drainFrom`, also listing each message taken with the messages its task queued. -/
def drainLog : Nat → σ → Nat → Drained σ τ
  | 0, w, n => ⟨w, n, none, []⟩
  | fuel + 1, w, n =>
    let l := e.loop w
    if l.stopped then ⟨w, n, none, []⟩
    else
      match l.queue with
      | [] => ⟨w, n, none, []⟩
      | .stop :: rest => ⟨e.setLoop w { l with queue := rest, stopped := true }, n, none, [⟨.stop, []⟩]⟩
      | .run t :: rest =>
        match e.exec t (e.setLoop w { l with queue := rest }) with
        | (w', none) => (drainLog fuel w' (n + 1)).cons ⟨.run t, (e.loop w').queue.drop rest.length⟩
        | (w', some f) =>
          ⟨e.modifyLoop w' fun l' => { l' with stopped := true }, n, some f,
            [⟨.run t, (e.loop w').queue.drop rest.length⟩]⟩

/-! ## One step of a drain -/

section Steps

variable {e} {w w' : σ} {n fuel : Nat} {t : τ} {rest : List (Message τ)}

@[simp] theorem drainLog_zero (w : σ) (n : Nat) : e.drainLog 0 w n = ⟨w, n, none, []⟩ := rfl

theorem drainLog_of_stopped (hs : (e.loop w).stopped = true) :
    e.drainLog (fuel + 1) w n = ⟨w, n, none, []⟩ := by
  simp [drainLog, hs]

theorem drainLog_of_empty (hs : (e.loop w).stopped = false) (hq : (e.loop w).queue = []) :
    e.drainLog (fuel + 1) w n = ⟨w, n, none, []⟩ := by
  simp [drainLog, hs, hq]

theorem drainLog_of_stop (hs : (e.loop w).stopped = false) (hq : (e.loop w).queue = .stop :: rest) :
    e.drainLog (fuel + 1) w n =
      ⟨e.setLoop w { e.loop w with queue := rest, stopped := true }, n, none, [⟨.stop, []⟩]⟩ := by
  simp [drainLog, hs, hq]

theorem drainLog_of_run_ok (hs : (e.loop w).stopped = false) (hq : (e.loop w).queue = .run t :: rest)
    (hx : e.exec t (e.setLoop w { e.loop w with queue := rest }) = (w', none)) :
    e.drainLog (fuel + 1) w n =
      (e.drainLog fuel w' (n + 1)).cons ⟨.run t, (e.loop w').queue.drop rest.length⟩ := by
  -- `hs` also rewrites the stopped flag inside the popped loop, so `hx` is brought along
  simp only [hs] at hx
  simp [drainLog, hs, hq, hx]

theorem drainLog_of_run_abort (hs : (e.loop w).stopped = false)
    (hq : (e.loop w).queue = .run t :: rest)
    (hx : e.exec t (e.setLoop w { e.loop w with queue := rest }) = (w', some f)) :
    e.drainLog (fuel + 1) w n =
      ⟨e.modifyLoop w' fun l => { l with stopped := true }, n, some f,
        [⟨.run t, (e.loop w').queue.drop rest.length⟩]⟩ := by
  simp only [hs] at hx
  simp [drainLog, hs, hq, hx]

end Steps

/-- The log leaves the drain itself as it is. -/
theorem drainFrom_eq_drainLog (fuel : Nat) (w : σ) (n : Nat) :
    e.drainFrom fuel w n =
      ((e.drainLog fuel w n).world, (e.drainLog fuel w n).ran, (e.drainLog fuel w n).abort) := by
  induction fuel generalizing w n with
  | zero => rfl
  | succ fuel ih =>
    cases hs : (e.loop w).stopped
    case true => simp [drainFrom, drainLog_of_stopped hs, hs]
    case false =>
      match hq : (e.loop w).queue with
      | [] => simp [drainFrom, drainLog_of_empty hs hq, hs, hq]
      | .stop :: rest => simp [drainFrom, drainLog_of_stop hs hq, hs, hq]
      | .run t :: rest =>
        match hx : e.exec t (e.setLoop w { e.loop w with queue := rest }) with
        | (w', none) =>
          rw [drainLog_of_run_ok hs hq hx]
          simp only [hs] at hx
          simp [drainFrom, hs, hq, hx, ih]
        | (w', some f) =>
          rw [drainLog_of_run_abort hs hq hx]
          simp only [hs] at hx
          simp [drainFrom, hs, hq, hx]

/-- The drain a `runPending` between tasks makes: from the world marked as draining, with the
world's budget as fuel, counting from 0. -/
def pendingLog (w : σ) : Drained σ τ :=
  e.drainLog (e.budget w) (e.modifyLoop w fun l => { l with draining := true }) 0

/-- A drain asked for while one is running is refused, and changes nothing. -/
theorem drain_of_draining (what : String) {w : σ} (hd : (e.loop w).draining = true) :
    e.drain what w = (w, .error (.violation (what ++ " called from inside a ui task"))) := by
  simp [drain, hd]

/-- Between tasks, a drain is the logged one, with the draining mark taken off again. -/
theorem drain_of_idle (what : String) {w : σ} (hd : (e.loop w).draining = false) :
    e.drain what w =
      (e.modifyLoop (e.pendingLog w).world fun l => { l with draining := false },
        (e.pendingLog w).outcome) := by
  simp only [drain, hd, Bool.false_eq_true, if_false, drainFrom_eq_drainLog]
  cases h : (e.pendingLog w).abort <;> simp_all [pendingLog, Drained.outcome]

theorem runPending_of_idle {w : σ} (hd : (e.loop w).draining = false) :
    e.runPending w =
      (e.modifyLoop (e.pendingLog w).world fun l => { l with draining := false },
        (e.pendingLog w).outcome) :=
  e.drain_of_idle _ hd

/-- What a drain between tasks does, said through its log `d` and through `sent`, the messages
queued before it began followed by those its tasks queued, in order. The messages it took,
then those it left queued, are `sent`, and the loop is no longer marked as draining. If no task
aborted, it took exactly the tasks of `sent` ahead of the first stop, in order, then that stop
if there is one; it answers how many tasks that is, leaves queued what follows the stop, and
the loop is stopped exactly when `sent` holds a stop. If a task aborted, it answers that abort
and the loop is stopped; what it took were tasks, the aborting one last. -/
def RunsInOrder (w : σ) : Prop :=
  let d := e.pendingLog w
  let sent := (e.loop w).queue ++ d.posted
  let l := e.loop (e.runPending w).1
  l.draining = false ∧ d.messages ++ l.queue = sent ∧
  (d.abort = none →
    (e.runPending w).2 = .ok (sent.takeWhile Message.isRun).length ∧
    d.messages = sent.takeWhile Message.isRun ++ (sent.dropWhile Message.isRun).take 1 ∧
    l.queue = (sent.dropWhile Message.isRun).drop 1 ∧
    l.stopped = sent.any (fun m => !m.isRun)) ∧
  (∀ f, d.abort = some f →
    (e.runPending w).2 = .error f ∧ d.messages ≠ [] ∧ (∀ m ∈ d.messages, m.isRun) ∧
    l.stopped = true)

/-! ## What a task can do to the queue -/

namespace Lawful

variable {e} (hl : e.Lawful) {w : σ}
include hl

theorem loop_modifyLoop (f : TaskLoop τ → TaskLoop τ) : e.loop (e.modifyLoop w f) = f (e.loop w) :=
  hl.loop_setLoop _ _

/-- Taking a task off the queue of a draining loop and running it leaves the rest of the queue
in front of what the task queued, and keeps the flags. -/
theorem exec_pop (t : τ) (rest : List (Message τ)) (hd : (e.loop w).draining = true) :
    ∃ ps, TaskLoop.Queued { e.loop w with queue := rest }
      (e.loop (e.exec t (e.setLoop w { e.loop w with queue := rest })).1) ps := by
  have h := hl.exec_queued t (e.setLoop w { e.loop w with queue := rest })
    (by rw [hl.loop_setLoop]; exact hd)
  rw [hl.loop_setLoop] at h
  exact h

/-- One step of a drain of a running, draining loop: it finds the queue empty, or takes a stop,
or takes a task that queues `ps` and then either lets the drain go on from a world of smaller
budget or aborts it. -/
theorem drainLog_succ {fuel n : Nat} (hd : (e.loop w).draining = true)
    (hs : (e.loop w).stopped = false) :
    ((e.loop w).queue = [] ∧ e.drainLog (fuel + 1) w n = ⟨w, n, none, []⟩) ∨
    (∃ rest, (e.loop w).queue = .stop :: rest ∧
      e.drainLog (fuel + 1) w n =
        ⟨e.setLoop w { e.loop w with queue := rest, stopped := true }, n, none, [⟨.stop, []⟩]⟩) ∨
    (∃ t rest w' ps, (e.loop w).queue = .run t :: rest ∧
      e.exec t (e.setLoop w { e.loop w with queue := rest }) = (w', none) ∧
      TaskLoop.Queued { e.loop w with queue := rest } (e.loop w') ps ∧ e.budget w' < e.budget w ∧
      e.drainLog (fuel + 1) w n = (e.drainLog fuel w' (n + 1)).cons ⟨.run t, ps⟩) ∨
    (∃ t rest w' ps f, (e.loop w).queue = .run t :: rest ∧
      e.exec t (e.setLoop w { e.loop w with queue := rest }) = (w', some f) ∧
      TaskLoop.Queued { e.loop w with queue := rest } (e.loop w') ps ∧
      e.drainLog (fuel + 1) w n =
        ⟨e.modifyLoop w' fun l => { l with stopped := true }, n, some f, [⟨.run t, ps⟩]⟩) := by
  match hq : (e.loop w).queue with
  | [] => exact .inl ⟨rfl, drainLog_of_empty hs hq⟩
  | .stop :: rest => exact .inr (.inl ⟨rest, rfl, drainLog_of_stop hs hq⟩)
  | .run t :: rest =>
    obtain ⟨ps, hps⟩ := hl.exec_pop t rest hd
    -- what the task queued is what follows the rest of the queue
    have hdrop : (e.loop (e.exec t (e.setLoop w { e.loop w with queue := rest })).1).queue.drop
        rest.length = ps := by
      rw [hps.queue]
      simp
    match hx : e.exec t (e.setLoop w { e.loop w with queue := rest }) with
    | (w', none) =>
      rw [hx] at hps hdrop
      refine .inr (.inr (.inl ⟨t, rest, w', ps, rfl, hx, hps, ?_, ?_⟩))
      · have hb := hl.budget_exec w t rest hd hq
        rwa [hx] at hb
      · rw [drainLog_of_run_ok hs hq hx, hdrop]
    | (w', some f) =>
      rw [hx] at hps hdrop
      refine .inr (.inr (.inr ⟨t, rest, w', ps, f, rfl, hx, hps, ?_⟩))
      rw [drainLog_of_run_abort hs hq hx, hdrop]

/-! ## What a whole drain does -/

/-- A drain keeps the loop marked as draining. -/
theorem draining_drainLog {fuel n : Nat} (hd : (e.loop w).draining = true) :
    (e.loop (e.drainLog fuel w n).world).draining = true := by
  induction fuel generalizing w n with
  | zero => exact hd
  | succ fuel ih =>
    cases hs : (e.loop w).stopped
    case true => rw [drainLog_of_stopped hs]; exact hd
    case false =>
      rcases hl.drainLog_succ hd hs with ⟨-, h⟩ | ⟨rest, -, h⟩ | ⟨t, rest, w', ps, -, -, hps, -, h⟩ |
          ⟨t, rest, w', ps, f, -, -, hps, h⟩ <;> rw [h]
      · exact hd
      · simpa [hl.loop_setLoop] using hd
      · exact ih (hps.draining.trans hd)
      · simpa [hl.loop_modifyLoop] using hps.draining.trans hd

/-- **First in, first out.** The messages a drain took, followed by those it left queued, are
the messages that were queued when it began followed by everything its tasks queued, in order:
nothing is lost, nothing is taken twice, and nothing is taken out of turn. -/
theorem taken_append_queue (fuel n : Nat) (hd : (e.loop w).draining = true) :
    (e.drainLog fuel w n).messages ++ (e.loop (e.drainLog fuel w n).world).queue =
      (e.loop w).queue ++ (e.drainLog fuel w n).posted := by
  induction fuel generalizing w n with
  | zero => simp [Drained.messages, Drained.posted]
  | succ fuel ih =>
    cases hs : (e.loop w).stopped
    case true => simp [drainLog_of_stopped hs, Drained.messages, Drained.posted]
    case false =>
      rcases hl.drainLog_succ hd hs with ⟨hq, h⟩ | ⟨rest, hq, h⟩ | ⟨t, rest, w', ps, hq, -, hps, -, h⟩ |
          ⟨t, rest, w', ps, f, hq, -, hps, h⟩ <;> rw [h]
      · simp [Drained.messages, Drained.posted]
      · simp [Drained.messages, Drained.posted, hl.loop_setLoop, hq]
      · have ih' := ih (n + 1) (hps.draining.trans hd)
        rw [Drained.messages_cons, Drained.posted_cons, Drained.world_cons, List.cons_append, ih',
          hps.queue, hq]
        simp
      · simp [Drained.messages, Drained.posted, hl.loop_modifyLoop, hps.queue, hq]

/-- **How a drain ends.** A drain of a running loop, with fuel at least the budget, ends in one
of the three ways of `Drained.Ending`: never for want of fuel. -/
theorem drainLog_ending {fuel n : Nat} (hd : (e.loop w).draining = true)
    (hs : (e.loop w).stopped = false) (hb : e.budget w ≤ fuel) :
    (e.drainLog fuel w n).Ending n (e.loop (e.drainLog fuel w n).world) := by
  induction fuel generalizing w n with
  | zero => exact absurd hb (Nat.not_le.mpr (hl.budget_pos w))
  | succ fuel ih =>
    rcases hl.drainLog_succ hd hs with ⟨hq, h⟩ | ⟨rest, hq, h⟩ | ⟨t, rest, w', ps, hq, -, hps, hbw, h⟩ |
        ⟨t, rest, w', ps, f, hq, -, hps, h⟩ <;> rw [h]
    · exact .inl ⟨rfl, by simp [Drained.messages], by simp [Drained.messages], hq, hs⟩
    · exact .inr (.inl ⟨rfl, ⟨[], rfl, by simp, rfl⟩, by simp [hl.loop_setLoop]⟩)
    · rw [Drained.world_cons]
      exact (ih (hps.draining.trans hd) (hps.stopped.trans hs) (by omega)).cons t ps
    · exact .inr (.inr ⟨rfl, by simp [Drained.messages], by simp [Drained.messages],
        by simp [hl.loop_modifyLoop]⟩)

/-- **A stopped loop runs nothing.** Between tasks, a drain of a stopped loop answers 0 and
leaves the world as it was, its queue included. -/
theorem drain_of_stopped (what : String) (hd : (e.loop w).draining = false)
    (hs : (e.loop w).stopped = true) : e.drain what w = (w, .ok 0) := by
  obtain ⟨k, hk⟩ : ∃ k, e.budget w = k + 1 := ⟨e.budget w - 1, by have := hl.budget_pos w; omega⟩
  have hs' : (e.loop (e.modifyLoop w fun l => { l with draining := true })).stopped = true := by
    rw [hl.loop_modifyLoop]
    exact hs
  rw [drain_of_idle e what hd, pendingLog, hk, drainLog_of_stopped hs']
  -- marking the loop as draining and taking the mark off again leaves the world as it was
  simp only [modifyLoop, hl.loop_setLoop, hl.setLoop_setLoop, TaskLoop.with_draining_self hd,
    hl.setLoop_loop, Drained.outcome]

theorem runPending_of_stopped (hd : (e.loop w).draining = false)
    (hs : (e.loop w).stopped = true) : e.runPending w = (w, .ok 0) :=
  hl.drain_of_stopped _ hd hs

/-- **Draining between tasks.** A drain of a running loop between tasks runs the tasks in the
order they were queued, up to the first stop (`RunsInOrder`). -/
theorem runPending_spec (hd : (e.loop w).draining = false) (hs : (e.loop w).stopped = false) :
    e.RunsInOrder w := by
  unfold RunsInOrder
  intro d sent l
  have hstart : e.loop (e.modifyLoop w fun l => { l with draining := true }) =
      { e.loop w with draining := true } := hl.loop_modifyLoop _
  have hd1 : (e.loop (e.modifyLoop w fun l => { l with draining := true })).draining = true := by
    rw [hstart]
  have hs1 : (e.loop (e.modifyLoop w fun l => { l with draining := true })).stopped = false := by
    rw [hstart]
    exact hs
  have hrun := runPending_of_idle e hd
  have hl' : l = { e.loop d.world with draining := false } := by
    simp only [l, hrun, hl.loop_modifyLoop]
    rfl
  have hfifo : d.messages ++ l.queue = sent := by
    rw [hl']
    have h := hl.taken_append_queue (e.budget w) 0 hd1
    rwa [hstart] at h
  have hend : d.Ending 0 l := by
    rw [hl']
    exact hl.drainLog_ending hd1 hs1 (Nat.le_of_eq (hl.budget_draining w true))
  refine ⟨by rw [hl'], hfifo, fun ha => ?_, fun f ha => ?_⟩
  · obtain ⟨hm, hq, hst, hran⟩ := hend.of_sent ha hfifo
    refine ⟨?_, hm, hq, hst⟩
    rw [hrun, Drained.outcome, ha, hran, Nat.zero_add]
  · rcases hend with ⟨ha', -⟩ | ⟨ha', -⟩ | ⟨-, hne, hrun', hst⟩
    · simp [ha] at ha'
    · simp [ha] at ha'
    · exact ⟨by rw [hrun, Drained.outcome, ha], hne, hrun', hst⟩

end Lawful

end Engine

end Proscenium
