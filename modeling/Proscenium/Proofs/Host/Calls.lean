import Proscenium.Proofs.Host.Hosting
import Proscenium.Proofs.Loop.Drain

/-!
# Any sequence of host calls

The owning thread launches applications, creates views, moves from view to view, reports window
sizes and runs the queued work, in any order. From a fresh scene, whatever it does:

* the world stays steady (`World.Steady`): the root's only child is the hosted view's node,
  every other view hangs nowhere, and the hosted view was laid out at the last size reported;
* the last size reported is the host's size;
* a drain runs the queued tasks one after another, in the order they were queued
  (`drain_runs_queued`). Each swap hosts its view and clears the capture, so once the queue is
  drained the hosted view is the target of the last queued swap.

`host_calls_keep_one_view_hosted` states all of it over every sequence of calls.
-/

namespace Proscenium

open Act World

section Lists

variable {α β : Type}

/-- The last answer of `f` along `a :: l`, falling back on `x`, is the last along `l`, falling
back on `f a` and then on `x`. -/
theorem getLast?_filterMap_cons_or (f : α → Option β) (a : α) (l : List α) (x : Option β) :
    ((a :: l).filterMap f).getLast?.or x = (l.filterMap f).getLast?.or ((f a).or x) := by
  cases hf : f a with
  | none => simp [List.filterMap_cons_none hf]
  | some b =>
    rw [List.filterMap_cons_some hf, List.getLast?_cons]
    cases (l.filterMap f).getLast? <;> rfl

end Lists

/-! ## A drain in a steady world -/

section Drain

variable {w : World}

@[simp] theorem sceneEngine_loop (w : World) : sceneEngine.loop w = w.loop := rfl

@[simp] theorem sceneEngine_setLoop (w : World) (l : TaskLoop SceneTask) :
    sceneEngine.setLoop w l = { w with loop := l } := rfl

/-- A loop that runs, with a part of the queue of a sound world, keeps it sound. -/
theorem World.Sound.withLoop (hs : w.Sound) {l : TaskLoop SceneTask} (hst : l.stopped = false)
    (hq : ∀ m ∈ l.queue, m ∈ w.loop.queue) : { w with loop := l }.Sound where
  root := hs.root
  views := hs.views
  distinct := hs.distinct
  running := hst
  live := hs.live
  queue m hm := hs.queue m (hq m hm)

/-- In a sound world the queue holds only tasks, each of which refers to what is there. -/
theorem World.Sound.queue_eq_map (hs : w.Sound) :
    ∃ ts : List SceneTask, w.loop.queue = ts.map .run ∧ ∀ t ∈ ts, t.Resolves w := by
  induction hq : w.loop.queue generalizing w with
  | nil => exact ⟨[], rfl, by simp⟩
  | cons m rest ih =>
    obtain ⟨t, rfl, ht⟩ := hs.queue m (by simp [hq])
    -- the rest of the queue is the queue of the world with the first task taken off
    have hs' := hs.withLoop (l := { w.loop with queue := rest }) hs.running fun m hm => by
      rw [hq]
      exact List.mem_cons_of_mem _ hm
    obtain ⟨ts, hts, hres⟩ := ih hs' rfl
    refine ⟨t :: ts, by rw [hts]; rfl, ?_⟩
    intro t' ht'
    rcases List.mem_cons.mp ht' with rfl | ht'
    · exact ht
    · exact hres t' ht'

/-- A widget change leaves the host's size, and a swap does too. -/
theorem size_foldl_hostAfter (ts : List SceneTask) (h : Host) :
    (ts.foldl SceneTask.hostAfter h).size = h.size := by
  induction ts generalizing h with
  | nil => rfl
  | cons t ts ih =>
    rw [List.foldl_cons, ih]
    cases t <;> rfl

/-- The view a task hosts, if it is a swap. -/
def SceneTask.swapTarget : SceneTask → Option Nat
  | .present v => some v
  | _ => none

/-- After tasks run in order, the hosted view is the target of the last swap among them, or the
view hosted before when there is none. -/
theorem current_foldl_hostAfter (ts : List SceneTask) (h : Host) :
    (ts.foldl SceneTask.hostAfter h).current = (ts.filterMap SceneTask.swapTarget).getLast?.or h.current := by
  induction ts generalizing h with
  | nil => rfl
  | cons t ts ih =>
    rw [List.foldl_cons, ih, getLast?_filterMap_cons_or]
    cases t <;> rfl

/-- A drain of a draining world that is sound and shows one view, with tasks `ts` queued and fuel
for all of them, takes them off one after another and runs each: it runs them all without an
abort, keeps the picture, leaves the queue empty and the rest of the loop as it was, and does to
the host what the tasks say, in the order they were queued. -/
theorem drainLog_of_tasks (ts : List SceneTask) :
    ∀ {u : World} {fuel n : Nat}, u.Sound → u.Hosting → u.loop.draining = true →
      u.loop.queue = ts.map .run → ts.length < fuel →
      (sceneEngine.drainLog fuel u n).abort = none ∧ (sceneEngine.drainLog fuel u n).ran = n + ts.length ∧
      (sceneEngine.drainLog fuel u n).world.Sound ∧ (sceneEngine.drainLog fuel u n).world.Hosting ∧
      (sceneEngine.drainLog fuel u n).world.loop = { u.loop with queue := [] } ∧
      (sceneEngine.drainLog fuel u n).world.host = ts.foldl SceneTask.hostAfter u.host := by
  induction ts with
  | nil =>
    intro u fuel n hs hh _ hq hfuel
    obtain ⟨k, rfl⟩ : ∃ k, fuel = k + 1 := ⟨fuel - 1, by simp at hfuel; omega⟩
    have hloop : { u.loop with queue := [] } = u.loop := by
      cases hl : u.loop
      simp_all
    rw [Engine.drainLog_of_empty hs.running hq]
    exact ⟨rfl, rfl, hs, hh, hloop.symm ▸ rfl, rfl⟩
  | cons t ts ih =>
    intro u fuel n hs hh hd hq hfuel
    obtain ⟨k, rfl⟩ : ∃ k, fuel = k + 1 := ⟨fuel - 1, by simp at hfuel; omega⟩
    -- the task taken off the front runs on the world with the rest of the queue
    have hs₀ := hs.withLoop (l := { u.loop with queue := ts.map .run }) hs.running fun m hm => by
      rw [hq, List.map_cons]
      exact List.mem_cons_of_mem _ hm
    have hh₀ : { u with loop := { u.loop with queue := ts.map .run } }.Hosting := hh.congr rfl rfl rfl
    obtain ⟨t', ht', hres⟩ := hs.queue (.run t) (by simp [hq])
    cases ht'
    obtain ⟨_, u₁, hx, hs₁, hh₁, hhost, hloop⟩ := answers_runTask hs₀ hh₀ hres
    have hexec : sceneEngine.exec t (sceneEngine.setLoop u { sceneEngine.loop u with queue := ts.map .run }) =
        (u₁, none) := by
      simp only [sceneEngine, hx]
    rw [Engine.drainLog_of_run_ok hs.running (by exact hq) hexec]
    obtain ⟨habort, hran, hs', hh', hloop', hhost'⟩ :=
      ih hs₁ hh₁ (by rw [hloop]; exact hd) (by rw [hloop]) (by simp at hfuel; omega)
    refine ⟨habort, by rw [Drained.ran_cons, hran, List.length_cons]; omega, hs', hh', ?_, ?_⟩
    · rw [Drained.world_cons, hloop', hloop]
    · rw [Drained.world_cons, hhost', hhost]
      rfl

/-- A drain's budget covers every task queued when it starts. -/
theorem queue_length_lt_budget (w : World) : w.loop.queue.length < sceneEngine.budget w := by
  have hle : w.loop.queue.length ≤ w.loop.queue.length * (1 + 4 * w.cardCount * w.handlerCount) :=
    Nat.le_mul_of_pos_right _ (by omega)
  show _ < World.drainBudget w
  unfold World.drainBudget
  omega

/-- **Draining a steady world.** With tasks `ts` queued, a drain answers their number, and the
world is steady again with the queue empty. The tasks ran one after another in the order they
were queued: each swap hosted its view and cleared the capture, so the hosted view is the target
of the last queued swap, if there was one. -/
theorem drain_runs_queued (hst : w.Steady) {ts : List SceneTask} (hq : w.loop.queue = ts.map .run) :
    drain.Answers w fun n w' => n = ts.length ∧ w'.Steady ∧ w'.loop = { w.loop with queue := [] } ∧
      w'.host = ts.foldl SceneTask.hostAfter w.host := by
  have hd := hst.idle
  -- the drain runs from the world marked as draining, with the world's budget as fuel
  have hbudget := queue_length_lt_budget w
  rw [hq, List.length_map] at hbudget
  have hs₀ := hst.sound.withLoop (l := { w.loop with draining := true }) hst.sound.running (fun m hm => hm)
  have hh₀ : { w with loop := { w.loop with draining := true } }.Hosting := hst.hosting.congr rfl rfl rfl
  obtain ⟨habort, hran, hs', hh', hloop', hhost'⟩ :=
    drainLog_of_tasks ts (n := 0) hs₀ hh₀ rfl hq hbudget
  have hrun := sceneEngine.runPending_of_idle hd
  have hmark : sceneEngine.modifyLoop w (fun l => { l with draining := true }) =
      { w with loop := { w.loop with draining := true } } := rfl
  rw [Engine.pendingLog, hmark] at hrun
  generalize sceneEngine.drainLog (sceneEngine.budget w) { w with loop := { w.loop with draining := true } } 0 = d
    at habort hran hs' hh' hloop' hhost' hrun
  apply Answers.of_apply
  · unfold drain
    rw [hrun]
    simp only [Drained.outcome, habort, hran, Nat.zero_add]
    rfl
  -- the drain takes the draining mark off again
  have hloop : (sceneEngine.modifyLoop d.world fun l => { l with draining := false }).loop =
      { w.loop with queue := [] } := by
    simp only [Engine.modifyLoop, sceneEngine_loop, sceneEngine_setLoop, hloop']
    rw [← TaskLoop.with_draining_self hd]
  refine ⟨rfl, ⟨hs'.withLoop ?_ ?_, hh'.congr rfl rfl rfl, ?_⟩, hloop, hhost'⟩
  · exact (congrArg TaskLoop.stopped hloop).trans hst.sound.running
  · intro m hm
    change m ∈ (sceneEngine.modifyLoop d.world fun l => { l with draining := false }).loop.queue at hm
    rw [hloop] at hm
    cases hm
  · exact (congrArg TaskLoop.draining hloop).trans hd

end Drain

/-! ## Runs of host calls -/

/-- The calls a scene's owning thread makes on its host and its views. -/
inductive HostCall where
  /-- Launch an application: a new loading view, bound, with its swap queued. -/
  | launch (app : Application)
  /-- Create a view to move to later. -/
  | newView (kind : ScreenKind)
  /-- Move from view `v` to view `next`. -/
  | transition (v next : Nat)
  /-- Report a window size. -/
  | resize (size : Size)
  /-- Run the queued work. -/
  | drain

namespace HostCall

/-- What a call does. -/
def act : HostCall → Act Unit
  | .launch app => do let _ ← Proscenium.launch app
  | .newView kind => do let _ ← addView kind
  | .transition v next => transitionTo v next
  | .resize size => resizeHost size
  | .drain => do let _ ← Proscenium.drain

/-- The size a call reports, if it is a resize. -/
def reported : HostCall → Option Size
  | .resize size => some size
  | _ => none

end HostCall

/-- The world after the calls, each made on the world the one before left, whether it answered
or was refused. -/
def World.afterCalls (w : World) (calls : List HostCall) : World :=
  calls.foldl (fun w c => c.act.after w) w

section Runs

variable {w : World}

/-- A fresh scene is steady: only the root, no views, nothing queued. -/
theorem World.steady_fresh (origin : NativeOrigin) (game : Option GameSetup) :
    (World.fresh origin game).Steady where
  sound := ⟨by simp [World.fresh], by simp [World.fresh], by simp [World.fresh], rfl, rfl,
    by simp [World.fresh, TaskLoop.fresh]⟩
  hosting := ⟨⟨by simp [World.fresh, childrenOf_eq_getD, NodeState.fresh], by simp [World.fresh],
    by simp [World.fresh]⟩, by simp [World.fresh]⟩
  idle := rfl

/-- **One call.** Any call keeps a world steady, and only a resize changes the host's size. -/
theorem World.Steady.after_call (hst : w.Steady) (c : HostCall) :
    (c.act.after w).Steady ∧ (c.act.after w).host.size = c.reported.or w.host.size := by
  cases c with
  | launch app =>
    simp only [HostCall.act, HostCall.reported]
    obtain ⟨_, h⟩ := (Answers.bind ((answers_launch hst app).mono fun _ w' h =>
      (answers_pure (Q := fun _ w'' => w''.Steady ∧ w''.host = w.host)).mpr h.2)).after
    exact ⟨h.1, by rw [h.2]; rfl⟩
  | newView kind =>
    simp only [HostCall.act, HostCall.reported]
    obtain ⟨_, h⟩ := (Answers.bind ((answers_addView kind).mono fun _ w' h =>
      (answers_pure (Q := fun _ w'' => w''.Steady ∧ w''.host = w.host)).mpr (by
        obtain ⟨-, hg, node, screen, hviews, -, hres, hfresh, hlt, hparent⟩ := h
        exact ⟨hst.addView hg hviews hres hfresh hlt hparent, hg.host⟩))).after
    exact ⟨h.1, by rw [h.2]; rfl⟩
  | transition v next =>
    rcases transitionTo_of_steady hst v next with ⟨w', hx, hst', hhost, -⟩ | ⟨e, hx⟩
    · simp only [HostCall.act, Act.after, hx]
      exact ⟨hst', by rw [hhost]; rfl⟩
    · simp only [HostCall.act, Act.after, hx]
      exact ⟨hst, rfl⟩
  | resize size =>
    obtain ⟨_, hs', hh', hhost, hloop⟩ := (answers_resizeHost hst.sound hst.hosting size).after
    show ((resizeHost size).after w).Steady ∧ ((resizeHost size).after w).host.size = some size
    exact ⟨⟨hs', hh', by rw [hloop]; exact hst.idle⟩, by rw [hhost]⟩
  | drain =>
    simp only [HostCall.act, HostCall.reported]
    obtain ⟨ts, hq, -⟩ := hst.sound.queue_eq_map
    obtain ⟨_, h⟩ := (Answers.bind ((drain_runs_queued hst hq).mono fun _ w' h =>
      (answers_pure (Q := fun _ w'' => w''.Steady ∧ w''.host = ts.foldl SceneTask.hostAfter w.host)).mpr
        ⟨h.2.1, h.2.2.2⟩)).after
    exact ⟨h.1, by rw [h.2, size_foldl_hostAfter]; rfl⟩

/-- **Any run of calls.** From a steady world, every sequence of calls leaves the world steady,
with the last size reported as the host's size. -/
theorem World.Steady.afterCalls (hst : w.Steady) (calls : List HostCall) :
    (w.afterCalls calls).Steady ∧
      (w.afterCalls calls).host.size = (calls.filterMap HostCall.reported).getLast?.or w.host.size := by
  induction calls generalizing w with
  | nil => exact ⟨hst, rfl⟩
  | cons c calls ih =>
    obtain ⟨hst₁, hsize₁⟩ := hst.after_call c
    obtain ⟨hst', hsize'⟩ := ih hst₁
    refine ⟨hst', ?_⟩
    rw [getLast?_filterMap_cons_or, ← hsize₁]
    exact hsize'

/-- From a fresh scene, after any sequence of launches, new views, transitions, resizes and
drains: the host shows one view at a time (the root's only child is the hosted view's node, that
node hangs from the root, every other view hangs nowhere, and the hosted view was laid out at the
host's size), and the host's size is the last size reported. A drain then runs the queued tasks
in the order they were queued, each swap hosting its view and clearing the capture; it empties
the queue, keeps the picture, and leaves hosted the target of the last queued swap. -/
theorem host_calls_keep_one_view_hosted (origin : NativeOrigin) (game : Option GameSetup)
    (calls : List HostCall) :
    ((World.fresh origin game).afterCalls calls).Steady ∧
    ((World.fresh origin game).afterCalls calls).host.size = (calls.filterMap HostCall.reported).getLast? ∧
    ∃ ts : List SceneTask, ((World.fresh origin game).afterCalls calls).loop.queue = ts.map .run ∧
      drain.Answers ((World.fresh origin game).afterCalls calls) fun n w' =>
        n = ts.length ∧ w'.Steady ∧ w'.loop.queue = [] ∧
        w'.host = ts.foldl SceneTask.hostAfter ((World.fresh origin game).afterCalls calls).host ∧
        w'.host.current = (ts.filterMap SceneTask.swapTarget).getLast?.or
          ((World.fresh origin game).afterCalls calls).host.current := by
  obtain ⟨hst, hsize⟩ := (World.steady_fresh origin game).afterCalls calls
  obtain ⟨ts, hq, -⟩ := hst.sound.queue_eq_map
  refine ⟨hst, by rw [hsize]; cases (calls.filterMap HostCall.reported).getLast? <;> rfl, ts, hq, ?_⟩
  refine (drain_runs_queued hst hq).mono fun n w' h => ⟨h.1, h.2.1, by rw [h.2.2.1], h.2.2.2, ?_⟩
  rw [h.2.2.2, current_foldl_hostAfter]

end Runs

end Proscenium
