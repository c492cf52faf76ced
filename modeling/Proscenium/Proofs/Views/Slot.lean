import Proscenium.Proofs.Host.Growth
import Proscenium.Script.Scene

/-!
# The presenter slot

A view's presenter slot is vacant, holds a presenter, or is retired. Three operations change it:
handing the view a presenter, clearing it, and retiring the view (the last step of a
transition). Each writes the slot and then drops the presenter it gave up, if any: the one
replaced, the one cleared, the one held when the view was retired, or the one handed to a view
already retired. `PresenterSlot.exchange` is that table; the drop always comes after the write,
so a presenter's teardown sees the slot as the operation left it.

* `SlotOp.run_apply`: each operation on a view is the write its `exchange` gives, then the drop.
* `forM_run_eq_slotSteps`: any sequence of operations on one view is the slot machine run from
  the view's slot: write, drop, write, drop, … . Dropping only removes handlers, so no drop
  changes what a later operation reads.
* `dropsAlong_perm`: along any sequence, the presenters dropped and the one still held are,
  up to order, the one held at the start and every one handed over: each is dropped exactly once
  unless it is still held.
* A retired slot stays retired and drops at once whatever it is handed (`afterOps_of_retired`,
  `dropsAlong_of_retired`); a second clear changes nothing (`forM_run_clear_clear`).
-/

namespace Proscenium

open Act World

/-! ## The slot machine -/

/-- What can be done to a view's presenter slot. -/
inductive SlotOp where
  /-- Hand the view a presenter. -/
  | set (p : Presenter)
  /-- Drop the presenter, if any. -/
  | clear
  /-- Mark the view superseded. -/
  | retire

namespace SlotOp

/-- The presenter an operation hands over. -/
def given : SlotOp → Option Presenter
  | .set p => some p
  | _ => none

/-- Carry an operation out on view `v`. -/
def run (v : Nat) : SlotOp → Act Unit
  | .set p => setPresenter v p
  | .clear => clearPresenter v
  | .retire => Proscenium.retire v

end SlotOp

namespace PresenterSlot

/-- The presenter a slot holds. -/
def holding : PresenterSlot → Option Presenter
  | .held p => some p
  | _ => none

/-- What an operation does to a slot: the slot it leaves, and the presenter it gives up. -/
def exchange : PresenterSlot → SlotOp → PresenterSlot × Option Presenter
  | .retired, .set p => (.retired, some p)
  | .held old, .set p => (.held p, some old)
  | .vacant, .set p => (.held p, none)
  | .held old, .clear => (.vacant, some old)
  | s, .clear => (s, none)
  | s, .retire => (.retired, s.holding)

/-- The slot left by a sequence of operations. -/
def afterOps : PresenterSlot → List SlotOp → PresenterSlot
  | s, [] => s
  | s, op :: ops => (s.exchange op).1.afterOps ops

/-- The presenters a sequence of operations gives up, in the order they are dropped. -/
def dropsAlong : PresenterSlot → List SlotOp → List Presenter
  | _, [] => []
  | s, op :: ops => (s.exchange op).2.toList ++ (s.exchange op).1.dropsAlong ops

/-- One operation gives up the presenter held before it or the one handed over, and keeps the
other: nothing is lost and nothing is given up twice. -/
theorem exchange_perm (s : PresenterSlot) (op : SlotOp) :
    ((s.exchange op).2.toList ++ (s.exchange op).1.holding.toList).Perm
      (s.holding.toList ++ op.given.toList) := by
  cases s <;> cases op <;> simp [exchange, holding, SlotOp.given]

/-- **Each presenter is dropped once.** Along any sequence of operations, the presenters dropped
and the one still held are, up to order, the one held at the start and those handed over. -/
theorem dropsAlong_perm (s : PresenterSlot) (ops : List SlotOp) :
    (s.dropsAlong ops ++ (s.afterOps ops).holding.toList).Perm
      (s.holding.toList ++ ops.filterMap SlotOp.given) := by
  induction ops generalizing s with
  | nil => simp [dropsAlong, afterOps]
  | cons op ops ih =>
    have hgiven : op.given.toList ++ ops.filterMap SlotOp.given = (op :: ops).filterMap SlotOp.given := by
      cases h : op.given <;> simp [h]
    -- the first operation's account, then the rest's from the slot it left
    calc (s.dropsAlong (op :: ops) ++ (s.afterOps (op :: ops)).holding.toList)
        = (s.exchange op).2.toList ++
            ((s.exchange op).1.dropsAlong ops ++ ((s.exchange op).1.afterOps ops).holding.toList) := by
          simp [dropsAlong, afterOps]
      List.Perm _ ((s.exchange op).2.toList ++
          ((s.exchange op).1.holding.toList ++ ops.filterMap SlotOp.given)) :=
          (ih _).append_left _
      _ = ((s.exchange op).2.toList ++ (s.exchange op).1.holding.toList) ++ ops.filterMap SlotOp.given :=
          (List.append_assoc _ _ _).symm
      List.Perm _ ((s.holding.toList ++ op.given.toList) ++ ops.filterMap SlotOp.given) :=
          (exchange_perm s op).append_right _
      _ = s.holding.toList ++ (op :: ops).filterMap SlotOp.given := by
          rw [List.append_assoc, hgiven]

theorem afterOps_append (s : PresenterSlot) (ops ops' : List SlotOp) :
    s.afterOps (ops ++ ops') = (s.afterOps ops).afterOps ops' := by
  induction ops generalizing s with
  | nil => rfl
  | cons op ops ih => exact ih _

theorem dropsAlong_append (s : PresenterSlot) (ops ops' : List SlotOp) :
    s.dropsAlong (ops ++ ops') = s.dropsAlong ops ++ (s.afterOps ops).dropsAlong ops' := by
  induction ops generalizing s with
  | nil => rfl
  | cons op ops ih =>
    simp only [List.cons_append, dropsAlong, afterOps, ih, List.append_assoc]

/-- A retired slot stays retired. -/
theorem afterOps_of_retired (ops : List SlotOp) : PresenterSlot.retired.afterOps ops = .retired := by
  induction ops with
  | nil => rfl
  | cons op ops ih => cases op <;> exact ih

/-- A retired slot drops at once every presenter it is handed, and nothing else. -/
theorem dropsAlong_of_retired (ops : List SlotOp) :
    PresenterSlot.retired.dropsAlong ops = ops.filterMap SlotOp.given := by
  induction ops with
  | nil => rfl
  | cons op ops ih =>
    cases op <;> simp [dropsAlong, exchange, holding, SlotOp.given, List.filterMap_cons, ih]

/-- After a clear the slot holds nothing, so a second clear leaves it and drops nothing. -/
theorem exchange_clear_clear (s : PresenterSlot) :
    (s.exchange .clear).1.exchange .clear = ((s.exchange .clear).1, none) := by
  cases s <;> rfl

end PresenterSlot

/-! ## Operations on a view -/

/-- Operations on view `v` as the slot machine runs them from slot `s`: each writes the slot it
leaves, then drops the presenter it gave up. -/
def slotSteps (v : Nat) : PresenterSlot → List SlotOp → Act Unit
  | _, [] => pure ()
  | s, op :: ops => do
    modifyView v fun st => { st with slot := (s.exchange op).1 }
    (s.exchange op).2.toList.forM dropPresenter
    slotSteps v (s.exchange op).1 ops

section Views

variable {w : World} {v : Nat} {view : ViewState}

theorem modify_of_fixed {α : Type} {l : List α} {i : Nat} {a : α} {f : α → α} (h : l[i]? = some a)
    (hf : f a = a) : l.modify i f = l := by
  apply List.ext_getElem?
  intro j
  by_cases hij : i = j
  · subst hij
    simp [h, hf]
  · rw [List.getElem?_modify_ne _ _ hij]

theorem forM_singleton_apply {β : Type} (f : β → Act PUnit) (b : β) (w : World) : [b].forM f w = f b w := by
  rw [forM_cons_apply, bind_apply]
  cases f b w <;> rfl

/-- Writing the slot a view already has changes nothing. -/
theorem modifyView_slot_of_eq (hv : w.views[v]? = some view) {s : PresenterSlot} (hs : view.slot = s) :
    modifyView v (fun st => { st with slot := s }) w = .ok () w := by
  rw [modifyView_apply, modify_of_fixed hv (by rw [← hs])]

/-- **One operation.** Each operation on a view writes the slot `exchange` gives it, then drops
the presenter it gave up. -/
theorem SlotOp.run_apply (hv : w.views[v]? = some view) (op : SlotOp) :
    op.run v w =
      (modifyView v (fun st => { st with slot := (view.slot.exchange op).1 }) >>= fun _ =>
        (view.slot.exchange op).2.toList.forM dropPresenter) w := by
  have hread : viewAt v w = .ok view w := by rw [viewAt_apply, hv]
  -- a slot the operation leaves as it is: the write is no change, and the drop is all there is
  have hsame : ∀ (s : PresenterSlot) (x : Act Unit), view.slot = s →
      x w = (modifyView v (fun st => { st with slot := s }) >>= fun _ => x) w := fun s x hs => by
    rw [bind_apply_ok (modifyView_slot_of_eq hv hs)]
  cases op with
  | set p =>
    simp only [run, setPresenter, bind_apply_ok hread]
    cases hs : view.slot with
    | vacant => simp [PresenterSlot.exchange, bind_apply, modifyView_apply]; rfl
    | held old => simp [PresenterSlot.exchange, bind_apply, modifyView_apply]
    | retired =>
      simp only [PresenterSlot.exchange, Option.toList_some]
      rw [← hsame _ _ hs, forM_singleton_apply]
  | clear =>
    simp only [run, clearPresenter, bind_apply_ok hread]
    cases hs : view.slot with
    | held old => simp [PresenterSlot.exchange, bind_apply, modifyView_apply]
    | vacant =>
      simp only [PresenterSlot.exchange, Option.toList_none]
      rw [← hsame _ _ hs]
      rfl
    | retired =>
      simp only [PresenterSlot.exchange, Option.toList_none]
      rw [← hsame _ _ hs]
      rfl
  | retire =>
    simp only [run, Proscenium.retire, bind_apply_ok hread]
    cases hs : view.slot with
    | held old => simp [PresenterSlot.exchange, PresenterSlot.holding, bind_apply, modifyView_apply]
    | vacant => simp [PresenterSlot.exchange, PresenterSlot.holding, bind_apply, modifyView_apply]
    | retired => simp [PresenterSlot.exchange, PresenterSlot.holding, bind_apply, modifyView_apply]

/-- Dropping presenters answers and only removes handlers. -/
theorem answers_forM_dropPresenter (ps : List Presenter) :
    (ps.forM dropPresenter).Answers w fun _ w' => w.Prunes w' :=
  Answers.forM (fun p _ _ hu => (answers_dropPresenter p).mono fun _ _ hu' => hu.trans hu') (.refl w)

/-- What one step of the slot machine leaves: the view's new slot, the rest of the world pruned
of the dropped presenters' handlers. -/
theorem exists_step (hv : w.views[v]? = some view) (op : SlotOp) :
    ∃ w', ((view.slot.exchange op).2.toList.forM dropPresenter)
        { w with views := w.views.modify v fun st => { st with slot := (view.slot.exchange op).1 } } =
          .ok () w' ∧
      w'.views[v]? = some { view with slot := (view.slot.exchange op).1 } := by
  obtain ⟨_, w', hdrop, hprune⟩ := answers_forM_dropPresenter (w :=
    { w with views := w.views.modify v fun st => { st with slot := (view.slot.exchange op).1 } })
    (view.slot.exchange op).2.toList
  refine ⟨w', hdrop, ?_⟩
  rw [congrArg World.views hprune.eq]
  simp [hv]

/-- **Runs of operations.** Any sequence of operations on one view is the slot machine run from
the view's slot: each operation writes the slot `exchange` gives, then drops what it gave up. -/
theorem forM_run_eq_slotSteps (hv : w.views[v]? = some view) (ops : List SlotOp) :
    ops.forM (SlotOp.run v) w = slotSteps v view.slot ops w := by
  -- on the operations; a drop leaves the views alone, so the next operation reads the slot written
  induction ops generalizing w view with
  | nil => rfl
  | cons op ops ih =>
    obtain ⟨w', hdrop, hv'⟩ := exists_step hv op
    have hop : op.run v w = .ok () w' := by
      rw [SlotOp.run_apply hv, bind_apply_ok (modifyView_apply _ _ _), hdrop]
    rw [forM_cons_apply, bind_apply_ok hop, ih hv', slotSteps,
      bind_apply_ok (modifyView_apply _ _ _), bind_apply_ok hdrop]

/-- A clear right after a clear changes nothing: the second finds the slot without a presenter. -/
theorem forM_run_clear_clear (hv : w.views[v]? = some view) (ops : List SlotOp) :
    (SlotOp.clear :: SlotOp.clear :: ops).forM (SlotOp.run v) w =
      (SlotOp.clear :: ops).forM (SlotOp.run v) w := by
  obtain ⟨w', hdrop, hv'⟩ := exists_step hv .clear
  have hfirst : ∀ ops', slotSteps v view.slot (.clear :: ops') w =
      slotSteps v (view.slot.exchange .clear).1 ops' w' := by
    intro ops'
    rw [slotSteps, bind_apply_ok (modifyView_apply _ _ _), bind_apply_ok hdrop]
  -- the second clear writes back the slot it finds and drops nothing
  have hsecond : slotSteps v (view.slot.exchange .clear).1 (.clear :: ops) w' =
      slotSteps v (view.slot.exchange .clear).1 ops w' := by
    simp only [slotSteps, PresenterSlot.exchange_clear_clear]
    rw [bind_apply_ok (modifyView_slot_of_eq hv' rfl)]
    rfl
  rw [forM_run_eq_slotSteps hv, forM_run_eq_slotSteps hv, hfirst, hfirst, hsecond]

end Views

/-- A view report says the view has a presenter exactly when its slot holds one. -/
theorem viewReport_hasPresenter (w : World) (view : ViewState) :
    (SceneSession.viewReport w view).hasPresenter = true ↔ ∃ p, view.slot = .held p := by
  unfold SceneSession.viewReport
  cases hs : view.slot with
  | held p => cases p <;> simp
  | vacant => simp
  | retired => simp

/-- **The presenter slot.** Take any sequence of presenter handovers, clears and retirements on a
view. Running it is the slot machine: each operation writes the slot, then drops the presenter it
gave up, so the drop sees the slot as the operation left it. The presenters dropped and the one
still held are, up to order, the one held at the start and every one handed over: each is dropped
exactly once unless it is still held. Once retired, the slot stays retired and drops at once
every presenter handed to it; a second clear changes nothing; and a view reports a presenter
exactly when its slot holds one. -/
theorem presenter_slot_drops_each_presenter_once :
    (∀ (w : World) (v : Nat) (view : ViewState) (ops : List SlotOp), w.views[v]? = some view →
      ops.forM (SlotOp.run v) w = slotSteps v view.slot ops w) ∧
    (∀ (s : PresenterSlot) (ops : List SlotOp),
      (s.dropsAlong ops ++ (s.afterOps ops).holding.toList).Perm
        (s.holding.toList ++ ops.filterMap SlotOp.given)) ∧
    (∀ (s : PresenterSlot) (ops ops' : List SlotOp), s.afterOps ops = .retired →
      s.afterOps (ops ++ ops') = .retired ∧
        s.dropsAlong (ops ++ ops') = s.dropsAlong ops ++ ops'.filterMap SlotOp.given) ∧
    (∀ (w : World) (v : Nat) (view : ViewState) (ops : List SlotOp), w.views[v]? = some view →
      (SlotOp.clear :: SlotOp.clear :: ops).forM (SlotOp.run v) w =
        (SlotOp.clear :: ops).forM (SlotOp.run v) w) ∧
    (∀ (w : World) (view : ViewState),
      (SceneSession.viewReport w view).hasPresenter = true ↔ ∃ p, view.slot = .held p) := by
  refine ⟨fun w v view ops hv => forM_run_eq_slotSteps hv ops, PresenterSlot.dropsAlong_perm,
    fun s ops ops' hr => ?_, fun w v view ops hv => forM_run_clear_clear hv ops, viewReport_hasPresenter⟩
  rw [PresenterSlot.afterOps_append, PresenterSlot.dropsAlong_append, hr,
    PresenterSlot.afterOps_of_retired, PresenterSlot.dropsAlong_of_retired]
  exact ⟨rfl, rfl⟩

/-- A fresh view handed two presenters and then retired: running the operations is the slot
machine run from a vacant slot. -/
theorem presenter_slot_drops_each_presenter_once_on_a_fresh_view :
    let w : World := { World.fresh .topLeft none with views := [⟨1, .game 0 0, none, .vacant, none⟩] }
    w.views[0]? = some ⟨1, .game 0 0, none, .vacant, none⟩ ∧
      [SlotOp.set (.named "a"), .set (.named "b"), .retire].forM (SlotOp.run 0) w =
        slotSteps 0 .vacant [.set (.named "a"), .set (.named "b"), .retire] w := by
  intro w
  exact ⟨rfl, presenter_slot_drops_each_presenter_once.1 w 0 _ _ rfl⟩

end Proscenium
