import Proscenium.Proofs.Host.Growth

/-!
# Moving from one view to the next

`transitionTo v next` does three things in a fixed order: it binds `next` with `v`'s binding,
queues the swap to `next`, and retires `v`, dropping its presenter. What a call leaves behind
follows from that order:

* an unbound `v` is a broken precondition, reported before anything changes
  (`transitionTo_of_unbound`); so is a `next` that is already bound (`transitionTo_of_bound`);
* once the loop is dropped the swap cannot be queued: the call fails after binding `next`, and
  `v` keeps its presenter (`transitionTo_of_dropped`);
* otherwise it answers, leaving `next` bound, the swap queued and `v` retired, with its old
  presenter dropped (`answers_transitionTo`); the swap itself has not run.

A binding is never replaced, and a transition that gets past its preconditions binds its target
whether the swap is queued or not. So along a chain of transitions, each from a view reached
before (retired or not) to a view not bound yet, every view reached carries the first view's
binding (`World.Lineage.afterTransitions`).
-/

namespace Proscenium

open Act World

section Views

variable {w : World} {v next : Nat} {view nv : ViewState} {b : Binding}

theorem bindingOf_apply (hv : w.views[v]? = some view) (hb : view.binding = some b) :
    bindingOf v w = .ok b w := by
  simp only [bindingOf, bind_apply, viewAt_apply, hv, hb]
  rfl

theorem bindingOf_of_unbound (hv : w.views[v]? = some view) (hb : view.binding = none) :
    bindingOf v w = .error (viewViolation view "is not bound") w := by
  simp only [bindingOf, bind_apply, viewAt_apply, hv, hb]
  rfl

theorem bindView_apply (hv : w.views[v]? = some view) (hb : view.binding = none) (b : Binding) :
    bindView v b w = .ok () { w with views := w.views.modify v fun st => { st with binding := some b } } := by
  simp only [bindView, bind_apply, viewAt_apply, hv, hb, Option.isSome_none, Bool.false_eq_true, if_false,
    modifyView_apply]

theorem bindView_of_bound (hv : w.views[v]? = some view) (hb : view.binding.isSome) (b : Binding) :
    bindView v b w = .error (viewViolation view "is already bound") w := by
  simp only [bindView, bind_apply, viewAt_apply, hv, hb, if_true]
  rfl

/-- A bound view and an unbound one are different views. -/
theorem ne_of_bound_unbound (hv : w.views[v]? = some view) (hb : view.binding = some b)
    (hn : w.views[next]? = some nv) (hnb : nv.binding = none) : next ≠ v := by
  rintro rfl
  rw [hv, Option.some.injEq] at hn
  subst hn
  rw [hb] at hnb
  cases hnb

theorem setPresenter_of_vacant (hv : w.views[v]? = some view) (hs : view.slot = .vacant) (p : Presenter) :
    setPresenter v p w = .ok () { w with views := w.views.modify v fun st => { st with slot := .held p } } := by
  simp only [setPresenter, bind_apply, viewAt_apply, hv, hs]
  rfl

/-- A retired view drops a presenter handed to it, and keeps its slot retired. -/
theorem setPresenter_of_retired (hv : w.views[v]? = some view) (hs : view.slot = .retired) (p : Presenter) :
    setPresenter v p w = dropPresenter p w := by
  simp only [setPresenter, bind_apply, viewAt_apply, hv, hs]

/-- Retiring marks the view retired, then drops the presenter it held: only handlers go. -/
theorem answers_retire (hv : w.views[v]? = some view) :
    (retire v).Answers w fun _ w' =>
      { w with views := w.views.modify v fun st => { st with slot := .retired } }.Prunes w' := by
  unfold retire
  refine Answers.bind ((answers_viewAt hv).mpr ?_)
  refine Answers.bind ((Answers.iff_of_apply (modifyView_apply _ _ _)).mpr ?_)
  cases view.slot with
  | held p => exact answers_dropPresenter p
  | vacant => exact answers_pure.mpr (.refl _)
  | retired => exact answers_pure.mpr (.refl _)

/-- Between a bound view and an unbound one, on a loop that is there, a transition is the
retirement of `v` in the world where `next` is bound with `v`'s binding and the swap is queued. -/
theorem transitionTo_eq_retire (hv : w.views[v]? = some view) (hb : view.binding = some b)
    (hn : w.views[next]? = some nv) (hnb : nv.binding = none) (hlive : w.loopDropped = false) :
    transitionTo v next w = retire v
      { w with
        views := w.views.modify next fun st => { st with binding := some b },
        loop := w.loop.post (.present next) } := by
  unfold transitionTo
  rw [bind_apply, bindingOf_apply hv hb]
  simp only [bind_apply, bindView_apply hn hnb b]
  rw [post_apply (by exact hlive)]

/-- A transition between a bound view and an unbound one, on a loop that is there, answers. It
binds `next` with `v`'s binding, queues exactly one swap, to `next`, and retires `v`; dropping
`v`'s old presenter is all that follows. -/
theorem answers_transitionTo (hv : w.views[v]? = some view) (hb : view.binding = some b)
    (hn : w.views[next]? = some nv) (hnb : nv.binding = none) (hlive : w.loopDropped = false) :
    (transitionTo v next).Answers w fun _ w' =>
      { w with
        views := (w.views.modify next fun st => { st with binding := some b }).modify v
          fun st => { st with slot := .retired },
        loop := w.loop.post (.present next) }.Prunes w' := by
  have hne : next ≠ v := ne_of_bound_unbound hv hb hn hnb
  unfold Act.Answers
  rw [transitionTo_eq_retire hv hb hn hnb hlive]
  exact answers_retire (by rw [List.getElem?_modify_ne _ _ hne, hv])

/-- From an unbound view, a transition is a broken precondition and changes nothing. -/
theorem transitionTo_of_unbound (hv : w.views[v]? = some view) (hb : view.binding = none) :
    transitionTo v next w = .error (viewViolation view "is not bound") w := by
  unfold transitionTo
  rw [bind_apply, bindingOf_of_unbound hv hb]

/-- To a view that is already bound, a transition is a broken precondition and changes
nothing. -/
theorem transitionTo_of_bound (hv : w.views[v]? = some view) (hb : view.binding = some b)
    (hn : w.views[next]? = some nv) (hnb : nv.binding.isSome) :
    transitionTo v next w = .error (viewViolation nv "is already bound") w := by
  unfold transitionTo
  rw [bind_apply, bindingOf_apply hv hb]
  simp only [bind_apply, bindView_of_bound hn hnb]

/-- On a dropped loop the swap cannot be queued: the transition fails with the loop's fault,
after `next` was bound and before `v` was retired. -/
theorem transitionTo_of_dropped (hv : w.views[v]? = some view) (hb : view.binding = some b)
    (hn : w.views[next]? = some nv) (hnb : nv.binding = none) (hd : w.loopDropped = true) :
    transitionTo v next w = .error (.fault loopDroppedFault)
      { w with views := w.views.modify next fun st => { st with binding := some b } } := by
  unfold transitionTo
  rw [bind_apply, bindingOf_apply hv hb]
  simp only [bind_apply, bindView_apply hn hnb b]
  rw [post_of_dropped (by exact hd)]

/-- After a transition answers, the view left behind is retired: it drops any presenter handed
to it later. -/
theorem setPresenter_after_transitionTo (hv : w.views[v]? = some view) (hne : next ≠ v) {w' : World}
    (hw' : { w with
        views := (w.views.modify next fun st => { st with binding := some b }).modify v
          fun st => { st with slot := .retired },
        loop := w.loop.post (.present next) }.Prunes w') (p : Presenter) :
    setPresenter v p w' = dropPresenter p w' := by
  have hv' : w'.views[v]? = some { view with slot := .retired } := by
    rw [congrArg World.views hw'.eq, List.getElem?_modify_eq, List.getElem?_modify_ne _ _ hne, hv]
    rfl
  exact setPresenter_of_retired hv' rfl p

end Views

/-! ## Bindings along a chain of transitions -/

section Chains

variable {α β : Type} {w : World} {v next : Nat} {b : Binding} {reached : List Nat} {ts : List (Nat × Nat)}

/-- What each view is bound with, view by view. -/
def World.bindings (w : World) : List (Option Binding) := w.views.map ViewState.binding

/-- The world left by transitions made one after another, each from the world the last one left,
whether it answered or failed. -/
def World.afterTransitions (w : World) (ts : List (Nat × Nat)) : World :=
  ts.foldl (fun w t => (transitionTo t.1 t.2).after w) w

/-- Each transition starts from a view already reached: one of `reached`, or a view an earlier
transition moved to. -/
def Chained : List Nat → List (Nat × Nat) → Prop
  | _, [] => True
  | reached, (v, next) :: ts => v ∈ reached ∧ Chained (next :: reached) ts

@[simp] theorem World.afterTransitions_nil (w : World) : w.afterTransitions [] = w := rfl

@[simp] theorem World.afterTransitions_cons (w : World) (t : Nat × Nat) (ts : List (Nat × Nat)) :
    w.afterTransitions (t :: ts) = ((transitionTo t.1 t.2).after w).afterTransitions ts := rfl

theorem World.bindings_eq_some {u : Nat} {o : Option Binding} :
    w.bindings[u]? = some o ↔ ∃ view, w.views[u]? = some view ∧ view.binding = o := by
  simp only [World.bindings, List.getElem?_map, Option.map_eq_some_iff]

theorem map_modify_eq_set [Inhabited α] {f : α → α} {g : α → β} {c : β} (hf : ∀ a, g (f a) = c)
    (l : List α) (i : Nat) : (l.modify i f).map g = (l.map g).set i c := by
  rw [List.modify_eq_set, List.map_set, hf]

/-- A transition from a view bound with `b` to an unbound view leaves the target bound with `b`
and every other binding as it was, whether the swap could be queued or not. -/
theorem bindings_after_transitionTo (hv : w.bindings[v]? = some (some b))
    (hn : w.bindings[next]? = some none) :
    ((transitionTo v next).after w).bindings = w.bindings.set next (some b) := by
  obtain ⟨view, hv, hb⟩ := World.bindings_eq_some.mp hv
  obtain ⟨nv, hn, hnb⟩ := World.bindings_eq_some.mp hn
  have hbind : (w.views.modify next fun st => { st with binding := some b }).map ViewState.binding =
      w.bindings.set next (some b) := by
    apply map_modify_eq_set
    exact fun _ => rfl
  unfold Act.after
  cases hd : w.loopDropped with
  | false =>
    -- the swap is queued: `v` is retired as well, which leaves every binding alone
    obtain ⟨_, w', hw, hp⟩ := answers_transitionTo hv hb hn hnb hd
    have hviews : w'.views = (w.views.modify next fun st => { st with binding := some b }).modify v
        fun st => { st with slot := .retired } := congrArg World.views hp.eq
    rw [hw]
    show w'.views.map ViewState.binding = _
    rw [hviews, map_modify_of_comp, hbind]
    exact fun _ => rfl
  | true =>
    rw [transitionTo_of_dropped hv hb hn hnb hd]
    exact hbind

/-- Along a chain of transitions: the views reached so far are bound with `b`, and the views still
to be moved to are distinct and not bound. -/
structure World.Lineage (w : World) (b : Binding) (reached : List Nat) (ts : List (Nat × Nat)) : Prop where
  bound : ∀ u ∈ reached, w.bindings[u]? = some (some b)
  fresh : ∀ n ∈ ts.map Prod.snd, w.bindings[n]? = some none
  distinct : (ts.map Prod.snd).Nodup
  chained : Chained reached ts

/-- One transition of the chain: its target joins the views reached, bound with `b`. -/
theorem World.Lineage.step (h : w.Lineage b reached ((v, next) :: ts)) :
    ((transitionTo v next).after w).Lineage b (next :: reached) ts := by
  have hn : w.bindings[next]? = some none := h.fresh next List.mem_cons_self
  have hafter := bindings_after_transitionTo (h.bound v h.chained.1) hn
  obtain ⟨hnot, hnd⟩ := List.nodup_cons.mp h.distinct
  refine ⟨?_, ?_, hnd, h.chained.2⟩
  · intro u hu
    rw [hafter]
    cases List.mem_cons.mp hu with
    | inl hu =>
      subst hu
      exact List.getElem?_set_self (List.getElem?_eq_some_iff.mp hn).1
    | inr hu =>
      -- a view reached is bound, so it is not the unbound target
      have hne : next ≠ u := by
        rintro rfl
        rw [h.bound next hu] at hn
        cases hn
      rw [List.getElem?_set_ne hne]
      exact h.bound u hu
  · intro n hmem
    have hne : next ≠ n := fun he => hnot (he ▸ hmem)
    rw [hafter, List.getElem?_set_ne hne]
    exact h.fresh n (List.mem_cons_of_mem _ hmem)

/-- A whole chain of transitions leaves every view it reached bound with `b`. -/
theorem World.Lineage.afterTransitions (h : w.Lineage b reached ts) :
    ∀ u ∈ reached ++ ts.map Prod.snd, (w.afterTransitions ts).bindings[u]? = some (some b) := by
  induction ts generalizing w reached with
  | nil => simpa using h.bound
  | cons t ts ih =>
    obtain ⟨v, next⟩ := t
    intro u hu
    refine ih h.step u ?_
    simp only [List.map_cons, List.mem_append, List.mem_cons] at hu ⊢
    rcases hu with hu | hu | hu
    · exact .inl (.inr hu)
    · exact .inl (.inl hu)
    · exact .inr hu

end Chains

/-! ## The contract of a transition -/

/-- **A transition hands its binding on.** Take a view `v` and a view `next`. If `v` is not bound,
or `next` already is, the transition is a broken precondition and nothing changes: no swap is
queued and no presenter slot is touched. Otherwise `next` is bound with `v`'s very binding, the
same application and the same transition service. While the loop is there exactly one swap is
queued, to `next`, and `v` is retired: its presenter is dropped, and so is any presenter handed
to it later, although the swap has not run. Once the loop is dropped the swap cannot be queued:
the call fails with the loop's fault, `next` stays bound and `v` keeps its presenter.

So along any chain of transitions that starts from a bound view, each from a view reached
before (retired or not) to a view not bound yet, every view reached is bound as the first
one was. -/
theorem transitions_hand_on_their_binding (w : World) :
    (∀ (v next : Nat) (view nv : ViewState), w.views[v]? = some view → w.views[next]? = some nv →
      (view.binding = none → transitionTo v next w = .error (viewViolation view "is not bound") w) ∧
      ∀ b, view.binding = some b →
        (nv.binding.isSome → transitionTo v next w = .error (viewViolation nv "is already bound") w) ∧
        (nv.binding = none → w.loopDropped = false →
          (transitionTo v next).Answers w fun _ w' =>
            { w with
              views := (w.views.modify next fun st => { st with binding := some b }).modify v
                fun st => { st with slot := .retired },
              loop := w.loop.post (.present next) }.Prunes w' ∧
            ∀ p, setPresenter v p w' = dropPresenter p w') ∧
        (nv.binding = none → w.loopDropped = true →
          transitionTo v next w = .error (.fault loopDroppedFault)
            { w with views := w.views.modify next fun st => { st with binding := some b } })) ∧
    ∀ (origin : Nat) (b : Binding) (ts : List (Nat × Nat)), w.bindings[origin]? = some (some b) →
      Chained [origin] ts → (ts.map Prod.snd).Nodup → (∀ n ∈ ts.map Prod.snd, w.bindings[n]? = some none) →
      ∀ u ∈ origin :: ts.map Prod.snd, (w.afterTransitions ts).bindings[u]? = some (some b) := by
  refine ⟨fun v next view nv hv hn => ⟨transitionTo_of_unbound hv, fun b hb => ⟨?_, ?_, ?_⟩⟩, ?_⟩
  · exact transitionTo_of_bound hv hb hn
  · intro hnb hlive
    refine (answers_transitionTo hv hb hn hnb hlive).mono fun _ w' hp => ⟨hp, ?_⟩
    exact setPresenter_after_transitionTo hv (ne_of_bound_unbound hv hb hn hnb) hp
  · intro hnb hd
    exact transitionTo_of_dropped hv hb hn hnb hd
  · intro origin b ts horigin hchain hnd hfresh
    have h : w.Lineage b [origin] ts := ⟨by simpa using horigin, hfresh, hnd, hchain⟩
    exact h.afterTransitions

/-- From a loading view bound to the recorder, a transition to a main menu and then one from the
retired loading view to a game view leave the game view bound as the loading view was. -/
theorem transitions_hand_on_their_binding_from_a_retired_view :
    let w : World := { World.fresh .topLeft none with
      views := [⟨1, .loading 0, some ⟨.recorder, 0⟩, .held (.named "loading"), none⟩,
        ⟨2, .mainMenu 0, none, .vacant, none⟩, ⟨3, .game 0 0, none, .vacant, none⟩] }
    w.bindings[0]? = some (some ⟨.recorder, 0⟩) ∧ Chained [0] [(0, 1), (0, 2)] ∧
      ([(0, 1), (0, 2)].map Prod.snd).Nodup ∧ (∀ n ∈ [(0, 1), (0, 2)].map Prod.snd, w.bindings[n]? = some none) ∧
      (w.afterTransitions [(0, 1), (0, 2)]).bindings[2]? = some (some ⟨.recorder, 0⟩) := by
  intro w
  have horigin : w.bindings[0]? = some (some ⟨.recorder, 0⟩) := rfl
  have hchain : Chained [0] [(0, 1), (0, 2)] := by simp [Chained]
  have hnd : ([(0, 1), (0, 2)].map Prod.snd).Nodup := by decide
  have hfresh : ∀ n ∈ [(0, 1), (0, 2)].map Prod.snd, w.bindings[n]? = some none := by
    simp [w, World.bindings]
  exact ⟨horigin, hchain, hnd, hfresh,
    (transitions_hand_on_their_binding w).2 0 _ _ horigin hchain hnd hfresh 2 (by simp)⟩

end Proscenium
