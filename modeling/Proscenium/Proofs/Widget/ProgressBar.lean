import Proscenium.Proofs.Host.Calls

/-!
# A progress bar draws its value at its last size

A progress bar keeps three things that must agree: its geometry, its value and its filled part.
Sizing it (at once) lays out a new geometry and redraws the value there; a value is clamped to
`0..=100` when it is given and applied only when the queue is drained, drawn then in the geometry
the bar has at that moment; a text touches neither.

`World.KeepsBar w b g` is the invariant: bar `b` is drawn in the geometry `g` (value within range,
filled part `g.bar value`), and every task queued is a change to some bar. Each call keeps it, with
`g` moved to the geometry of the new size after a resize (`World.KeepsBar.after_call`); a drain
keeps it because each step of a drain does (`Engine.drainLog_keeps`, said of any engine). So every
interleaving of calls keeps it (`World.KeepsBar.afterBarCalls`), and
`progress_bar_draws_its_value_at_its_last_size` states it of a new bar.

The queue is asked to hold only bar changes at the start: a drain runs whatever is queued, and
other work (presenting a view, say) may size the bar itself.
-/

namespace Proscenium

open Act

/-! ## Drains keep what each of their steps keeps -/

namespace Engine

variable {σ τ : Type} {e : Engine σ τ} {I : σ → Prop}

/-- An invariant kept by every step a drain can take holds of the world the drain leaves: running
the task taken off the front, taking a stop, and stopping the loop after an abort. -/
theorem drainLog_keeps
    (hrun : ∀ w t rest, I w → (e.loop w).queue = .run t :: rest →
      I (e.exec t (e.setLoop w { e.loop w with queue := rest })).1)
    (hstop : ∀ w rest, I w → (e.loop w).queue = .stop :: rest →
      I (e.setLoop w { e.loop w with queue := rest, stopped := true }))
    (habort : ∀ w, I w → I (e.modifyLoop w fun l => { l with stopped := true })) :
    ∀ fuel w n, I w → I (e.drainLog fuel w n).world := by
  intro fuel
  -- one step per unit of fuel, as the drain itself recurses
  induction fuel with
  | zero => intro w n hw; exact hw
  | succ fuel ih =>
    intro w n hw
    cases hs : (e.loop w).stopped
    case true => rw [drainLog_of_stopped hs]; exact hw
    case false =>
      rcases hq : (e.loop w).queue with _ | ⟨t | _, rest⟩
      · rw [drainLog_of_empty hs hq]; exact hw
      · -- the task taken off the front runs; it either lets the drain go on or aborts it
        have hw' := hrun w t rest hw hq
        rcases hx : e.exec t (e.setLoop w { e.loop w with queue := rest }) with ⟨w', _ | f⟩
        · rw [hx] at hw'
          rw [drainLog_of_run_ok hs hq hx, Drained.world_cons]
          exact ih w' (n + 1) hw'
        · rw [hx] at hw'
          rw [drainLog_of_run_abort hs hq hx]
          exact habort w' hw'
      · rw [drainLog_of_stop hs hq]
        exact hstop w rest hw hq

end Engine

/-! ## Bars drawn in a geometry -/

/-- A queued change to a progress bar: a value within `0..=100`, or a text. -/
inductive SceneTask.OfBar : SceneTask → Prop
  | value (bar : Nat) {v : Int} (h₀ : 0 ≤ v) (h₁ : v ≤ 100) : SceneTask.OfBar (.barValue bar v)
  | text (bar : Nat) (s : String) : SceneTask.OfBar (.barText bar s)

/-- A bar drawn in the geometry `g`: its value within `0..=100`, and its filled part the
geometry's bar at that value. -/
structure ProgressState.Draws (st : ProgressState) (g : BarGeometry) : Prop where
  geometry : st.geometry = g
  value_nonneg : 0 ≤ st.value
  value_le : st.value ≤ 100
  bar : st.bar = g.bar st.value

namespace ProgressState.Draws

variable {st : ProgressState} {g : BarGeometry}

/-- A value within `0..=100`, with its bar drawn in the bar's own geometry. -/
theorem setValue (h : st.Draws g) {v : Int} (h₀ : 0 ≤ v) (h₁ : v ≤ 100) :
    { st with value := v, bar := st.geometry.bar v }.Draws g :=
  ⟨h.geometry, h₀, h₁, by rw [h.geometry]⟩

theorem setText (h : st.Draws g) (s : String) : { st with text := s }.Draws g :=
  ⟨h.geometry, h.value_nonneg, h.value_le, h.bar⟩

/-- A new size redraws the value in the geometry laid out for it. -/
theorem setSize (h : st.Draws g) (size : Size) :
    { st with
      geometry := BarGeometry.forSize size
      bar := (BarGeometry.forSize size).bar st.value }.Draws (BarGeometry.forSize size) :=
  ⟨rfl, h.value_nonneg, h.value_le, rfl⟩

end ProgressState.Draws

/-- Bar `b` of a list of bars is there and drawn in `g`. -/
def BarDrawn (bars : List ProgressState) (b : Nat) (g : BarGeometry) : Prop :=
  ∃ st, bars[b]? = some st ∧ st.Draws g

/-- Changing any bar by a change that keeps every bar drawn in `g` keeps bar `b` drawn in `g`. -/
theorem BarDrawn.modify {bars : List ProgressState} {b : Nat} {g : BarGeometry}
    (h : BarDrawn bars b g) (i : Nat) {f : ProgressState → ProgressState}
    (hf : ∀ st, st.Draws g → (f st).Draws g) :
    BarDrawn (bars.modify i f) b g := by
  obtain ⟨st, hst, hd⟩ := h
  by_cases hi : i = b
  · subst hi
    exact ⟨f st, getElem?_modify_of_getElem? hst f, hf st hd⟩
  · exact ⟨st, by rw [List.getElem?_modify_ne _ _ hi, hst], hd⟩

/-- The world keeps bar `b` drawn in `g`, and every task it has queued is a bar change. -/
structure World.KeepsBar (w : World) (b : Nat) (g : BarGeometry) : Prop where
  drawn : BarDrawn w.bars b g
  queue : ∀ t, Message.run t ∈ w.loop.queue → t.OfBar

namespace World.KeepsBar

variable {w : World} {b : Nat} {g : BarGeometry}

/-- Another loop whose tasks were all queued before keeps the bar. -/
theorem withLoop (h : w.KeepsBar b g) {l : TaskLoop SceneTask}
    (hl : ∀ t, Message.run t ∈ l.queue → Message.run t ∈ w.loop.queue) :
    { w with loop := l }.KeepsBar b g :=
  ⟨h.drawn, fun t ht => h.queue t (hl t ht)⟩

/-- Running a bar change keeps the bar: a value within range is drawn in the bar's own geometry,
and a text touches nothing drawn. -/
theorem runTask (h : w.KeepsBar b g) {t : SceneTask} (ht : t.OfBar) :
    ∃ w', Proscenium.runTask t w = .ok () w' ∧ w'.KeepsBar b g := by
  cases ht with
  | value bar h₀ h₁ =>
    exact ⟨_, rfl, ⟨h.drawn.modify bar fun st hd => hd.setValue h₀ h₁, h.queue⟩⟩
  | text bar s =>
    exact ⟨_, rfl, ⟨h.drawn.modify bar fun st hd => hd.setText s, h.queue⟩⟩

/-- Every step a drain takes keeps the bar. -/
theorem drainLog (h : w.KeepsBar b g) (fuel n : Nat) :
    (sceneEngine.drainLog fuel w n).world.KeepsBar b g := by
  refine Engine.drainLog_keeps (I := fun w => w.KeepsBar b g) ?_ ?_ ?_ fuel w n h
  · intro u t rest hu hq
    rw [sceneEngine_loop] at hq
    -- the task taken off the front is a bar change, run on the rest of the queue
    have hrest : { u with loop := { u.loop with queue := rest } }.KeepsBar b g :=
      hu.withLoop fun t' ht' => by rw [hq]; exact List.mem_cons_of_mem _ ht'
    obtain ⟨u', hx, hu'⟩ := hrest.runTask (hu.queue t (by rw [hq]; exact List.mem_cons_self))
    simp only [sceneEngine, hx]
    exact hu'
  · intro u rest hu hq
    rw [sceneEngine_loop] at hq
    exact hu.withLoop fun t' ht' => by rw [hq]; exact List.mem_cons_of_mem _ ht'
  · intro u hu
    exact hu.withLoop fun t' ht' => ht'

/-- A drain keeps the bar, whether it runs, is refused, or stops on an abort. -/
theorem drain (h : w.KeepsBar b g) : (Proscenium.drain.after w).KeepsBar b g := by
  have hrun : (sceneEngine.runPending w).1.KeepsBar b g := by
    cases hd : w.loop.draining
    · -- between tasks: the logged drain, from the world marked as draining, then unmarked
      rw [sceneEngine.runPending_of_idle hd]
      have hlog := (h.withLoop (l := { w.loop with draining := true }) fun t ht => ht).drainLog
        (sceneEngine.budget w) 0
      exact hlog.withLoop fun t ht => ht
    · rw [Engine.runPending, sceneEngine.drain_of_draining _ hd]
      exact h
  unfold Act.after Proscenium.drain
  rcases hr : sceneEngine.runPending w with ⟨w', _ | n⟩ <;> rw [hr] at hrun <;> exact hrun

/-- Queuing a bar change keeps the bar; once the loop is dropped, queuing changes nothing. -/
theorem post (h : w.KeepsBar b g) {t : SceneTask} (ht : t.OfBar) :
    ((post t).after w).KeepsBar b g := by
  unfold Act.after
  cases hdrop : w.loopDropped
  · rw [post_apply hdrop]
    refine ⟨h.drawn, fun t' ht' => ?_⟩
    rcases List.mem_append.mp ht' with ht' | ht'
    · exact h.queue t' ht'
    · cases List.mem_singleton.mp ht'
      exact ht
  · rw [post_of_dropped hdrop]
    exact h

/-- Sizing the bar lays out its geometry for the size and redraws its value there. -/
theorem setSize (h : w.KeepsBar b g) (size : Size) :
    ((barSetSize b size).after w).KeepsBar b (BarGeometry.forSize size) := by
  obtain ⟨st, hst, hd⟩ := h.drawn
  have happly : barSetSize b size w = .ok ()
      { w with
        nodes := w.nodes.modify st.node fun n => { n with size := size }
        bars := w.bars.modify b fun st =>
          { st with
            geometry := BarGeometry.forSize size
            bar := (BarGeometry.forSize size).bar st.value } } := by
    simp only [barSetSize, bind_apply, barAt_apply, hst, modifyNode_apply, modifyBar_apply]
  unfold Act.after
  rw [happly]
  exact ⟨⟨_, getElem?_modify_of_getElem? hst _, hd.setSize size⟩, h.queue⟩

end World.KeepsBar

/-! ## Any interleaving of calls -/

/-- What a bar's owner does on the loop's thread: size it (at once), give it a value or a text
(both queued), or run the queued work. -/
inductive BarCall where
  | setSize (size : Size)
  | setValue (value : Int)
  | setText (text : String)
  | runPending

namespace BarCall

/-- What a call does to bar `bar`. -/
def act (bar : Nat) : BarCall → Act Unit
  | .setSize size => barSetSize bar size
  | .setValue value => barSetValue bar value
  | .setText text => barSetText bar text
  | .runPending => do let _ ← drain

/-- The size a call gives, if it sizes the bar. -/
def size? : BarCall → Option Size
  | .setSize size => some size
  | _ => none

end BarCall

/-- The world after the calls to bar `bar`, each made on the world the one before left, whether
it answered or failed. -/
def World.afterBarCalls (w : World) (bar : Nat) (calls : List BarCall) : World :=
  calls.foldl (fun w c => (c.act bar).after w) w

/-- The geometry of a bar last sized to `size`; a bar never sized has the empty geometry. -/
def barGeometry (size : Option Size) : BarGeometry :=
  (size.map BarGeometry.forSize).getD BarGeometry.empty

/-- Dropping an action's answer leaves the world it leaves. -/
theorem after_bind_discard {α : Type} (x : Act α) (w : World) :
    (do let _ ← x : Act Unit).after w = x.after w := by
  unfold Act.after
  rw [bind_apply]
  cases x w <;> rfl

namespace World.KeepsBar

variable {w : World} {b : Nat}

/-- **One call.** Each call keeps the bar drawn, in the geometry of the last size given. -/
theorem after_call {last : Option Size} (h : w.KeepsBar b (barGeometry last)) (c : BarCall) :
    ((c.act b).after w).KeepsBar b (barGeometry (c.size?.or last)) := by
  cases c with
  | setSize size => exact h.setSize size
  | setValue value =>
    -- the value is clamped before it is queued
    exact h.post (.value b (by omega) (by omega))
  | setText text => exact h.post (.text b text)
  | runPending =>
    show ((do let _ ← Proscenium.drain : Act Unit).after w).KeepsBar b _
    rw [after_bind_discard]
    exact h.drain

/-- **Any run of calls.** -/
theorem afterBarCalls {last : Option Size} (h : w.KeepsBar b (barGeometry last))
    (calls : List BarCall) :
    (w.afterBarCalls b calls).KeepsBar b
      (barGeometry ((calls.filterMap BarCall.size?).getLast?.or last)) := by
  induction calls generalizing w last with
  | nil => exact h
  | cons c calls ih =>
    rw [getLast?_filterMap_cons_or]
    exact ih (h.after_call c)

end World.KeepsBar

/-- A new bar is drawn in the empty geometry: value 0, and an empty bar. -/
theorem addBar_keepsBar {w : World} (name : String)
    (hq : ∀ t, Message.run t ∈ w.loop.queue → t.OfBar) :
    ((addBar name).after w).KeepsBar w.bars.length (barGeometry none) := by
  unfold Act.after
  rw [addBar_apply]
  refine ⟨⟨⟨w.nodes.length, BarGeometry.empty, 0, ⟨Point.zero, ⟨0, 0⟩⟩, ""⟩, by simp, rfl,
    show (0 : Int) ≤ 0 by decide, show (0 : Int) ≤ 100 by decide, ?_⟩, hq⟩
  -- the bar a new bar starts with is the empty geometry's bar at 0, bit for bit
  show (⟨Point.zero, ⟨0, 0⟩⟩ : Rect) = BarGeometry.empty.bar 0
  rfl

/-- **A progress bar draws its value at its last size.** Add a bar to a world whose queue holds
only bar changes, then make any calls on it: sizes, values, texts and drains, in any order, each
on the world the one before left. Afterwards the bar's value is within `0..=100`, its geometry is
the one laid out for the last size given (the empty geometry before any), and its filled part is
that geometry's bar at its value. So a resize redraws the current value, and a queued value is
drawn in the geometry current when it is applied. -/
theorem progress_bar_draws_its_value_at_its_last_size (w : World) (name : String)
    (hq : ∀ t, Message.run t ∈ w.loop.queue → t.OfBar) :
    ∃ b w₀, addBar name w = .ok b w₀ ∧ ∀ calls : List BarCall, ∃ st,
      (w₀.afterBarCalls b calls).bars[b]? = some st ∧
      st.geometry = barGeometry (calls.filterMap BarCall.size?).getLast? ∧
      0 ≤ st.value ∧ st.value ≤ 100 ∧ st.bar = st.geometry.bar st.value := by
  refine ⟨_, _, addBar_apply name w, fun calls => ?_⟩
  have hkeep := (addBar_keepsBar name hq).afterBarCalls calls
  rw [Option.or_none] at hkeep
  obtain ⟨st, hst, hd⟩ := hkeep.drawn
  exact ⟨st, hst, hd.geometry, hd.value_nonneg, hd.value_le, by rw [hd.bar, hd.geometry]⟩

/-- In a fresh scene nothing is queued, so a new bar there draws its value at its last size. -/
theorem progress_bar_in_a_fresh_scene_draws_its_value :
    ∃ b w₀, addBar "progress" (World.fresh .topLeft none) = .ok b w₀ ∧
      ∀ calls : List BarCall, ∃ st,
      (w₀.afterBarCalls b calls).bars[b]? = some st ∧
      st.geometry = barGeometry (calls.filterMap BarCall.size?).getLast? ∧
      0 ≤ st.value ∧ st.value ≤ 100 ∧ st.bar = st.geometry.bar st.value :=
  progress_bar_draws_its_value_at_its_last_size (World.fresh .topLeft none) "progress"
    (fun t ht => by simp [World.fresh, TaskLoop.fresh] at ht)

end Proscenium
