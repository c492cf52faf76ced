import Proscenium.Proofs.Host.Delivery

/-!
# Gestures

Routing a pointer event the scene takes updates the capture first (a *down* captures what it
hits, a *move* keeps the capture, an *up* or a *cancel* ends it) and then carries out what the
event delivers to its target, read off the world as it arrives (`routePointer_eq_deliveries`).
No handler touches the host, so the capture stays as the event left it
(`captured_after_routePointer`), and routing only ever adds interactions and nodes
(`World.Extends`).

* A gesture, a *down* followed by *moves* and an *up* or a *cancel*, stays with what its *down*
  hit wherever the pointer goes, and leaves no capture behind (`Gesture.aimed_at_down`).
* A node keeps handing its input to the same interaction (`deliveries_along_pointerRun`), whose
  own calls over a gesture are a drag start, a move for each move and an end, and a click if and
  only if the gesture ends in an *up* (`Gesture.own_calls`).
* `pointer_events_follow_the_capture` gathers these with dropped events and view swaps.
-/

namespace Proscenium

open Act

/-! ## Routing one event -/

namespace World

/-- A platform event in window and scene space. -/
def pointerInput (w : World) (raw : RawPointer) : PointerInput :=
  .ofRaw raw w.origin (w.pointerHeight.getD 0)

/-- The node an event is aimed at: what a *down* hits, otherwise the captured node, wherever
the pointer is. -/
def pointerTarget (w : World) (raw : RawPointer) : Option Nat :=
  match raw.phase with
  | .down => w.hitAt (w.pointerInput raw).scene
  | _ => w.host.captured

/-- The capture after an event: a *down* captures what it hits, possibly nothing; a *move*
keeps the capture; an *up* or a *cancel* ends it. -/
def captureAfter (w : World) (raw : RawPointer) : Option Nat :=
  match raw.phase with
  | .down => w.hitAt (w.pointerInput raw).scene
  | .move => w.host.captured
  | .up | .cancel => none

/-- The world with capture `c`. -/
def withCapture (w : World) (c : Option Nat) : World :=
  { w with host := { w.host with captured := c } }

@[simp] theorem withCapture_captured (w : World) : w.withCapture w.host.captured = w := rfl

theorem inputDeliveries_withCapture (w : World) (c : Option Nat) :
    (w.withCapture c).inputDeliveries = w.inputDeliveries :=
  inputDeliveries_congr rfl rfl

end World

/-- Routing an event the scene takes: the capture is updated first, and then the target, if
there is one, handles the event; the answer is whether there was a target. -/
theorem routePointer_eq (raw : RawPointer) (w : World) {height : Float}
    (hh : w.pointerHeight = some height) :
    routePointer raw w =
      ((w.pointerTarget raw).elim (pure false) fun n => do handleInput n (w.pointerInput raw); pure true :
        Act Bool) (w.withCapture (w.captureAfter raw)) := by
  have hin : w.pointerInput raw = .ofRaw raw w.origin height := by
    rw [World.pointerInput, hh]
    rfl
  unfold routePointer
  rw [bind_apply_ok (get_apply w), hh]
  dsimp only
  rw [← hin]
  cases hp : raw.phase
  · -- a down captures what it hits
    simp only [bind_apply, pure_apply, modifyHost_apply, World.pointerTarget, World.captureAfter, hp]
    cases w.hitAt (w.pointerInput raw).scene <;> rfl
  · -- a move leaves the capture as it is
    simp only [bind_apply, pure_apply, World.pointerTarget, World.captureAfter,
      World.withCapture_captured, hp]
    cases w.host.captured <;> rfl
  -- an up or a cancel ends the capture
  all_goals
    simp only [bind_apply, pure_apply, modifyHost_apply, World.pointerTarget, World.captureAfter, hp]
    cases w.host.captured <;> rfl

/-- With a bottom-left origin and no window size yet, an event is dropped and nothing
changes. -/
theorem routePointer_dropped (raw : RawPointer) (w : World) (hh : w.pointerHeight = none) :
    routePointer raw w = .ok false w := by
  unfold routePointer
  rw [bind_apply_ok (get_apply w), hh]
  rfl

/-! ## What one event does -/

namespace World

/-- What routing `raw` delivers, read off `w` as the event arrives: nothing without a target,
otherwise what the target delivers. -/
def pointerDeliveries (w : World) (raw : RawPointer) : Except Failure (List Delivery) :=
  match w.pointerTarget raw with
  | none => .ok []
  | some n => w.inputDeliveries n (w.pointerInput raw)

theorem pointerHeight_eq_none_iff (w : World) :
    w.pointerHeight = none ↔ w.origin = .bottomLeft ∧ w.host.size = none := by
  unfold pointerHeight
  cases w.origin <;> cases w.host.size <;> simp

theorem exists_pointerHeight {w : World} (hw : ¬(w.origin = .bottomLeft ∧ w.host.size = none)) :
    ∃ height, w.pointerHeight = some height :=
  Option.ne_none_iff_exists'.mp (mt w.pointerHeight_eq_none_iff.mp hw)

end World

section Event

variable (raw : RawPointer) (w : World) {height : Float}

/-- Routing an event the scene takes: the capture is updated, then what the event delivers is
carried out in order, or the routing aborts; the answer is whether the event had a target. -/
theorem routePointer_eq_deliveries (hh : w.pointerHeight = some height) :
    routePointer raw w =
      (match w.pointerDeliveries raw with
        | .ok ds => do ds.forM Delivery.perform; pure (w.pointerTarget raw).isSome
        | .error f => throw f)
      (w.withCapture (w.captureAfter raw)) := by
  rw [routePointer_eq raw w hh]
  unfold World.pointerDeliveries
  cases w.pointerTarget raw with
  | none => rfl
  | some n =>
    dsimp only [Option.elim_some]
    rw [bind_apply, handleInput_eq, World.inputDeliveries_withCapture]
    cases w.inputDeliveries n (w.pointerInput raw) with
    | ok ds =>
      dsimp only
      rw [bind_apply]
      rfl
    | error f => rfl

/-- The handlers the target's interaction calls leave the host alone: routing leaves a frame of
the world with the capture updated. -/
theorem frame_routePointer (hh : w.pointerHeight = some height) :
    (w.withCapture (w.captureAfter raw)).Frame ((routePointer raw).after w) := by
  unfold after
  rw [routePointer_eq raw w hh]
  cases w.pointerTarget raw with
  | none => exact World.Frame.refl _
  | some n => exact ((keeps_handleInput n _).bind fun _ => keeps_pure _) _

/-- After an event, however it ends, the capture is what the event's phase makes it. -/
theorem captured_after_routePointer (hh : w.pointerHeight = some height) :
    ((routePointer raw).after w).host.captured = w.captureAfter raw := by
  rw [(frame_routePointer raw w hh).host]
  rfl

/-- The answer is whether the event had a target. -/
theorem routePointer_answer (hh : w.pointerHeight = some height) {b : Bool} {w' : World}
    (h : routePointer raw w = .ok b w') : b = (w.pointerTarget raw).isSome := by
  rw [routePointer_eq_deliveries raw w hh] at h
  cases hd : w.pointerDeliveries raw with
  | error f =>
    rw [hd] at h
    cases h
  | ok ds =>
    rw [hd] at h
    dsimp only at h
    -- the deliveries ran to the end, and the answer comes after them
    rw [bind_apply] at h
    split at h
    · cases h
      rfl
    · cases h

/-- A target whose node takes no input swallows the event: the answer is `true` and nothing is
delivered. -/
theorem routePointer_swallowed (hh : w.pointerHeight = some height) {n : Nat}
    (ht : w.pointerTarget raw = some n) (hn : (w.nodes[n]?).map NodeState.target = some none) :
    routePointer raw w = .ok true (w.withCapture (w.captureAfter raw)) := by
  obtain ⟨node, hnode, hnt⟩ := Option.map_eq_some_iff.mp hn
  have hd : w.pointerDeliveries raw = .ok [] := by
    simp only [World.pointerDeliveries, ht, World.inputDeliveries, hnode, hnt]
  rw [routePointer_eq_deliveries raw w hh, hd, ht]
  rfl

/-- A swap that completes leaves no capture: laying the new view out leaves the host alone. -/
theorem presentView_clears_capture {v : Nat} {w' : World} (h : presentView v w = .ok () w') :
    w'.host.captured = none := by
  unfold presentView at h
  -- past detaching the old view, looking the new one up and attaching it, the host is updated
  obtain ⟨_, w₁, -, h⟩ := bind_apply_eq_ok h
  obtain ⟨view, w₂, -, h⟩ := bind_apply_eq_ok h
  obtain ⟨_, w₃, -, h⟩ := bind_apply_eq_ok h
  obtain ⟨_, w₄, h₄, h⟩ := bind_apply_eq_ok h
  rw [modifyHost_apply] at h₄
  cases h₄
  -- what is left lays the view out, which leaves the host alone
  have hframe := Act.Keeps.frame_of_ok (keeps_get.bind fun w => ?_) h
  · rw [hframe.host]
  · split
    · exact (keeps_layoutView v _).ignoreFaults
    · exact keeps_pure _

end Event

/-! ## Runs of events -/

namespace World

/-- `w'` takes events the way `w` does and keeps its interactions and what its nodes hand
their input to: the native origin and the window size are the same, and interactions and nodes
were only added. -/
structure Extends (w w' : World) : Prop where
  origin : w'.origin = w.origin
  size : w'.host.size = w.host.size
  interactions : w.interactions <+: w'.interactions
  targets : w.nodes.map NodeState.target <+: w'.nodes.map NodeState.target

namespace Extends

variable {w w' w'' : World}

theorem refl (w : World) : Extends w w :=
  ⟨rfl, rfl, List.prefix_refl _, List.prefix_refl _⟩

theorem trans (h₁ : Extends w w') (h₂ : Extends w' w'') : Extends w w'' :=
  ⟨h₂.origin.trans h₁.origin, h₂.size.trans h₁.size, h₁.interactions.trans h₂.interactions,
    h₁.targets.trans h₂.targets⟩

theorem of_frame (h : Frame w w') : Extends w w' :=
  ⟨h.origin, by rw [h.host], h.interactions, h.targets⟩

theorem withCapture (w : World) (c : Option Nat) : Extends w (w.withCapture c) :=
  ⟨rfl, rfl, List.prefix_refl _, List.prefix_refl _⟩

theorem pointerHeight_eq (h : Extends w w') : w'.pointerHeight = w.pointerHeight := by
  unfold World.pointerHeight
  rw [h.origin, h.size]

theorem interaction {i : Nat} {it : Interaction} (h : Extends w w')
    (hi : w.interactions[i]? = some it) : w'.interactions[i]? = some it :=
  getElem?_of_prefix h.interactions hi

theorem target {n : Nat} {t : Option Nat} (h : Extends w w')
    (hn : (w.nodes[n]?).map NodeState.target = some t) :
    (w'.nodes[n]?).map NodeState.target = some t := by
  rw [← List.getElem?_map] at hn ⊢
  exact getElem?_of_prefix h.targets hn

end Extends

/-- Events routed one after another from `w`, each with the world it arrives at: each is routed
from the world the one before leaves, whether that one answered or aborted. -/
def pointerRun (w : World) : List RawPointer → List (World × RawPointer)
  | [] => []
  | raw :: rest => (w, raw) :: ((routePointer raw).after w).pointerRun rest

/-- The world a run of events leaves. -/
def afterPointers (w : World) : List RawPointer → World
  | [] => w
  | raw :: rest => ((routePointer raw).after w).afterPointers rest

theorem pointerRun_append (w : World) (l₁ l₂ : List RawPointer) :
    w.pointerRun (l₁ ++ l₂) = w.pointerRun l₁ ++ (w.afterPointers l₁).pointerRun l₂ := by
  induction l₁ generalizing w with
  | nil => rfl
  | cons raw rest ih => simp only [List.cons_append, pointerRun, afterPointers, ih]

theorem afterPointers_append (w : World) (l₁ l₂ : List RawPointer) :
    w.afterPointers (l₁ ++ l₂) = (w.afterPointers l₁).afterPointers l₂ := by
  induction l₁ generalizing w with
  | nil => rfl
  | cons raw rest ih => simp only [List.cons_append, afterPointers, ih]

theorem map_snd_pointerRun (w : World) (l : List RawPointer) : (w.pointerRun l).map Prod.snd = l := by
  induction l generalizing w with
  | nil => rfl
  | cons raw rest ih => simp only [pointerRun, List.map_cons, ih]

/-- Routing an event keeps what routing never changes. -/
theorem extends_routePointer (raw : RawPointer) (w : World) :
    w.Extends ((routePointer raw).after w) := by
  cases hh : w.pointerHeight with
  | none =>
    unfold after
    rw [routePointer_dropped raw w hh]
    exact .refl w
  | some height => exact (Extends.withCapture w _).trans (.of_frame (frame_routePointer raw w hh))

theorem extends_afterPointers (w : World) (l : List RawPointer) : w.Extends (w.afterPointers l) := by
  induction l generalizing w with
  | nil => exact .refl w
  | cons raw rest ih => exact (extends_routePointer raw w).trans (ih _)

theorem extends_of_mem_pointerRun {w : World} {l : List RawPointer} {p : World × RawPointer}
    (hp : p ∈ w.pointerRun l) : w.Extends p.1 := by
  induction l generalizing w with
  | nil => cases hp
  | cons raw rest ih =>
    rcases List.mem_cons.mp hp with rfl | hp
    · exact .refl w
    · exact (extends_routePointer raw w).trans (ih hp)

end World

/-- Every event of a run reaching a node that handed its input to interaction `i` when the run
began still reaches `i`, which gets what its sink chain does and then its own calls. -/
theorem deliveries_along_pointerRun {w : World} {n i : Nat} {it : Interaction}
    (hn : (w.nodes[n]?).map NodeState.target = some (some i)) (hi : w.interactions[i]? = some it)
    (l : List RawPointer) :
    ∀ p ∈ w.pointerRun l, ∃ forwarded : Except Failure (List Delivery),
      p.1.inputDeliveries n (p.1.pointerInput p.2) =
        forwarded.map (· ++ it.own i (p.1.pointerInput p.2) (p.1.sceneOrigin n)) ∧
      ∀ ds, forwarded = .ok ds → ∀ d ∈ ds, d.Within p.1 (p.1.sinkChain p.1.interactions.length i).tail :=
  fun _ hp =>
    have he := World.extends_of_mem_pointerRun hp
    World.inputDeliveries_of_target (he.target hn) (he.interaction hi) _

/-- Moves keep the capture: each is aimed at the captured node, whatever its handlers do. -/
theorem moves_keep_capture {moves : List RawPointer} (hm : ∀ m ∈ moves, m.phase = .move) :
    ∀ {w : World} {height : Float}, w.pointerHeight = some height →
      (∀ p ∈ w.pointerRun moves, p.1.pointerTarget p.2 = w.host.captured) ∧
      (w.afterPointers moves).host.captured = w.host.captured := by
  induction moves with
  | nil => exact fun _ => ⟨fun _ hp => (by cases hp), rfl⟩
  | cons m rest ih =>
    intro w height hh
    have hmove := hm m List.mem_cons_self
    -- the world the move leaves has the same capture and takes events the same way
    have hc : ((routePointer m).after w).host.captured = w.host.captured := by
      rw [captured_after_routePointer m w hh]
      simp only [World.captureAfter, hmove]
    have hh₁ : ((routePointer m).after w).pointerHeight = some height := by
      rw [(World.extends_routePointer m w).pointerHeight_eq, hh]
    obtain ⟨hrun, hafter⟩ := ih (fun m' hm' => hm m' (List.mem_cons_of_mem _ hm')) hh₁
    refine ⟨fun p hp => ?_, by rw [World.afterPointers, hafter, hc]⟩
    rcases List.mem_cons.mp hp with rfl | hp
    · simp only [World.pointerTarget, hmove]
    · rw [hrun p hp, hc]

/-! ## Gestures -/

/-- A gesture: a *down*, some *moves*, and an *up* or a *cancel*. -/
structure Gesture where
  down : RawPointer
  moves : List RawPointer
  last : RawPointer
  down_phase : down.phase = .down
  moves_phase : ∀ m ∈ moves, m.phase = .move
  last_phase : last.phase = .up ∨ last.phase = .cancel

/-- The stage of a drag a pointer phase stands for. -/
def PointerPhase.dragStage : PointerPhase → DragStage
  | .down => .start
  | .move => .move
  | .up | .cancel => .finish

namespace Delivery

/-- The stage a delivery tells a drag handler, if it is a drag. -/
def dragStage : Delivery → Option DragStage
  | .call _ _ (.drag stage _) => some stage
  | _ => none

/-- Whether a delivery is a click. -/
def isClick : Delivery → Bool
  | .call _ _ .click => true
  | _ => false

end Delivery

/-- The calls interaction `i`'s own handlers get, at node `n`, over a run of events. -/
def ownCalls (it : Interaction) (i n : Nat) : List (World × RawPointer) → List Delivery
  | [] => []
  | p :: ps => it.own i (p.1.pointerInput p.2) (p.1.sceneOrigin n) ++ ownCalls it i n ps

section OwnCalls

variable (it : Interaction) (i n : Nat)

theorem Interaction.own_dragStages (input : PointerInput) (origin : Point) :
    (it.own i input origin).filterMap Delivery.dragStage = [input.phase.dragStage] := by
  unfold Interaction.own
  cases input.phase <;> rfl

theorem Interaction.own_clicks (input : PointerInput) (origin : Point) :
    (it.own i input origin).countP Delivery.isClick = if input.phase = .up then 1 else 0 := by
  unfold Interaction.own
  cases input.phase <;> rfl

/-- Over a run, the own drag calls follow the events' phases. -/
theorem dragStages_ownCalls (ps : List (World × RawPointer)) :
    (ownCalls it i n ps).filterMap Delivery.dragStage = ps.map (·.2.phase.dragStage) := by
  induction ps with
  | nil => rfl
  | cons p ps ih =>
    rw [ownCalls, List.filterMap_append, Interaction.own_dragStages, ih]
    rfl

/-- Over a run, there is one own click for each *up*. -/
theorem clicks_ownCalls (ps : List (World × RawPointer)) :
    (ownCalls it i n ps).countP Delivery.isClick = ps.countP (·.2.phase = .up) := by
  induction ps with
  | nil => rfl
  | cons p ps ih =>
    rw [ownCalls, List.countP_append, Interaction.own_clicks, ih, List.countP_cons, Nat.add_comm]
    simp only [decide_eq_true_eq]
    rfl

end OwnCalls

namespace Gesture

variable (g : Gesture)

/-- The gesture's events in order. -/
def events : List RawPointer := g.down :: g.moves ++ [g.last]

theorem pointerRun_events (w : World) :
    w.pointerRun g.events = (w, g.down) :: (((routePointer g.down).after w).pointerRun g.moves ++
      [(((routePointer g.down).after w).afterPointers g.moves, g.last)]) := by
  rw [events, World.pointerRun_append]
  rfl

theorem afterPointers_events (w : World) :
    w.afterPointers g.events =
      (routePointer g.last).after (((routePointer g.down).after w).afterPointers g.moves) := by
  rw [events, World.afterPointers_append]
  rfl

/-- A gesture stays with what its *down* hit, wherever the pointer goes and whatever the
handlers do, and leaves no capture behind. -/
theorem aimed_at_down {w : World} {height : Float} (hh : w.pointerHeight = some height) :
    (∀ p ∈ w.pointerRun g.events, p.1.pointerTarget p.2 = w.pointerTarget g.down) ∧
    (w.afterPointers g.events).host.captured = none := by
  -- the down captures what it hits
  have hc₁ : ((routePointer g.down).after w).host.captured = w.pointerTarget g.down := by
    rw [captured_after_routePointer g.down w hh]
    simp only [World.captureAfter, World.pointerTarget, g.down_phase]
  have hh₁ : ((routePointer g.down).after w).pointerHeight = some height := by
    rw [(World.extends_routePointer g.down w).pointerHeight_eq, hh]
  -- the moves keep it
  obtain ⟨hmoves, hafter⟩ := moves_keep_capture g.moves_phase hh₁
  have hh₂ := (World.extends_afterPointers _ g.moves).pointerHeight_eq.trans hh₁
  -- the last event is aimed at it too, and ends it
  have hlast : (((routePointer g.down).after w).afterPointers g.moves).pointerTarget g.last =
      w.pointerTarget g.down := by
    rcases g.last_phase with h | h <;> simp only [World.pointerTarget, h, hafter, hc₁]
  refine ⟨fun p hp => ?_, ?_⟩
  · rw [pointerRun_events] at hp
    rcases List.mem_cons.mp hp with rfl | hp
    · rfl
    rcases List.mem_append.mp hp with hp | hp
    · rw [hmoves p hp, hc₁]
    · rw [List.mem_singleton.mp hp]
      exact hlast
  · rw [afterPointers_events, captured_after_routePointer _ _ hh₂]
    rcases g.last_phase with h | h <;> simp only [World.captureAfter, h]

/-- Over a gesture, an interaction's own drag calls are a start, a move for each move and an
end, and there is one click if the gesture ends in an *up* and none if it is cancelled. -/
theorem own_calls (w : World) (it : Interaction) (i n : Nat) :
    (ownCalls it i n (w.pointerRun g.events)).filterMap Delivery.dragStage =
      .start :: List.replicate g.moves.length .move ++ [.finish] ∧
    (ownCalls it i n (w.pointerRun g.events)).countP Delivery.isClick =
      if g.last.phase = .up then 1 else 0 := by
  have hsnd := World.map_snd_pointerRun w g.events
  constructor
  · have hmap : (w.pointerRun g.events).map (·.2.phase.dragStage) =
        ((w.pointerRun g.events).map Prod.snd).map (·.phase.dragStage) := by
      rw [List.map_map]
      rfl
    have hmoves : g.moves.map (·.phase.dragStage) = List.replicate g.moves.length .move :=
      List.map_eq_replicate_iff.mpr fun m hm => by rw [g.moves_phase m hm]; rfl
    rw [dragStages_ownCalls, hmap, hsnd, events, List.map_append, List.map_cons, hmoves,
      g.down_phase]
    rcases g.last_phase with h | h <;> simp only [h, List.map_cons, List.map_nil] <;> rfl
  · have hcount : (w.pointerRun g.events).countP (·.2.phase = .up) =
        ((w.pointerRun g.events).map Prod.snd).countP (·.phase = .up) := by
      rw [List.countP_map]
      rfl
    have hmoves : g.moves.countP (·.phase = .up) = 0 :=
      List.countP_eq_zero.mpr fun m hm => by simp [g.moves_phase m hm]
    rw [clicks_ownCalls, hcount, hsnd, events, List.countP_append, List.countP_cons, hmoves,
      g.down_phase]
    rcases g.last_phase with h | h <;> simp [h]

end Gesture

/-! ## Routing pointer events -/

/-- How a scene routes pointer events, whatever came before and whatever the handlers do.

* An event arriving with a bottom-left origin before the window size is known is dropped: the
  answer is `false` and nothing changes, the capture included.
* Otherwise the capture is updated first (a *down* captures what it hits, possibly nothing; a
  *move* keeps it; an *up* or a *cancel* ends it), and then what the event delivers to its target
  (what a *down* hits, otherwise the captured node wherever the pointer is) is carried out in
  order. However that ends, the capture stays as the event left it, and the answer is whether
  there was a target, also when the target takes no input and swallows the event.
* A swap of the hosted view leaves no capture.
* So a gesture stays with what its *down* hit and ends with no capture. A node that hands its
  input to an interaction keeps doing so; each event gives the interaction what its sink chain
  does and then its own calls, and over the gesture these are a drag start, a move for each move
  and an end, and a click if and only if the gesture ends in an *up*. -/
theorem pointer_events_follow_the_capture :
    (∀ (raw : RawPointer) (w : World), w.origin = .bottomLeft → w.host.size = none →
      routePointer raw w = .ok false w) ∧
    (∀ (raw : RawPointer) (w : World), ¬(w.origin = .bottomLeft ∧ w.host.size = none) →
      routePointer raw w =
        (match w.pointerDeliveries raw with
          | .ok ds => do ds.forM Delivery.perform; pure (w.pointerTarget raw).isSome
          | .error f => throw f)
        (w.withCapture (w.captureAfter raw)) ∧
      ((routePointer raw).after w).host.captured = w.captureAfter raw ∧
      (∀ b w', routePointer raw w = .ok b w' → b = (w.pointerTarget raw).isSome) ∧
      (∀ n, w.pointerTarget raw = some n → (w.nodes[n]?).map NodeState.target = some none →
        routePointer raw w = .ok true (w.withCapture (w.captureAfter raw)))) ∧
    (∀ (v : Nat) (w w' : World), presentView v w = .ok () w' → w'.host.captured = none) ∧
    (∀ (g : Gesture) (w : World), ¬(w.origin = .bottomLeft ∧ w.host.size = none) →
      (∀ p ∈ w.pointerRun g.events, p.1.pointerTarget p.2 = w.pointerTarget g.down) ∧
      (w.afterPointers g.events).host.captured = none ∧
      ∀ n i it, (w.nodes[n]?).map NodeState.target = some (some i) →
        w.interactions[i]? = some it →
        (∀ p ∈ w.pointerRun g.events, ∃ forwarded : Except Failure (List Delivery),
          p.1.inputDeliveries n (p.1.pointerInput p.2) =
            forwarded.map (· ++ it.own i (p.1.pointerInput p.2) (p.1.sceneOrigin n)) ∧
          ∀ ds, forwarded = .ok ds →
            ∀ d ∈ ds, d.Within p.1 (p.1.sinkChain p.1.interactions.length i).tail) ∧
        (ownCalls it i n (w.pointerRun g.events)).filterMap Delivery.dragStage =
          .start :: List.replicate g.moves.length .move ++ [.finish] ∧
        (ownCalls it i n (w.pointerRun g.events)).countP Delivery.isClick =
          if g.last.phase = .up then 1 else 0) := by
  refine ⟨fun raw w ho hs => ?_, fun raw w hw => ?_, fun v w w' h => presentView_clears_capture w h,
    fun g w hw => ?_⟩
  · exact routePointer_dropped raw w (w.pointerHeight_eq_none_iff.mpr ⟨ho, hs⟩)
  · obtain ⟨height, hh⟩ := World.exists_pointerHeight hw
    exact ⟨routePointer_eq_deliveries raw w hh, captured_after_routePointer raw w hh,
      fun b w' h => routePointer_answer raw w hh h, fun n ht hn => routePointer_swallowed raw w hh ht hn⟩
  · obtain ⟨height, hh⟩ := World.exists_pointerHeight hw
    obtain ⟨haimed, hend⟩ := g.aimed_at_down hh
    exact ⟨haimed, hend, fun n i it hn hi =>
      ⟨deliveries_along_pointerRun hn hi g.events, g.own_calls w it i n⟩⟩

/-- On a detached button: an event before the window size is known is dropped, and a tap with
one move gives the button's interaction a drag start, a move and an end, and one click. -/
theorem pointer_events_follow_the_capture_on_a_button :
    let button : World := { World.fresh .topLeft none with
      nodes := [NodeState.fresh "root" .hanging false none,
        NodeState.fresh "button" .hanging true (some 0)]
      interactions := [⟨0, 1, none⟩] }
    let tap : Gesture := ⟨⟨.down, 1, 1⟩, [⟨.move, 2, 2⟩], ⟨.up, 2, 2⟩, rfl, by simp, .inl rfl⟩
    routePointer ⟨.down, 1, 1⟩ (World.fresh .bottomLeft none) =
        .ok false (World.fresh .bottomLeft none) ∧
      (button.afterPointers tap.events).host.captured = none ∧
      (ownCalls ⟨0, 1, none⟩ 0 1 (button.pointerRun tap.events)).filterMap Delivery.dragStage =
        [.start, .move, .finish] ∧
      (ownCalls ⟨0, 1, none⟩ 0 1 (button.pointerRun tap.events)).countP Delivery.isClick = 1 := by
  intro button tap
  have h := pointer_events_follow_the_capture
  have hw : ¬(button.origin = .bottomLeft ∧ button.host.size = none) := fun h => by cases h.1
  have hbutton := (h.2.2.2 tap button hw).2.2 1 0 ⟨0, 1, none⟩ rfl rfl
  exact ⟨h.1 _ _ rfl rfl, (h.2.2.2 tap button hw).2.1, hbutton.2.1, hbutton.2.2⟩

end Proscenium
