import Proscenium.Host.Pointer
import Proscenium.Proofs.Host.Frame

/-!
# What delivering an event does

Everything delivering a pointer event to an interaction does is fixed before any handler runs:
the sink chain is followed, and every interaction on it looked up, first. So a delivery is a
list of calls read off the world as the event arrives (`World.deliveries`), and delivering is
carrying them out in order (`deliver_eq`, `handleInput_eq`).

* Every call is to a registry of an interaction on the sink chain, and the chain's own
  interaction comes last with the calls of `Interaction.own`: a *down* starts a drag, a *move*
  moves it, an *up* ends it and clicks, a *cancel* ends it (`deliveries_eq_forwarded_append`).
* The calls are read off the nodes and the interactions alone (`deliveries_congr`).
-/

namespace Proscenium

open Act

/-! ## Running an action at a world -/

section Apply

variable {α β : Type}

theorem bind_apply (x : Act α) (f : α → Act β) (w : World) :
    (x >>= f) w = match x w with
      | .ok a w' => f a w'
      | .error e w' => .error e w' := by
  show EStateM.bind x f w = _
  unfold EStateM.bind
  cases x w <;> rfl

theorem bind_apply_ok {x : Act α} {f : α → Act β} {w w' : World} {a : α} (h : x w = .ok a w') :
    (x >>= f) w = f a w' := by
  rw [bind_apply, h]

theorem bind_apply_error {x : Act α} {f : α → Act β} {w w' : World} {e : Failure}
    (h : x w = .error e w') : (x >>= f) w = .error e w' := by
  rw [bind_apply, h]

theorem bind_apply_congr {x y : Act α} {f : α → Act β} {w : World} (h : x w = y w) :
    (x >>= f) w = (y >>= f) w := by
  rw [bind_apply, bind_apply, h]

/-- A bind that answers: its first action answered, and the rest answered from there. -/
theorem bind_apply_eq_ok {x : Act α} {f : α → Act β} {w w' : World} {b : β}
    (h : (x >>= f) w = .ok b w') : ∃ a w₁, x w = .ok a w₁ ∧ f a w₁ = .ok b w' := by
  rw [bind_apply] at h
  split at h
  · next a w₁ hx => exact ⟨a, w₁, hx, h⟩
  · cases h

theorem pure_apply (a : α) (w : World) : (pure a : Act α) w = .ok a w := rfl

theorem get_apply (w : World) : (get : Act World) w = .ok w w := rfl

theorem modifyHost_apply (f : Host → Host) (w : World) :
    modifyHost f w = .ok () { w with host := f w.host } := rfl

theorem sceneOriginOf_apply (w : World) (n : Nat) : sceneOriginOf n w = .ok (w.sceneOrigin n) w :=
  rfl

theorem interactionAt_apply (w : World) (j : Nat) :
    interactionAt j w = match w.interactions[j]? with
      | some it => .ok it w
      | none => .error (.abort ("dangling interaction " ++ toString j)) w := by
  unfold interactionAt
  rw [bind_apply_ok (get_apply w)]
  unfold Act.lookup
  cases w.interactions[j]? <;> rfl

theorem nodeAt_apply (w : World) (n : Nat) :
    nodeAt n w = match w.nodes[n]? with
      | some node => .ok node w
      | none => .error (.abort ("dangling node " ++ toString n)) w := by
  unfold nodeAt
  rw [bind_apply_ok (get_apply w)]
  unfold Act.lookup
  cases w.nodes[n]? <;> rfl

theorem except_map_eq_ok {ε : Type} {x : Except ε α} {f : α → β} {b : β} (h : x.map f = .ok b) :
    ∃ a, x = .ok a ∧ b = f a := by
  cases x with
  | error e => cases h
  | ok a => cases h; exact ⟨a, rfl, rfl⟩

end Apply

/-! ## Deliveries -/

/-- One thing delivering a pointer event does: interaction `j` calls one of its registries
with a signal, or a logging sink records the event. -/
inductive Delivery where
  | call (j registry : Nat) (signal : Signal)
  | log (name : String) (input : PointerInput)

namespace Delivery

/-- Carry a delivery out. -/
def perform : Delivery → Act Unit
  | .call _ registry signal => do let _ ← dispatch registry signal
  | .log name input => record (.sink name input)

/-- `d` calls only handlers of the interactions `js` of `w`: it is a call by one of them to
its own drag or click registry, or a logging sink. -/
def Within (w : World) (js : List Nat) : Delivery → Prop
  | .call j registry _ =>
    j ∈ js ∧ ∃ it, w.interactions[j]? = some it ∧ (registry = it.drags ∨ registry = it.clicks)
  | .log _ _ => True

theorem Within.mono {w : World} {js js' : List Nat} {d : Delivery} (hd : d.Within w js)
    (h : js ⊆ js') : d.Within w js' := by
  cases d with
  | call j registry signal => exact ⟨h hd.1, hd.2⟩
  | log name input => trivial

theorem keeps_perform (d : Delivery) : Keeps d.perform := by
  cases d with
  | call j registry signal => exact (keeps_dispatch registry signal).bind fun _ => keeps_pure _
  | log name input => exact keeps_record _

theorem keeps_forM_perform (ds : List Delivery) : Keeps (ds.forM perform) :=
  Keeps.forM fun d _ => d.keeps_perform

end Delivery

/-- What interaction `j`'s own handlers get for `input`, at a node whose scene origin is
`origin`: a *down* starts a drag, a *move* moves it, an *up* ends it and clicks, and a *cancel*
ends it without a click. Drag signals go to the drag registry, clicks to the click registry. -/
def Interaction.own (it : Interaction) (j : Nat) (input : PointerInput) (origin : Point) :
    List Delivery :=
  let e := input.dragEvent origin
  match input.phase with
  | .down => [.call j it.drags (.drag .start e)]
  | .move => [.call j it.drags (.drag .move e)]
  | .up => [.call j it.drags (.drag .finish e), .call j it.clicks .click]
  | .cancel => [.call j it.drags (.drag .finish e)]

theorem Interaction.own_within {w : World} {j : Nat} {it : Interaction}
    (hi : w.interactions[j]? = some it) (input : PointerInput) (origin : Point) :
    ∀ d ∈ it.own j input origin, d.Within w [j] := by
  have hdrags : ∀ s, (Delivery.call j it.drags s).Within w [j] :=
    fun _ => ⟨List.mem_singleton_self j, it, hi, .inl rfl⟩
  have hclicks : (Delivery.call j it.clicks .click).Within w [j] :=
    ⟨List.mem_singleton_self j, it, hi, .inr rfl⟩
  unfold own
  cases input.phase <;> simp [hdrags, hclicks]

/-- An interaction's own calls, carried out, are its own handlers' delivery. -/
theorem forM_own (it : Interaction) (j : Nat) (input : PointerInput) (origin : Point) :
    forM (it.own j input origin) Delivery.perform = deliverOwn it input origin := by
  unfold Interaction.own deliverOwn
  cases input.phase <;> simp [Delivery.perform]

namespace World

/-- Everything delivering `input` to interaction `j` does, in order, read off `w` before any
handler runs: what its sink does (at most `fuel` sinks deep), then `j`'s own calls. A dangling
interaction is the abort it causes. -/
def deliveries (w : World) : Nat → Nat → PointerInput → Point → Except Failure (List Delivery)
  | fuel, j, input, origin =>
    match w.interactions[j]? with
    | none => .error (.abort ("dangling interaction " ++ toString j))
    | some it =>
      let forwarded : Except Failure (List Delivery) := match it.sink, fuel with
        | some (.view (some k) node), fuel' + 1 => w.deliveries fuel' k input (w.sceneOrigin node)
        | some (.log name), _ => .ok [.log name input]
        | _, _ => .ok []
      forwarded.map (· ++ it.own j input origin)

/-- The interactions the sink chain from `j` passes through, `j` first, at most `fuel` links
long. -/
def sinkChain (w : World) : Nat → Nat → List Nat
  | fuel, j =>
    j :: match (w.interactions[j]?).bind (·.sink), fuel with
      | some (.view (some k) _), fuel' + 1 => w.sinkChain fuel' k
      | _, _ => []

section Deliveries

variable {w : World}

theorem sinkChain_of_view {j k node fuel : Nat} {it : Interaction}
    (hi : w.interactions[j]? = some it) (hs : it.sink = some (.view (some k) node)) :
    w.sinkChain (fuel + 1) j = j :: w.sinkChain fuel k :=
  sinkChain.eq_1 w j k fuel node (by rw [hi, Option.bind_some, hs])

theorem self_mem_sinkChain (fuel j : Nat) : j ∈ w.sinkChain fuel j := by
  unfold sinkChain
  exact List.mem_cons_self

/-- Whatever a delivery does, it does through the sink chain: every call is to a registry of
an interaction on it. -/
theorem deliveries_within (fuel : Nat) :
    ∀ {j : Nat} {input : PointerInput} {origin : Point} {ds : List Delivery},
      w.deliveries fuel j input origin = .ok ds → ∀ d ∈ ds, d.Within w (w.sinkChain fuel j) := by
  -- on fuel, as the chain is followed one sink at a time
  induction fuel using Nat.strongRecOn with
  | _ fuel ih =>
  intro j input origin ds h d hd
  rw [deliveries] at h
  cases hi : w.interactions[j]? with
  | none =>
    rw [hi] at h
    cases h
  | some it =>
    rw [hi] at h
    obtain ⟨fds, hf, rfl⟩ := except_map_eq_ok h
    rcases List.mem_append.mp hd with hd | hd
    · split at hf
      · next k node fuel' hs =>
        rw [sinkChain_of_view hi hs]
        exact (ih fuel' (Nat.lt_succ_self _) hf d hd).mono (List.subset_cons_self _ _)
      · next name hs =>
        cases hf
        rw [List.mem_singleton] at hd
        rw [hd]
        trivial
      · next =>
        cases hf
        cases hd
    · refine (it.own_within hi input origin d hd).mono fun x hx => ?_
      rw [List.mem_singleton.mp hx]
      exact self_mem_sinkChain fuel j

/-- A delivery to an interaction that is there ends with that interaction's own calls, after
what its sink chain does. -/
theorem deliveries_eq_forwarded_append {fuel j : Nat} {it : Interaction}
    (hi : w.interactions[j]? = some it) (input : PointerInput) (origin : Point) :
    ∃ forwarded : Except Failure (List Delivery),
      w.deliveries fuel j input origin = forwarded.map (· ++ it.own j input origin) ∧
      ∀ ds, forwarded = .ok ds → ∀ d ∈ ds, d.Within w (w.sinkChain fuel j).tail := by
  rw [deliveries, hi]
  refine ⟨_, rfl, fun ds hf d hd => ?_⟩
  split at hf
  · next k node fuel' hs =>
    rw [sinkChain_of_view hi hs]
    exact deliveries_within fuel' hf d hd
  · next name hs =>
    cases hf
    rw [List.mem_singleton] at hd
    rw [hd]
    trivial
  · next =>
    cases hf
    cases hd

end Deliveries

/-! ## What deliveries read -/

section Congr

variable {w w' : World}

/-- Scene positions are read off the nodes alone. -/
theorem originAbove_congr (h : w.nodes = w'.nodes) (fuel : Nat) (acc : Point) (p : Option Nat) :
    w.originAbove fuel acc p = w'.originAbove fuel acc p := by
  induction fuel generalizing acc p with
  | zero => simp only [originAbove]
  | succ fuel ih =>
    cases p with
    | none => simp only [originAbove]
    | some p =>
      simp only [originAbove, h]
      cases w'.nodes[p]? with
      | none => rfl
      | some n => exact ih _ _

theorem sceneOrigin_congr (h : w.nodes = w'.nodes) (n : Nat) : w.sceneOrigin n = w'.sceneOrigin n := by
  simp only [sceneOrigin, h, originAbove_congr h]

/-- What a delivery does is read off the nodes and the interactions alone. -/
theorem deliveries_congr (hn : w.nodes = w'.nodes) (hi : w.interactions = w'.interactions)
    (fuel j : Nat) (input : PointerInput) (origin : Point) :
    w.deliveries fuel j input origin = w'.deliveries fuel j input origin := by
  -- on fuel, as the sink chain is followed; only a followed view sink reads the nodes
  induction fuel generalizing j origin with
  | zero =>
    rw [deliveries, deliveries, hi]
    cases w'.interactions[j]? with
    | none => rfl
    | some it =>
      dsimp only
      cases it.sink with
      | none => rfl
      | some sink =>
        cases sink with
        | view k node => cases k <;> rfl
        | log name => rfl
        | dead => rfl
  | succ fuel ih =>
    rw [deliveries, deliveries, hi]
    cases w'.interactions[j]? with
    | none => rfl
    | some it =>
      dsimp only
      cases it.sink with
      | none => rfl
      | some sink =>
        cases sink with
        | view k node =>
          cases k with
          | none => rfl
          | some k =>
            dsimp only
            rw [ih, sceneOrigin_congr hn]
        | log name => rfl
        | dead => rfl

end Congr

/-- What node `node` handling `input` delivers, read off `w`: nothing if it has no interaction,
otherwise the deliveries to its interaction at the node's scene origin. -/
def inputDeliveries (w : World) (node : Nat) (input : PointerInput) :
    Except Failure (List Delivery) :=
  match w.nodes[node]? with
  | none => .error (.abort ("dangling node " ++ toString node))
  | some n =>
    match n.target with
    | none => .ok []
    | some i => w.deliveries w.interactions.length i input (w.sceneOrigin node)

/-- A node that hands its input to interaction `i` delivers what `i` gets at the node's scene
origin: what the sink chain behind `i` does, then `i`'s own calls. -/
theorem inputDeliveries_of_target {w : World} {n i : Nat} {it : Interaction}
    (hn : (w.nodes[n]?).map NodeState.target = some (some i)) (hi : w.interactions[i]? = some it)
    (input : PointerInput) :
    ∃ forwarded : Except Failure (List Delivery),
      w.inputDeliveries n input = forwarded.map (· ++ it.own i input (w.sceneOrigin n)) ∧
      ∀ ds, forwarded = .ok ds → ∀ d ∈ ds, d.Within w (w.sinkChain w.interactions.length i).tail := by
  obtain ⟨node, hnode, ht⟩ := Option.map_eq_some_iff.mp hn
  rw [inputDeliveries, hnode]
  dsimp only
  rw [ht]
  exact deliveries_eq_forwarded_append hi input (w.sceneOrigin n)

theorem inputDeliveries_congr {w w' : World} (hn : w.nodes = w'.nodes)
    (hi : w.interactions = w'.interactions) : w.inputDeliveries = w'.inputDeliveries := by
  funext node input
  simp only [inputDeliveries, deliveries_congr hn hi, sceneOrigin_congr hn, hn, hi]

end World

/-! ## Delivering carries the deliveries out -/

/-- Delivering to interaction `j` carries out `World.deliveries` in order, or aborts at once
if an interaction it needs is missing. -/
theorem deliver_eq (fuel j : Nat) (input : PointerInput) (origin : Point) (w : World) :
    deliver fuel j input origin w = match w.deliveries fuel j input origin with
      | .ok ds => ds.forM Delivery.perform w
      | .error f => .error f w := by
  induction fuel generalizing j origin w with
  | zero =>
    rw [deliver]
    cases hj : w.interactions[j]? with
    | none =>
      rw [bind_apply_error (by rw [interactionAt_apply, hj]), World.deliveries, hj]
    | some it =>
      rw [bind_apply_ok (by rw [interactionAt_apply, hj]), World.deliveries, hj]
      cases hs : it.sink with
      | none => simp [hs, Except.map, forM_own]
      | some sink =>
        cases sink with
        | log name => simp [hs, Except.map, forM_own, Delivery.perform]
        | view k node => simp [hs, Except.map, forM_own]
        | dead => simp [hs, Except.map, forM_own]
  | succ fuel ih =>
    rw [deliver]
    cases hj : w.interactions[j]? with
    | none =>
      rw [bind_apply_error (by rw [interactionAt_apply, hj]), World.deliveries, hj]
    | some it =>
      rw [bind_apply_ok (by rw [interactionAt_apply, hj]), World.deliveries, hj]
      cases hs : it.sink with
      | none => simp [hs, Except.map, forM_own]
      | some sink =>
        cases sink with
        | log name => simp [hs, Except.map, forM_own, Delivery.perform]
        | view k node =>
          cases k with
          | none => simp [hs, Except.map, forM_own]
          | some k =>
            -- the sink is followed first; what it does is the plan one sink deeper
            simp only [hs]
            rw [bind_apply_ok (sceneOriginOf_apply w node)]
            have hk := ih k (w.sceneOrigin node) w
            cases hd : w.deliveries fuel k input (w.sceneOrigin node) with
            | error f =>
              rw [hd] at hk
              rw [bind_apply_error hk]
              rfl
            | ok ds =>
              rw [hd] at hk
              rw [bind_apply_congr hk]
              simp [Except.map, forM_own]
        | dead => simp [hs, Except.map, forM_own]

/-- A node handling input carries out what it delivers. -/
theorem handleInput_eq (node : Nat) (input : PointerInput) (w : World) :
    handleInput node input w = match w.inputDeliveries node input with
      | .ok ds => ds.forM Delivery.perform w
      | .error f => .error f w := by
  unfold handleInput World.inputDeliveries
  rw [bind_apply, nodeAt_apply]
  cases hn : w.nodes[node]? with
  | none => rfl
  | some n =>
    cases ht : n.target with
    | none => simp only [ht]; rfl
    | some i =>
      simp only [ht]
      rw [bind_apply_ok (get_apply w), bind_apply_ok (sceneOriginOf_apply w node), deliver_eq]

/-- Handling input leaves what handlers leave alone. -/
theorem keeps_handleInput (node : Nat) (input : PointerInput) : Keeps (handleInput node input) := by
  refine fun w => ?_
  unfold after
  rw [handleInput_eq]
  cases w.inputDeliveries node input with
  | ok ds => exact Delivery.keeps_forM_perform ds w
  | error f => exact World.Frame.refl w

end Proscenium
