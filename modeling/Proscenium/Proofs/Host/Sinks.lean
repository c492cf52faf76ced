import Proscenium.Proofs.Host.Delivery

/-!
# Sink chains

An interaction forwards each event to its sink before its own handlers see it, and a sink that is
a view's input delivers to that view's interaction, which forwards to its own sink, and so on.
Following these links from an interaction gives its *sink chain*; each interaction on it gets the
event at the scene origin of its node. Only a live sink of a view that takes input is followed: a
dropped sink, a view without input or no sink ends the chain, and a logging sink ends it after
recording the event.

Delivery recurses along the chain before any handler runs, so what it does is a flat list read
off the chain (`deliver_eq_chainPlan`): the far end's logging sink records the event, then every
interaction on the chain, from the far end back to the first, calls its own handlers.

The recursion is bounded by a fuel argument. The chain is a walk along a function, so it either
stops or revisits an interaction and then goes round for ever:

* if the walk never revisits an interaction it stops within as many links as there are
  interactions (`length_sinkLinks_le_of_nodup`), and past that no fuel changes the delivery: the
  fuel the host passes is always enough;
* a walk that stops never revisits (`nodup_of_ended`), so one that revisits is cut off by the
  fuel at every fuel (`length_sinkLinks_of_revisit`): the recursion has no bound of its own.
-/

namespace Proscenium

open Act

namespace World

/-- Every view sink names an interaction that is there. -/
def SinksResolve (w : World) : Prop :=
  ∀ (i : Nat) (it : Interaction) (k node : Nat), w.interactions[i]? = some it →
    it.sink = some (.view (some k) node) → k < w.interactions.length

/-- Where interaction `j`'s sink forwards to: the interaction of the view it names and the view's
node. Only the live sink of a view that takes input is followed. -/
def sinkTarget (w : World) (j : Nat) : Option (Nat × Nat) :=
  match (w.interactions[j]?).bind (·.sink) with
  | some (.view (some k) node) => some (k, node)
  | _ => none

/-- The sink chain from interaction `j`, whose handlers get `origin`, at most `fuel` links long:
each interaction on it with the scene origin its handlers get, `j` first. -/
def sinkLinks (w : World) : Nat → Nat → Point → List (Nat × Point)
  | 0, j, origin => [(j, origin)]
  | fuel + 1, j, origin =>
    (j, origin) :: match w.sinkTarget j with
      | some (k, node) => w.sinkLinks fuel k (w.sceneOrigin node)
      | none => []

/-- The calls the interaction of a link makes to its own handlers. -/
def ownCalls (w : World) (input : PointerInput) (link : Nat × Point) : List Delivery :=
  match w.interactions[link.1]? with
  | some it => it.own link.1 input link.2
  | none => []

/-- What the far end of a chain does with the event besides its own handlers: a logging sink
records it; any other sink there is not followed. -/
def farLog (w : World) (input : PointerInput) (links : List (Nat × Point)) : List Delivery :=
  match (links.getLast?).bind fun link => (w.interactions[link.1]?).bind (·.sink) with
  | some (.log name) => [.log name input]
  | _ => []

/-- Delivering along a chain: the far end's logging sink, then each interaction's own calls, from
the far end back to the first. -/
def chainPlan (w : World) (input : PointerInput) (links : List (Nat × Point)) : List Delivery :=
  w.farLog input links ++ links.reverse.flatMap (w.ownCalls input)

section Chains

variable {w : World} {fuel fuel' j k node : Nat} {origin : Point}

theorem sinkTarget_eq_some (h : w.sinkTarget j = some (k, node)) :
    ∃ it, w.interactions[j]? = some it ∧ it.sink = some (.view (some k) node) := by
  unfold sinkTarget at h
  split at h
  · next k' node' hs =>
    cases h
    obtain ⟨it, hit, hsink⟩ := Option.bind_eq_some_iff.mp hs
    exact ⟨it, hit, hsink⟩
  · cases h

@[simp] theorem sinkLinks_zero (j : Nat) (origin : Point) : w.sinkLinks 0 j origin = [(j, origin)] := rfl

theorem sinkLinks_succ_of_target (h : w.sinkTarget j = some (k, node)) :
    w.sinkLinks (fuel + 1) j origin = (j, origin) :: w.sinkLinks fuel k (w.sceneOrigin node) := by
  simp [sinkLinks, h]

/-- A chain from an interaction whose sink is not followed is that interaction alone. -/
theorem sinkLinks_of_no_target (h : w.sinkTarget j = none) (fuel : Nat) :
    w.sinkLinks fuel j origin = [(j, origin)] := by
  cases fuel <;> simp [sinkLinks, h]

/-- A chain starts at its first interaction. -/
theorem head?_sinkLinks (fuel j : Nat) (origin : Point) :
    (w.sinkLinks fuel j origin).head? = some (j, origin) := by
  cases fuel <;> rfl

theorem length_sinkLinks_pos (fuel j : Nat) (origin : Point) : 0 < (w.sinkLinks fuel j origin).length := by
  cases fuel <;> simp [sinkLinks]

theorem length_sinkLinks_le (w : World) (fuel j : Nat) (origin : Point) :
    (w.sinkLinks fuel j origin).length ≤ fuel + 1 := by
  induction fuel generalizing j origin with
  | zero => simp
  | succ fuel ih =>
    cases h : w.sinkTarget j with
    | none => simp [sinkLinks_of_no_target h]
    | some t =>
      rw [sinkLinks_succ_of_target h, List.length_cons]
      have := ih t.1 (w.sceneOrigin t.2)
      omega

/-- A chain that stopped within its fuel is the same at any larger fuel. -/
theorem sinkLinks_of_ended (h : (w.sinkLinks fuel j origin).length ≤ fuel) (hle : fuel ≤ fuel') :
    w.sinkLinks fuel' j origin = w.sinkLinks fuel j origin := by
  induction fuel generalizing j origin fuel' with
  | zero => simp at h
  | succ fuel ih =>
    cases ht : w.sinkTarget j with
    | none => rw [sinkLinks_of_no_target ht, sinkLinks_of_no_target ht]
    | some t =>
      obtain ⟨g, rfl⟩ : ∃ g, fuel' = g + 1 := ⟨fuel' - 1, by omega⟩
      rw [sinkLinks_succ_of_target ht] at h ⊢
      rw [sinkLinks_succ_of_target ht, ih (by simpa using h) (by omega)]

/-- Less fuel follows a chain no further: the shorter chain is a prefix of the longer. -/
theorem sinkLinks_prefix_of_le (hle : fuel ≤ fuel') : w.sinkLinks fuel j origin <+: w.sinkLinks fuel' j origin := by
  induction fuel generalizing j origin fuel' with
  | zero =>
    cases fuel' with
    | zero => exact List.prefix_refl _
    | succ g => exact ⟨_, rfl⟩
  | succ fuel ih =>
    cases ht : w.sinkTarget j with
    | none =>
      -- both chains stop at the first link
      have hsame : w.sinkLinks (fuel + 1) j origin = w.sinkLinks fuel' j origin := by
        rw [sinkLinks_of_no_target ht, sinkLinks_of_no_target ht]
      exact hsame ▸ List.prefix_refl _
    | some t =>
      obtain ⟨g, rfl⟩ : ∃ g, fuel' = g + 1 := ⟨fuel' - 1, by omega⟩
      rw [sinkLinks_succ_of_target ht, sinkLinks_succ_of_target ht]
      exact (List.prefix_cons_inj _).mpr (ih (by omega))

/-- What is left of a chain after its first `p` links is the chain from the interaction reached
there, with `p` less fuel. -/
theorem drop_sinkLinks {p : Nat} (hp : p < (w.sinkLinks fuel j origin).length) :
    ∃ k o, (w.sinkLinks fuel j origin).drop p = w.sinkLinks (fuel - p) k o := by
  induction p generalizing fuel j origin with
  | zero => exact ⟨j, origin, rfl⟩
  | succ p ih =>
    cases fuel with
    | zero => simp at hp
    | succ fuel =>
      cases ht : w.sinkTarget j with
      | none => simp [sinkLinks_of_no_target ht] at hp
      | some t =>
        rw [sinkLinks_succ_of_target ht] at hp ⊢
        obtain ⟨k', o', hd⟩ := ih (by simpa using hp)
        exact ⟨k', o', by rw [List.drop_succ_cons, hd, Nat.add_sub_add_right]⟩

/-- **A chain that stops never revisits an interaction.** Were an interaction met twice, the
chain from its second visit would be the chain from its first, shorter than itself. -/
theorem nodup_of_ended (h : (w.sinkLinks fuel j origin).length ≤ fuel) :
    ((w.sinkLinks fuel j origin).map Prod.fst).Nodup := by
  induction fuel generalizing j origin with
  | zero => simp at h
  | succ fuel ih =>
    cases ht : w.sinkTarget j with
    | none => simp [sinkLinks_of_no_target ht]
    | some t =>
      obtain ⟨k, node⟩ := t
      rw [sinkLinks_succ_of_target ht] at h ⊢
      have hlen : (w.sinkLinks fuel k (w.sceneOrigin node)).length ≤ fuel := by simpa using h
      refine List.nodup_cons.mpr ⟨fun hj => ?_, ih hlen⟩
      -- `j` is met again at position `p` of the rest of the chain
      obtain ⟨x, hx, hxj⟩ := List.mem_map.mp hj
      obtain ⟨p, hp, hpx⟩ := List.getElem_of_mem hx
      obtain ⟨k', o', hd⟩ := drop_sinkLinks hp
      have hk' : k' = j := by
        have hhead := congrArg List.head? hd
        rw [List.head?_drop, List.getElem?_eq_getElem hp, hpx, head?_sinkLinks, Option.some.injEq] at hhead
        rw [hhead] at hxj
        exact hxj
      subst hk'
      -- from there the chain goes on to `k` again, with less fuel and fewer links
      have hdrop_len : (w.sinkLinks (fuel - p) k' o').length =
          (w.sinkLinks fuel k (w.sceneOrigin node)).length - p := by
        rw [← hd, List.length_drop]
      obtain ⟨g, hg⟩ : ∃ g, fuel - p = g + 1 := ⟨fuel - p - 1, by
        have := length_sinkLinks_pos (w := w) (fuel - p) k' o'
        omega⟩
      rw [hg, sinkLinks_succ_of_target ht, List.length_cons] at hdrop_len
      have hshort : (w.sinkLinks g k (w.sceneOrigin node)).length ≤ g := by omega
      rw [← sinkLinks_of_ended hshort (show g ≤ fuel by omega)] at hdrop_len
      have := length_sinkLinks_pos (w := w) fuel k (w.sceneOrigin node)
      omega

/-- A chain met with as much fuel as there are interactions, which never revisits an interaction
and meets only interactions that are there, stopped within that fuel. -/
theorem length_sinkLinks_le_of_nodup (hnd : ((w.sinkLinks fuel j origin).map Prod.fst).Nodup)
    (hlt : ∀ x ∈ w.sinkLinks fuel j origin, x.1 < fuel) : (w.sinkLinks fuel j origin).length ≤ fuel := by
  have hsub : (w.sinkLinks fuel j origin).map Prod.fst ⊆ List.range fuel := by
    intro k hk
    obtain ⟨x, hx, rfl⟩ := List.mem_map.mp hk
    exact List.mem_range.mpr (hlt x hx)
  simpa using hnd.length_le_of_subset hsub

/-- A chain that revisits an interaction at some fuel is cut off by the fuel at every fuel. -/
theorem length_sinkLinks_of_revisit (h : ∃ fuel, ¬((w.sinkLinks fuel j origin).map Prod.fst).Nodup)
    (fuel : Nat) : (w.sinkLinks fuel j origin).length = fuel + 1 := by
  obtain ⟨f, hf⟩ := h
  have hle := length_sinkLinks_le w fuel j origin
  refine (Nat.lt_or_ge _ _).elim (fun hlt => absurd ?_ hf) fun hge => Nat.le_antisymm hle hge
  -- the chain stopped at `fuel`, so the chain at `f` is a part of that one
  have hended : (w.sinkLinks fuel j origin).length ≤ fuel := Nat.le_of_lt_succ hlt
  by_cases hle : f ≤ fuel
  · exact (nodup_of_ended hended).sublist ((sinkLinks_prefix_of_le hle).sublist.map Prod.fst)
  · rw [sinkLinks_of_ended hended (by omega)]
    exact nodup_of_ended hended

/-- In a world whose sinks resolve, every interaction on a chain from one that is there is there. -/
theorem lt_of_mem_sinkLinks (hw : w.SinksResolve) (hj : j < w.interactions.length) :
    ∀ x ∈ w.sinkLinks fuel j origin, x.1 < w.interactions.length := by
  induction fuel generalizing j origin with
  | zero =>
    intro x hx
    rw [sinkLinks_zero, List.mem_singleton] at hx
    rw [hx]
    exact hj
  | succ fuel ih =>
    cases ht : w.sinkTarget j with
    | none =>
      intro x hx
      rw [sinkLinks_of_no_target ht, List.mem_singleton] at hx
      rw [hx]
      exact hj
    | some t =>
      obtain ⟨k, node⟩ := t
      obtain ⟨it, hit, hs⟩ := sinkTarget_eq_some ht
      rw [sinkLinks_succ_of_target ht]
      intro x hx
      rcases List.mem_cons.mp hx with rfl | hx
      · exact hj
      · exact ih (hw j it k node hit hs) x hx

end Chains

/-! ## What delivering along a chain does -/

section Plans

variable {w : World} {input : PointerInput}

theorem chainPlan_singleton (link : Nat × Point) :
    w.chainPlan input [link] = w.farLog input [link] ++ w.ownCalls input link := by
  simp [chainPlan]

/-- A longer chain's plan is its rest's plan, then the first interaction's own calls. -/
theorem chainPlan_cons (link : Nat × Point) {links : List (Nat × Point)} (hne : links ≠ []) :
    w.chainPlan input (link :: links) = w.chainPlan input links ++ w.ownCalls input link := by
  have hlast : (link :: links).getLast? = links.getLast? := by
    rw [List.getLast?_cons, List.getLast?_eq_some_getLast hne]
    rfl
  simp [chainPlan, farLog, hlast]

/-- Delivering to an interaction whose sink is not followed: a logging sink records the event,
then the interaction makes its own calls. -/
theorem deliveries_of_no_target {j : Nat} {it : Interaction} (hit : w.interactions[j]? = some it)
    (ht : w.sinkTarget j = none) (fuel : Nat) (origin : Point) :
    w.deliveries fuel j input origin = .ok (w.chainPlan input [(j, origin)]) := by
  unfold sinkTarget at ht
  rw [hit, Option.bind_some] at ht
  rw [deliveries, hit, chainPlan_singleton]
  simp only [farLog, ownCalls, List.getLast?_singleton, Option.bind_some, hit, Except.map]
  cases hs : it.sink with
  | none => rfl
  | some s =>
    rw [hs] at ht
    cases s with
    | view k node =>
      cases k with
      | none => cases fuel <;> rfl
      | some k => cases ht
    | log name => cases fuel <;> rfl
    | dead => cases fuel <;> rfl

/-- **Delivering is the chain's plan.** In a world whose sinks resolve, delivering to an
interaction that is there calls, at any fuel, the far end's logging sink and then every
interaction on the chain, from the far end back to the first, each with its own calls. -/
theorem deliveries_eq_chainPlan (hw : w.SinksResolve) {fuel j : Nat} (hj : j < w.interactions.length)
    (origin : Point) :
    w.deliveries fuel j input origin = .ok (w.chainPlan input (w.sinkLinks fuel j origin)) := by
  -- on the fuel, as the chain is followed one sink at a time
  induction fuel generalizing j origin with
  | zero =>
    obtain ⟨it, hit⟩ : ∃ it, w.interactions[j]? = some it := ⟨_, List.getElem?_eq_getElem hj⟩
    cases ht : w.sinkTarget j with
    | none => rw [deliveries_of_no_target hit ht, sinkLinks_zero]
    | some t =>
      -- out of fuel: the view sink is not followed
      obtain ⟨k, node⟩ := t
      obtain ⟨it', hit', hs⟩ := sinkTarget_eq_some ht
      rw [hit, Option.some.injEq] at hit'
      subst hit'
      rw [deliveries, hit, sinkLinks_zero, chainPlan_singleton]
      simp [farLog, ownCalls, hit, hs, Except.map]
  | succ fuel ih =>
    obtain ⟨it, hit⟩ : ∃ it, w.interactions[j]? = some it := ⟨_, List.getElem?_eq_getElem hj⟩
    cases ht : w.sinkTarget j with
    | none => rw [deliveries_of_no_target hit ht, sinkLinks_of_no_target ht]
    | some t =>
      -- the sink is followed: its plan, then this interaction's own calls
      obtain ⟨k, node⟩ := t
      obtain ⟨it', hit', hs⟩ := sinkTarget_eq_some ht
      rw [hit, Option.some.injEq] at hit'
      subst hit'
      rw [sinkLinks_succ_of_target ht, chainPlan_cons _ (by cases fuel <;> simp [sinkLinks]), deliveries,
        hit]
      simp only [hs]
      rw [ih (hw j it k node hit hs)]
      simp [Except.map, ownCalls, hit]

end Plans

end World

/-- Delivering to an interaction carries out its chain's plan. -/
theorem deliver_eq_chainPlan {w : World} (hw : w.SinksResolve) {j : Nat} (hj : j < w.interactions.length)
    (fuel : Nat) (input : PointerInput) (origin : Point) :
    deliver fuel j input origin w =
      (w.chainPlan input (w.sinkLinks fuel j origin)).forM Delivery.perform w := by
  rw [deliver_eq, World.deliveries_eq_chainPlan hw hj]

/-- **Sink chains.** In a world whose sinks resolve, take an interaction that is there and any
event. Delivering it follows the sink chain before any handler runs, then records the event at a
logging sink at the far end and calls each interaction's own handlers (a *down* starts a drag, a
*move* moves it, an *up* ends it and clicks, a *cancel* ends it), at the scene origin of its
node, from the far end back to the first. If following the chain never revisits an interaction,
it stops before there are as many links as interactions, so each interaction on it handles the
event once and no more fuel changes the delivery. If it revisits one, the recursion goes as deep
as any fuel allows. -/
theorem sink_chains_deliver_far_end_first (w : World) (hw : w.SinksResolve) (j : Nat)
    (hj : j < w.interactions.length) (input : PointerInput) (origin : Point) :
    (∀ fuel, deliver fuel j input origin w =
      (w.chainPlan input (w.sinkLinks fuel j origin)).forM Delivery.perform w) ∧
    ((∀ fuel, ((w.sinkLinks fuel j origin).map Prod.fst).Nodup) →
      (w.sinkLinks w.interactions.length j origin).length ≤ w.interactions.length ∧
      ∀ fuel, w.interactions.length ≤ fuel →
        deliver fuel j input origin w =
          (w.chainPlan input (w.sinkLinks w.interactions.length j origin)).forM Delivery.perform w) ∧
    ((∃ fuel, ¬((w.sinkLinks fuel j origin).map Prod.fst).Nodup) →
      ∀ fuel, (w.sinkLinks fuel j origin).length = fuel + 1) := by
  refine ⟨fun fuel => deliver_eq_chainPlan hw hj fuel input origin, fun hnd => ?_,
    World.length_sinkLinks_of_revisit⟩
  -- a chain that never revisits meets each interaction at most once, so it stops in time
  have hended : (w.sinkLinks w.interactions.length j origin).length ≤ w.interactions.length :=
    World.length_sinkLinks_le_of_nodup (hnd _) (World.lt_of_mem_sinkLinks hw hj)
  refine ⟨hended, fun fuel hle => ?_⟩
  rw [deliver_eq_chainPlan hw hj, World.sinkLinks_of_ended hended hle]

/-- A button whose sink is a game view, whose sink in turn logs: delivering a release to the
button is the plan of that chain at every fuel. -/
theorem sink_chains_deliver_far_end_first_through_a_view :
    let w : World := { World.fresh .topLeft none with
      interactions := [⟨0, 1, some (.view (some 1) 0)⟩, ⟨2, 3, some (.log "far")⟩] }
    let input : PointerInput := ⟨.up, ⟨1, 2⟩, ⟨1, -2⟩⟩
    w.SinksResolve ∧ 0 < w.interactions.length ∧
      ∀ fuel, deliver fuel 0 input Point.zero w =
        (w.chainPlan input (w.sinkLinks fuel 0 Point.zero)).forM Delivery.perform w := by
  intro w input
  have hw : w.SinksResolve := by
    intro i it k node hi hs
    rcases i with _ | _ | i
    · simp only [w, List.getElem?_cons_zero, Option.some.injEq] at hi
      subst hi
      simp only [Option.some.injEq, Sink.view.injEq] at hs
      simp [w, ← hs.1]
    · simp only [w, List.getElem?_cons_succ, List.getElem?_cons_zero, Option.some.injEq] at hi
      subst hi
      simp at hs
    · simp [w] at hi
  have hj : 0 < w.interactions.length := by simp [w]
  exact ⟨hw, hj, (sink_chains_deliver_far_end_first w hw 0 hj input Point.zero).1⟩

end Proscenium
