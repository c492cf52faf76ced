import Proscenium.Proofs.Host.Hosting

/-!
# Stacking sprites

Every game view of a scene draws its sprites' stacking indices from the one counter of the
scene's loop, and a new sprite becomes the last child of its view. So the `k`-th sprite made,
over all game views, is stacked at `k`, a game view's children are stacked in the order they
were made, and no two game views share a stacking index. Hit testing a hosted game view then
answers the last-made of its sprites under the point, or else the view itself.

* `bestRanked_of_ascending` and `Tree.hit_node_of_ascending`: among children stacked in
  ascending order, the hit is the last child hit, or else the node itself.
* `World.Stacked` is what the counter and the views keep, and `answers_createSprite` keeps it:
  the new sprite takes the next index and goes last under its view.
* `sprites_stack_in_creation_order` puts these together over any sequence of sprites made on
  any game views, as long as the counter does not wrap.
-/

namespace Proscenium

open Act World

/-! ## Hit testing children stacked in order -/

section Ranking

variable {α : Type}

/-- Ranks that rise along the list: each later answer ranks above every earlier one. -/
def Ascending (l : List ((Int × Nat) × α)) : Prop := l.Pairwise fun x y => ranksAbove y.1 x.1 = true

theorem bestRankedWith_of_ascending (r : Int × Nat) (a : α) (rest : List ((Int × Nat) × α))
    (hr : ∀ x ∈ rest, ranksAbove x.1 r = true) (hrest : Ascending rest) :
    bestRanked.bestRankedWith r a rest = ((r, a) :: rest).getLast (List.cons_ne_nil _ _) := by
  induction rest generalizing r a with
  | nil => rfl
  | cons x rest ih =>
    obtain ⟨r', a'⟩ := x
    have hx : ranksAbove r' r = true := hr _ List.mem_cons_self
    obtain ⟨hhead, htail⟩ := List.pairwise_cons.mp hrest
    rw [bestRanked.bestRankedWith, if_pos hx, ih r' a' hhead htail, List.getLast_cons_cons]

/-- Of answers whose ranks rise along the list, the best ranked is the last. -/
theorem bestRanked_of_ascending {l : List ((Int × Nat) × α)} (h : Ascending l) :
    bestRanked l = l.getLast?.map Prod.snd := by
  cases l with
  | nil => rfl
  | cons x rest =>
    obtain ⟨r, a⟩ := x
    obtain ⟨hhead, htail⟩ := List.pairwise_cons.mp h
    rw [bestRanked, bestRankedWith_of_ascending r a rest hhead htail, List.getLast?_eq_some_getLast]
    rfl

end Ranking

namespace Tree

variable {α : Type}

/-- What the hit test keeps of the siblings it tries: their hits, in order. -/
theorem map_snd_ranked (origin p : Point) (ts : List (Tree α)) (i : Nat) :
    (ranked origin p ts i).map Prod.snd = ts.filterMap (hit origin p) := by
  induction ts generalizing i with
  | nil => rfl
  | cons t ts ih =>
    rw [ranked]
    cases h : hit origin p t with
    | none => rw [ih, List.filterMap_cons_none h]
    | some a => rw [List.map_cons, ih, List.filterMap_cons_some h]

/-- Each rank the hit test gives a sibling's hit carries that sibling's stacking index. -/
theorem mem_ranked {origin p : Point} {ts : List (Tree α)} {i : Nat} {x : (Int × Nat) × α}
    (hx : x ∈ ranked origin p ts i) : ∃ t ∈ ts, x.1.1 = t.face.z := by
  induction ts generalizing i with
  | nil => simp [ranked] at hx
  | cons t ts ih =>
    rw [ranked] at hx
    split at hx
    · rcases List.mem_cons.mp hx with rfl | hx
      · exact ⟨t, List.mem_cons_self, rfl⟩
      · obtain ⟨t', ht', hz⟩ := ih hx
        exact ⟨t', List.mem_cons_of_mem _ ht', hz⟩
    · obtain ⟨t', ht', hz⟩ := ih hx
      exact ⟨t', List.mem_cons_of_mem _ ht', hz⟩

/-- Siblings stacked in ascending order give hits of rising rank. -/
theorem ranked_ascending {origin p : Point} {ts : List (Tree α)}
    (hz : ts.Pairwise fun s t => s.face.z < t.face.z) (i : Nat) : Ascending (ranked origin p ts i) := by
  induction ts generalizing i with
  | nil => exact List.Pairwise.nil
  | cons t ts ih =>
    obtain ⟨hhead, htail⟩ := List.pairwise_cons.mp hz
    rw [ranked]
    split
    · refine List.Pairwise.cons (fun x hx => ?_) (ih htail (i + 1))
      obtain ⟨t', ht', hzx⟩ := mem_ranked hx
      have hlt := hhead t' ht'
      simp only [ranksAbove, hzx, gt_iff_lt, decide_eq_true_eq, Bool.or_eq_true]
      exact .inl hlt
    · exact ih htail (i + 1)

/-- A leaf is hit when it is visible and interactive and its area, moved to its scene origin,
holds the point. -/
theorem hit_leaf (origin p : Point) (f : NodeFace α) :
    hit origin p (.node f []) =
      if f.visible && f.interactive && (f.area.shift (origin + f.position)).contains p then some f.label
      else none := by
  rw [hit]
  cases f.visible <;> simp [ranked, bestRanked]

/-- **Hit testing children stacked in order.** A visible node whose children are stacked in
ascending order is hit at the last child hit; when no child is hit, at the node itself if it is
interactive and its area holds the point. -/
theorem hit_node_of_ascending (origin p : Point) (f : NodeFace α) {cs : List (Tree α)}
    (hz : cs.Pairwise fun s t => s.face.z < t.face.z) :
    hit origin p (.node f cs) =
      if f.visible then
        (cs.filterMap (hit (origin + f.position) p)).getLast?.or
          (if f.interactive && (f.area.shift (origin + f.position)).contains p then some f.label else none)
      else none := by
  rw [hit]
  dsimp only
  rw [bestRanked_of_ascending (ranked_ascending hz 0), ← List.getLast?_map, map_snd_ranked]
  cases f.visible with
  | false => rfl
  | true =>
    cases (cs.filterMap (hit (origin + f.position) p)).getLast? <;> rfl

end Tree

/-! ## Making a sprite -/

namespace World

/-- What stacking needs of a world. The loop has handed out the indices `1, …, m` to the `m`
sprites made so far; sprite `k`'s node was stacked at `k + 1` and has no children; each view has
a node of its own, stacked at 0; and a game view's children are the nodes of some sprites, in the
order the sprites were made, none of them under two game views. -/
structure Stacked (w : World) : Prop where
  counter : w.loop.nextZ = w.sprites.length + 1
  sprites : ∀ (k : Nat) (s : SpriteState), w.sprites[k]? = some s →
    ∃ n, w.nodes[s.node]? = some n ∧ n.z = k + 1 ∧ n.children = []
  views : ∀ (v : Nat) (view : ViewState), w.views[v]? = some view →
    ∃ n, w.nodes[view.node]? = some n ∧ n.z = 0
  distinct : ∀ (v v' : Nat) (view view' : ViewState), w.views[v]? = some view → w.views[v']? = some view' →
    view.node = view'.node → v = v'
  games : ∀ (v : Nat) (view : ViewState), w.views[v]? = some view → view.screen.kind = .game →
    ∃ ks : List Nat, ks.Pairwise (· < ·) ∧ (∀ k ∈ ks, k < w.sprites.length) ∧
      w.childrenOf view.node = ks.map fun k => (w.sprites.getD k default).node
  apart : ∀ (v v' : Nat) (view view' : ViewState), w.views[v]? = some view → w.views[v']? = some view' →
    view.screen.kind = .game → view'.screen.kind = .game → v ≠ v' →
    ∀ c ∈ w.childrenOf view.node, c ∉ w.childrenOf view'.node

end World

section Making

variable {w : World} {v : Nat} {view : ViewState}

/-- The node a new sprite gets: fresh, stacked at `z`, hanging from `parent`. -/
def spriteNode (target : Nat) (z : Int) (parent : Nat) : NodeState :=
  { NodeState.fresh "sprite" .hanging false (some target) with z := z, parent := some parent }

/-- Making a sprite on a view adds the sprite and its node at the back, stacks the node at the
loop's next index, and attaches it last under the view's node; the views stay as they are. -/
theorem createSprite_apply (hv : w.views[v]? = some view) :
    ∃ w', createSprite v w = .ok (w.sprites.length, w.loop.nextZ) w' ∧
      w'.nodes = (w.nodes ++ [spriteNode w.interactions.length w.loop.nextZ view.node]).modify view.node
        (fun n => { n with children := n.children ++ [w.nodes.length] }) ∧
      w'.sprites = w.sprites ++ [⟨w.nodes.length, none, none, w.interactions.length⟩] ∧
      w'.loop = w.loop.allocateZ.2 ∧ w'.views = w.views := by
  refine ⟨_, by simp only [createSprite, bind_apply, addSprite_apply, spriteAt_apply, List.getElem?_concat_length,
    nextZ_apply, modifyNode_apply, viewAt_apply, hv, attach_apply, pure_apply, modify_concat_length]; rfl,
    by rfl, by rfl, by rfl, by rfl⟩

/-- A node of a list with one node added at the back, then one node's children extended. -/
theorem getElem?_modify_concat {l : List NodeState} {a : NodeState} {i j : Nat} (f : NodeState → NodeState)
    (hi : i < l.length) :
    ((l ++ [a]).modify i f)[j]? = if j = i then l[j]?.map f else if j = l.length then some a else l[j]? := by
  rw [List.getElem?_modify]
  by_cases hj : j = i
  · subst hj
    rw [List.getElem?_append_left hi, if_pos rfl]
    cases l[j]? <;> simp
  · rw [if_neg hj]
    by_cases hjl : j < l.length
    · rw [List.getElem?_append_left hjl, if_neg (by omega)]
      cases l[j]? <;> simp [Ne.symm hj]
    · rw [List.getElem?_append_right (by omega)]
      by_cases hje : j = l.length
      · subst hje
        rw [if_pos rfl, Nat.sub_self]
        simp [show i ≠ l.length by omega]
      · have hpast : [a][j - l.length]? = none := List.getElem?_eq_none (by simp; omega)
        rw [if_neg hje, hpast, List.getElem?_eq_none (by omega)]
        rfl

/-- A game view's children are nodes that are there. -/
theorem World.Stacked.child_lt (hw : w.Stacked) (hv : w.views[v]? = some view) (hg : view.screen.kind = .game) :
    ∀ c ∈ w.childrenOf view.node, c < w.nodes.length := by
  obtain ⟨ks, -, hks, hch⟩ := hw.games v view hv hg
  intro c hc
  rw [hch, List.mem_map] at hc
  obtain ⟨k, hk, rfl⟩ := hc
  obtain ⟨s, hs⟩ : ∃ s, w.sprites[k]? = some s := ⟨_, List.getElem?_eq_getElem (hks k hk)⟩
  obtain ⟨n, hn, -⟩ := hw.sprites k s hs
  rw [List.getD_eq_getElem?_getD, hs, Option.getD_some]
  exact (List.getElem?_eq_some_iff.mp hn).1

/-- `w'` is `w` with sprite `s` added at the back and its node hung last under `parent`, the views
as they were. -/
structure World.Hung (w w' : World) (parent : Nat) (s : SpriteState) : Prop where
  views : w'.views = w.views
  sprites : w'.sprites = w.sprites ++ [s]
  children : ∀ u, w'.childrenOf u = if u = parent then w.childrenOf u ++ [s.node] else w.childrenOf u

/-- Hanging the newest sprite last under a view keeps each game view's children the nodes of
sprites, in the order they were made. -/
theorem World.Stacked.games_of_hung (hw : w.Stacked) {w' : World} {s : SpriteState}
    (hh : w.Hung w' view.node s) :
    ∀ (u : Nat) (view' : ViewState), w'.views[u]? = some view' → view'.screen.kind = .game →
      ∃ ks : List Nat, ks.Pairwise (· < ·) ∧ (∀ k ∈ ks, k < w'.sprites.length) ∧
        w'.childrenOf view'.node = ks.map fun k => (w'.sprites.getD k default).node := by
  intro u view' hu hgu
  rw [hh.views] at hu
  obtain ⟨ks, hasc, hks, hchu⟩ := hw.games u view' hu hgu
  -- the old sprites' nodes are read the same from the longer list
  have hget : ks.map (fun k => (w'.sprites.getD k default).node) =
      ks.map fun k => (w.sprites.getD k default).node := by
    refine List.map_congr_left fun k hk => ?_
    rw [List.getD_eq_getElem?_getD, List.getD_eq_getElem?_getD, hh.sprites, List.getElem?_append_left (hks k hk)]
  by_cases he : view'.node = view.node
  · -- the view the sprite was made on: the new sprite comes last
    refine ⟨ks ++ [w.sprites.length], ?_, ?_, ?_⟩
    · refine List.pairwise_append.mpr ⟨hasc, List.pairwise_singleton _ _, fun a ha b hb => ?_⟩
      rw [List.mem_singleton] at hb
      subst hb
      exact hks a ha
    · intro k hk
      rw [hh.sprites, List.length_append, List.length_singleton]
      rcases List.mem_append.mp hk with hk | hk
      · have := hks k hk
        omega
      · rw [List.mem_singleton] at hk
        omega
    · rw [hh.children, if_pos he, hchu, List.map_append, hget, List.map_singleton, List.getD_eq_getElem?_getD,
        hh.sprites, List.getElem?_concat_length]
      rfl
  · refine ⟨ks, hasc, fun k hk => ?_, ?_⟩
    · rw [hh.sprites, List.length_append]
      have := hks k hk
      omega
    · rw [hh.children, if_neg he, hchu, hget]

/-- Hanging a node that no game view had as a child keeps the game views' children apart. -/
theorem World.Stacked.apart_of_hung (hw : w.Stacked) {w' : World} {s : SpriteState}
    (hh : w.Hung w' view.node s)
    (hnew : ∀ (u : Nat) (view' : ViewState), w.views[u]? = some view' → view'.screen.kind = .game →
      s.node ∉ w.childrenOf view'.node) :
    ∀ (u₁ u₂ : Nat) (view₁ view₂ : ViewState), w'.views[u₁]? = some view₁ → w'.views[u₂]? = some view₂ →
      view₁.screen.kind = .game → view₂.screen.kind = .game → u₁ ≠ u₂ →
      ∀ c ∈ w'.childrenOf view₁.node, c ∉ w'.childrenOf view₂.node := by
  intro u₁ u₂ view₁ view₂ hu₁ hu₂ hg₁ hg₂ hne c hc₁ hc₂
  rw [hh.views] at hu₁ hu₂
  rw [hh.children] at hc₁ hc₂
  -- the new node is under one view only, and no old child is the new node
  by_cases h₁ : view₁.node = view.node
  · have h₂ : view₂.node ≠ view.node := fun h₂ =>
      hne (hw.distinct u₁ u₂ view₁ view₂ hu₁ hu₂ (h₁.trans h₂.symm))
    rw [if_pos h₁] at hc₁
    rw [if_neg h₂] at hc₂
    rcases List.mem_append.mp hc₁ with hc₁ | hc₁
    · exact hw.apart u₁ u₂ view₁ view₂ hu₁ hu₂ hg₁ hg₂ hne c hc₁ hc₂
    · rw [List.mem_singleton] at hc₁
      subst hc₁
      exact hnew u₂ view₂ hu₂ hg₂ hc₂
  · rw [if_neg h₁] at hc₁
    by_cases h₂ : view₂.node = view.node
    · rw [if_pos h₂] at hc₂
      rcases List.mem_append.mp hc₂ with hc₂ | hc₂
      · exact hw.apart u₁ u₂ view₁ view₂ hu₁ hu₂ hg₁ hg₂ hne c hc₁ hc₂
      · rw [List.mem_singleton] at hc₂
        subst hc₂
        exact hnew u₁ view₁ hu₁ hg₁ hc₁
    · rw [if_neg h₂] at hc₂
      exact hw.apart u₁ u₂ view₁ view₂ hu₁ hu₂ hg₁ hg₂ hne c hc₁ hc₂

/-- **Making a sprite.** In a stacked world, making a sprite on a view while the counter has room
answers the new sprite and the next stacking index, `m + 1` for the `m` sprites made before.
The sprite's node goes last among the view's children, no other node's children change, and the
world stays stacked. -/
theorem answers_createSprite (hw : w.Stacked) (hv : w.views[v]? = some view)
    (hcount : (w.sprites.length + 1 : Int) < wordMax) :
    (createSprite v).Answers w fun r w' =>
      r = (w.sprites.length, ((w.sprites.length + 1 : Nat) : Int)) ∧ w'.Stacked ∧ w'.views = w.views ∧
      ∃ s : SpriteState, w'.sprites = w.sprites ++ [s] ∧
        ∀ u, w'.childrenOf u = if u = view.node then w.childrenOf u ++ [s.node] else w.childrenOf u := by
  obtain ⟨w', hx, hnodes, hsprites, hloop, hviews⟩ := createSprite_apply hv
  obtain ⟨nv, hnv, hz0⟩ := hw.views v view hv
  have hvn : view.node < w.nodes.length := (List.getElem?_eq_some_iff.mp hnv).1
  -- where each node of the world left hangs: only the view's node gains a child, the new node
  have hlook : ∀ i, w'.nodes[i]? = if i = view.node then w.nodes[i]?.map
      (fun n => { n with children := n.children ++ [w.nodes.length] })
      else if i = w.nodes.length then some (spriteNode w.interactions.length w.loop.nextZ view.node)
      else w.nodes[i]? := by
    intro i
    rw [hnodes, getElem?_modify_concat _ hvn]
  have hch : ∀ u, w'.childrenOf u =
      if u = view.node then w.childrenOf u ++ [w.nodes.length] else w.childrenOf u := by
    intro u
    rw [childrenOf_eq_getD, childrenOf_eq_getD, hlook]
    by_cases hu : u = view.node
    · subst hu
      simp [hnv]
    · by_cases hN : u = w.nodes.length
      · subst hN
        simp [hu, spriteNode, NodeState.fresh]
      · simp [hu, hN]
  -- an old sprite's node is neither the view's node nor the new one
  have hold : ∀ (k : Nat) (s : SpriteState), w.sprites[k]? = some s →
      s.node ≠ view.node ∧ s.node < w.nodes.length := by
    intro k s hs
    obtain ⟨n, hn, hz, -⟩ := hw.sprites k s hs
    refine ⟨fun he => ?_, (List.getElem?_eq_some_iff.mp hn).1⟩
    rw [he, hnv, Option.some.injEq] at hn
    subst hn
    omega
  have hh : w.Hung w' view.node ⟨w.nodes.length, none, none, w.interactions.length⟩ := ⟨hviews, hsprites, hch⟩
  refine Answers.of_apply hx ⟨by rw [hw.counter]; push_cast; rfl, ?_, hviews, _, hsprites, fun u => hch u⟩
  refine ⟨?_, ?_, ?_, ?_, ?_, ?_⟩
  · -- the counter moves on by one, and does not wrap
    rw [hloop, hsprites, List.length_append, List.length_singleton]
    simp only [TaskLoop.allocateZ, hw.counter, if_neg (Int.ne_of_lt hcount)]
    omega
  · intro k s hs
    rw [hsprites] at hs
    rcases getElem?_concat_eq_some hs with ⟨-, hs'⟩ | ⟨rfl, rfl⟩
    · obtain ⟨n, hn, hz, hc⟩ := hw.sprites k s hs'
      obtain ⟨hne, hlt⟩ := hold k s hs'
      refine ⟨n, ?_, hz, hc⟩
      rw [hlook, if_neg hne, if_neg (by omega), hn]
    · -- the new sprite's node, stacked at the counter
      refine ⟨spriteNode w.interactions.length w.loop.nextZ view.node, ?_, ?_, rfl⟩
      · rw [hlook, if_neg (show w.nodes.length ≠ view.node by omega), if_pos rfl]
      · simp [spriteNode, hw.counter]
  · intro u view' hu
    rw [hviews] at hu
    obtain ⟨n, hn, hz⟩ := hw.views u view' hu
    have hlt := (List.getElem?_eq_some_iff.mp hn).1
    by_cases he : view'.node = view.node
    · exact ⟨{ n with children := n.children ++ [w.nodes.length] }, by rw [hlook, if_pos he, hn]; rfl, hz⟩
    · exact ⟨n, by rw [hlook, if_neg he, if_neg (by omega), hn], hz⟩
  · rw [hviews]
    exact hw.distinct
  · exact hw.games_of_hung hh
  · -- the new node is past every node a game view had as a child
    exact hw.apart_of_hung hh fun u view' hu hg hc => Nat.lt_irrefl _ (hw.child_lt hu hg _ hc)

/-- Sprite `k`'s node is stacked at `k + 1`. -/
theorem World.Stacked.z_sprite (hw : w.Stacked) {k : Nat} (hk : k < w.sprites.length) :
    (w.faceOf (w.sprites.getD k default).node).z = k + 1 ∧ w.childrenOf (w.sprites.getD k default).node = [] := by
  obtain ⟨s, hs⟩ : ∃ s, w.sprites[k]? = some s := ⟨_, List.getElem?_eq_getElem hk⟩
  obtain ⟨n, hn, hz, hc⟩ := hw.sprites k s hs
  rw [List.getD_eq_getElem?_getD, hs, Option.getD_some]
  refine ⟨?_, by rw [childrenOf_eq hn, hc]⟩
  simp only [faceOf, List.getD_eq_getElem?_getD, hn, Option.getD_some, hz]

/-- In a stacked world a game view's children are stacked in the order they were attached. -/
theorem World.Stacked.children_ascending (hw : w.Stacked) (hv : w.views[v]? = some view)
    (hg : view.screen.kind = .game) :
    (w.childrenOf view.node).Pairwise fun c c' => (w.faceOf c).z < (w.faceOf c').z := by
  obtain ⟨ks, hasc, hks, hch⟩ := hw.games v view hv hg
  rw [hch, List.pairwise_map]
  refine hasc.imp_of_mem fun {k k'} hk hk' hlt => ?_
  rw [(hw.z_sprite (hks k hk)).1, (hw.z_sprite (hks k' hk')).1]
  omega

/-- In a stacked world no two game views have children stacked at the same index. -/
theorem World.Stacked.z_apart (hw : w.Stacked) {v' : Nat} {view' : ViewState} (hv : w.views[v]? = some view)
    (hv' : w.views[v']? = some view') (hg : view.screen.kind = .game) (hg' : view'.screen.kind = .game)
    (hne : v ≠ v') :
    ∀ c ∈ w.childrenOf view.node, ∀ c' ∈ w.childrenOf view'.node, (w.faceOf c).z ≠ (w.faceOf c').z := by
  intro c hc c' hc' hz
  have happart := hw.apart v v' view view' hv hv' hg hg' hne c hc
  obtain ⟨ks, -, hks, hch⟩ := hw.games v view hv hg
  obtain ⟨ks', -, hks', hch'⟩ := hw.games v' view' hv' hg'
  rw [hch, List.mem_map] at hc
  rw [hch', List.mem_map] at hc'
  obtain ⟨k, hk, rfl⟩ := hc
  obtain ⟨k', hk', rfl⟩ := hc'
  -- equal indices would be one sprite, under both views
  rw [(hw.z_sprite (hks k hk)).1, (hw.z_sprite (hks' k' hk')).1] at hz
  have hkk : k = k' := by omega
  subst hkk
  exact happart (by rw [hch']; exact List.mem_map_of_mem hk')

/-- A game view's children have no children of their own. -/
theorem World.Stacked.child_leaf (hw : w.Stacked) (hv : w.views[v]? = some view) (hg : view.screen.kind = .game) :
    ∀ c ∈ w.childrenOf view.node, w.childrenOf c = [] := by
  obtain ⟨ks, -, hks, hch⟩ := hw.games v view hv hg
  intro c hc
  rw [hch, List.mem_map] at hc
  obtain ⟨k, hk, rfl⟩ := hc
  exact (hw.z_sprite (hks k hk)).2

end Making

/-! ## Hit testing a hosted game view -/

section Hosted

variable {w : World} {v : Nat} {view : ViewState}

/-- Whether node `c`, under a parent whose scene origin is `origin`, is visible and interactive
and its hit area, at its own scene origin, holds `p`. -/
def World.hitsAt (w : World) (origin p : Point) (c : Nat) : Bool :=
  (w.faceOf c).visible && (w.faceOf c).interactive &&
    ((w.faceOf c).area.shift (origin + (w.faceOf c).position)).contains p

theorem World.children_getD (w : World) (i : Nat) : (w.nodes.getD i default).children = w.childrenOf i := by
  rw [childrenOf_eq_getD, List.getD_eq_getElem?_getD]
  cases w.nodes[i]? <;> rfl

theorem World.treeOf_leaf (w : World) {c : Nat} (h : w.childrenOf c = []) (k : Nat) :
    w.treeOf k c = .node (w.faceOf c) [] := by
  cases k with
  | zero => rfl
  | succ k => rw [treeOf, children_getD, h, List.map_nil]

theorem Tree.hitAmong_singleton {α : Type} (origin p : Point) (t : Tree α) :
    hitAmong origin p [t] = hit origin p t := by
  unfold hitAmong
  rw [ranked]
  cases hit origin p t <;> rfl

/-- Of a list of leaves, the hits are the leaves hit. -/
theorem World.filterMap_hit_leaves (w : World) (origin p : Point) (l : List Nat) :
    (l.map fun c => Tree.node (w.faceOf c) []).filterMap (Tree.hit origin p) = l.filter (w.hitsAt origin p) := by
  induction l with
  | nil => rfl
  | cons c l ih =>
    rw [List.map_cons, List.filterMap_cons, Tree.hit_leaf, List.filter_cons, ih]
    unfold hitsAt
    cases (w.faceOf c).visible && (w.faceOf c).interactive &&
      ((w.faceOf c).area.shift (origin + (w.faceOf c).position)).contains p <;> rfl

/-- **Hit testing a hosted game view.** In a stacked world whose root holds only a game view, a
hit test answers the last of the view's sprites, in the order they were made, that is visible,
interactive and under the point; if there is none, the view itself if it is interactive and under
the point; and nothing if the view is hidden. -/
theorem World.Stacked.hitAt_hosted (hw : w.Stacked) (hv : w.views[v]? = some view) (hg : view.screen.kind = .game)
    (hroot : w.childrenOf 0 = [view.node]) (p : Point) :
    w.hitAt p =
      if (w.faceOf view.node).visible then
        ((w.childrenOf view.node).filter (w.hitsAt (Point.zero + (w.faceOf view.node).position) p)).getLast?.or
          (if (w.faceOf view.node).interactive &&
              ((w.faceOf view.node).area.shift (Point.zero + (w.faceOf view.node).position)).contains p then
            some view.node
          else none)
      else none := by
  -- the root is there, since it has a child
  obtain ⟨K, hK⟩ : ∃ K, w.nodes.length = K + 1 := by
    cases hn : w.nodes.length with
    | zero =>
      rw [childrenOf_eq_getD, List.getElem?_eq_none (by omega)] at hroot
      cases hroot
    | succ K => exact ⟨K, rfl⟩
  unfold hitAt hitTest
  rw [children_getD, hroot, List.map_singleton, Tree.hitAmong_singleton, hK, treeOf, children_getD]
  -- below the view, every child is a leaf, and the leaves are stacked in the order they were made
  have hleaves : (w.childrenOf view.node).map (w.treeOf K) =
      (w.childrenOf view.node).map fun c => Tree.node (w.faceOf c) [] :=
    List.map_congr_left fun c hc => w.treeOf_leaf (hw.child_leaf hv hg c hc) K
  have hasc : ((w.childrenOf view.node).map fun c => Tree.node (w.faceOf c) []).Pairwise
      fun s t => s.face.z < t.face.z := by
    rw [List.pairwise_map]
    exact hw.children_ascending hv hg
  rw [hleaves, Tree.hit_node_of_ascending _ _ _ hasc, filterMap_hit_leaves]
  rfl

end Hosted


/-! ## Any sequence of sprites -/

section Runs

/-- A fresh scene is stacked: no sprites, no views, the counter at 1. -/
theorem World.stacked_fresh (origin : NativeOrigin) (game : Option GameSetup) : (World.fresh origin game).Stacked where
  counter := rfl
  sprites k s hs := by simp [World.fresh] at hs
  views v view hv := by simp [World.fresh] at hv
  distinct v v' view view' hv := by simp [World.fresh] at hv
  games v view hv := by simp [World.fresh] at hv
  apart v v' view view' hv := by simp [World.fresh] at hv

/-- Making sprites one after another on views of a stacked world, while the counter has room:
the `i`-th sprite made is sprite `m + i`, stacked at `m + i + 1`, for the `m` sprites made before;
each goes last under its view's node, in the order made; and the world stays stacked, with the
same views and the sprites it had. -/
theorem answers_createSprites (vs : List Nat) :
    ∀ {w : World}, w.Stacked → (∀ v ∈ vs, v < w.views.length) →
      (w.sprites.length + vs.length : Int) < wordMax →
      (vs.mapM createSprite).Answers w fun made w' =>
        made = (List.range vs.length).map
          (fun i => (w.sprites.length + i, ((w.sprites.length + i + 1 : Nat) : Int))) ∧
        w'.Stacked ∧ w'.views = w.views ∧ w.sprites <+: w'.sprites ∧
        ∀ u view, w.views[u]? = some view → w'.childrenOf view.node = w.childrenOf view.node ++
          ((vs.zip made).filter fun q => q.1 = u).map fun q => (w'.sprites.getD q.2.1 default).node := by
  induction vs with
  | nil =>
    intro w hw _ _
    exact answers_pure.mpr ⟨rfl, hw, rfl, List.prefix_refl _, fun u view _ => by simp⟩
  | cons v vs ih =>
    intro w hw hvs hcount
    obtain ⟨view, hv⟩ : ∃ view, w.views[v]? = some view :=
      ⟨_, List.getElem?_eq_getElem (hvs v List.mem_cons_self)⟩
    rw [List.mapM_cons]
    refine Answers.bind ((answers_createSprite hw hv (by simp at hcount; omega)).mono fun r w₁ h₁ => ?_)
    obtain ⟨rfl, hw₁, hviews₁, s, hspr₁, hch₁⟩ := h₁
    have hlen₁ : w₁.sprites.length = w.sprites.length + 1 := by simp [hspr₁]
    refine Answers.bind ((ih hw₁ (fun u hu => by rw [hviews₁]; exact hvs u (List.mem_cons_of_mem _ hu))
      (by rw [hlen₁]; simp at hcount ⊢; omega)).mono fun made w' h => ?_)
    obtain ⟨hmade, hw', hviews', hpre', hch'⟩ := h
    -- the sprite made first is read back from the world left at its own index
    have hs' : w'.sprites.getD w.sprites.length default = s := by
      have hs₁ : w₁.sprites[w.sprites.length]? = some s := by rw [hspr₁, List.getElem?_concat_length]
      rw [List.getD_eq_getElem?_getD, getElem?_of_prefix hpre' hs₁, Option.getD_some]
    refine answers_pure.mpr ⟨?_, hw', hviews'.trans hviews₁, ?_, fun u view' hu => ?_⟩
    · rw [hmade, hlen₁, List.length_cons, List.range_succ_eq_map, List.map_cons, List.map_map]
      congr 1
      refine List.map_congr_left fun i _ => ?_
      simp only [Function.comp_apply, Prod.mk.injEq]
      constructor <;> omega
    · exact (hspr₁ ▸ List.prefix_append w.sprites [s]).trans hpre'
    · rw [hch' u view' (by rw [hviews₁]; exact hu), hch₁, List.zip_cons_cons, List.filter_cons]
      by_cases huv : v = u
      · -- a sprite made on this view: it comes first among the view's new children
        subst huv
        rw [hv, Option.some.injEq] at hu
        subst hu
        simp only [decide_true, if_true, List.map_cons, hs', List.append_assoc, List.singleton_append]
      · -- another view's node: apart from this one's
        have hnode : view'.node ≠ view.node := fun he => huv (hw.distinct u v view' view hu hv he).symm
        simp only [if_neg hnode, huv, decide_false, Bool.false_eq_true, if_false]

end Runs

/-! ## Sprites stack in the order they are made -/

section Main

variable {w : World}

/-- **Sprites stack in the order they are made.** From a stacked world, make sprites on any views,
one after another, while the loop's counter has room. The `i`-th sprite made is sprite `m + i`,
stacked at `m + i + 1`, for the `m` sprites made before: the loop's `k`-th sprite is stacked at
`k`. Each goes last under its view's node, in the order made. In the world left, every game
view's children are stacked in the order they were attached, no two game views share a stacking
index, and a hit test of a hosted game view answers the last-made of its sprites that is
visible, interactive and under the point, or else the view itself if it is interactive and under
the point. -/
theorem sprites_stack_in_creation_order (hw : w.Stacked) (vs : List Nat) (hvs : ∀ v ∈ vs, v < w.views.length)
    (hcount : (w.sprites.length + vs.length : Int) < wordMax) :
    (vs.mapM createSprite).Answers w fun made w' =>
      made = (List.range vs.length).map
        (fun i => (w.sprites.length + i, ((w.sprites.length + i + 1 : Nat) : Int))) ∧
      (∀ (u : Nat) (view : ViewState), w.views[u]? = some view → w'.childrenOf view.node = w.childrenOf view.node ++
        ((vs.zip made).filter fun q => q.1 = u).map fun q => (w'.sprites.getD q.2.1 default).node) ∧
      ∀ (u : Nat) (view : ViewState), w'.views[u]? = some view → view.screen.kind = .game →
        (w'.childrenOf view.node).Pairwise (fun c c' => (w'.faceOf c).z < (w'.faceOf c').z) ∧
        (∀ (u' : Nat) (view' : ViewState), w'.views[u']? = some view' → view'.screen.kind = .game → u ≠ u' →
          ∀ c ∈ w'.childrenOf view.node, ∀ c' ∈ w'.childrenOf view'.node, (w'.faceOf c).z ≠ (w'.faceOf c').z) ∧
        (w'.childrenOf 0 = [view.node] → ∀ p,
          w'.hitAt p =
            if (w'.faceOf view.node).visible then
              ((w'.childrenOf view.node).filter (w'.hitsAt (Point.zero + (w'.faceOf view.node).position) p)).getLast?.or
                (if (w'.faceOf view.node).interactive &&
                    ((w'.faceOf view.node).area.shift (Point.zero + (w'.faceOf view.node).position)).contains p then
                  some view.node
                else none)
            else none) := by
  refine (answers_createSprites vs hw hvs hcount).mono fun made w' h => ?_
  obtain ⟨hmade, hw', -, -, hch⟩ := h
  refine ⟨hmade, hch, fun u view hu hg => ⟨hw'.children_ascending hu hg, ?_, ?_⟩⟩
  · intro u' view' hu' hg' hne
    exact hw'.z_apart hu hu' hg hg' hne
  · intro hroot p
    exact hw'.hitAt_hosted hu hg hroot p

/-- Two sprites made on one game view of an otherwise empty scene are stacked at 1 and 2. -/
theorem sprites_stack_in_creation_order_on_one_view :
    let w : World := { World.fresh .topLeft none with
      nodes := [NodeState.fresh "root" .hanging false none, NodeState.fresh "game" .hanging false (some 0)]
      views := [⟨1, .game 0 0, none, .vacant, none⟩] }
    w.Stacked ∧ (∀ v ∈ [0, 0], v < w.views.length) ∧ (w.sprites.length + 2 : Int) < wordMax ∧
      (([0, 0] : List Nat).mapM createSprite).Answers w fun made _ => made = [(0, 1), (1, 2)] := by
  intro w
  -- the scene has one view, at index 0
  have hone : ∀ v view, w.views[v]? = some view → v = 0 ∧ view = ⟨1, .game 0 0, none, .vacant, none⟩ := by
    intro v view hv
    simp only [w, List.getElem?_singleton] at hv
    by_cases h : v = 0
    · rw [if_pos h, Option.some.injEq] at hv
      exact ⟨h, hv.symm⟩
    · rw [if_neg h] at hv
      cases hv
  have hw : w.Stacked := by
    refine ⟨rfl, by simp [w, World.fresh], ?_, ?_, ?_, ?_⟩
    · intro v view hv
      obtain ⟨-, rfl⟩ := hone v view hv
      exact ⟨_, rfl, rfl⟩
    · intro v v' view view' hv hv' _
      rw [(hone v view hv).1, (hone v' view' hv').1]
    · intro v view hv _
      obtain ⟨-, rfl⟩ := hone v view hv
      exact ⟨[], List.Pairwise.nil, by simp, by simp [childrenOf_eq_getD, w, NodeState.fresh]⟩
    · intro v v' view view' hv hv' _ _ hne
      exact absurd ((hone v view hv).1.trans (hone v' view' hv').1.symm) hne
  have hcount : (w.sprites.length + 2 : Int) < wordMax := by decide
  have hvs : ∀ v ∈ [0, 0], v < w.views.length := by decide
  refine ⟨hw, hvs, hcount, ?_⟩
  exact (sprites_stack_in_creation_order hw [0, 0] hvs hcount).mono fun made _ h => by rw [h.1]; rfl

end Main

end Proscenium
