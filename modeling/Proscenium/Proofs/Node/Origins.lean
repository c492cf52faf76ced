import Mathlib.Data.List.Forall2
import Proscenium.Proofs.Node.Candidates
import Proscenium.Proofs.Double.Zero

/-!
# The origin a node is hit at

On the way down, the hit test hands each node's children the node's scene origin as it computes
it: the forest's origin with each position on the path added in turn, `((o + p₁) + p₂) + …`
(`Tree.testedAt`). A node's scene origin is summed the other way, from the node up,
`((pₙ + pₙ₋₁) + …) + p₁` (`Tree.sceneOrigins`). With doubles the two need not agree, since
addition is not associative: three levels at `1e17`, `-1e17` and `1` are tested at
`(1e17 + -1e17) + 1 = 1` but have their scene origin at `(1 + -1e17) + 1e17 = 0`.

Two levels are not enough to tell them apart: `0 + p` is `p` and `p₁ + p₂` is `p₂ + p₁`, up to
the sign of a zero. So on a forest whose top-level nodes have only leaves below them, the nodes
are tested at their scene origins, up to the sign of a zero coordinate, and so is the node the
hit test answers (`hit_origins_match_scene_origins_two_levels_deep`).
-/

namespace Proscenium

open Double

/-- Points whose coordinates are alike: equal, or both zeros. -/
def Point.Alike (a b : Point) : Prop := Double.Alike a.x b.x ∧ Double.Alike a.y b.y

namespace Tree

variable {α : Type}

mutual

/-- Every node of a tree in pre-order, with the origin the hit test moves its hit area to when
the tree's parent has scene origin `origin`: that origin plus the node's position, which is
also what the node's children are handed. -/
def testedAt (origin : Point) : Tree α → List (NodeFace α × Point)
  | .node f cs => (f, origin + f.position) :: testedAtList (origin + f.position) cs

/-- `testedAt` over a list of sibling trees, in order. -/
def testedAtList (origin : Point) : List (Tree α) → List (NodeFace α × Point)
  | [] => []
  | t :: ts => testedAt origin t ++ testedAtList origin ts

end

/-- A tree whose children are all leaves: at most two levels deep. -/
def isShallow : Tree α → Bool
  | .node _ cs => cs.all fun c => c.children.isEmpty

/-- A node's label with the origin it is tested at. -/
def labelled (x : NodeFace α × Point) : α × Point := (x.1.label, x.2)

theorem mem_testedAtList_of_mem {origin : Point} {t : Tree α} {ts : List (Tree α)} (ht : t ∈ ts)
    {x : NodeFace α × Point} (hx : x ∈ t.testedAt origin) : x ∈ testedAtList origin ts := by
  induction ts with
  | nil => cases ht
  | cons t' ts ih =>
    rw [testedAtList, List.mem_append]
    rcases List.mem_cons.mp ht with rfl | ht
    · exact .inl hx
    · exact .inr (ih ht)

/-- A candidate of the hit test is a node tested at the origin `testedAt` lists, there under
the point. -/
theorem Candidate.testedAt {p origin : Point} {t : Tree α} {key : List (Int × Nat)} {l : α}
    (h : t.Candidate p origin key l) :
    ∃ f o, (f, o) ∈ t.testedAt origin ∧ f.label = l ∧ (f.area.shift o).contains p = true := by
  induction h with
  | self hv hi hc => exact ⟨_, _, List.mem_cons_self, rfl, hc⟩
  | child hv ht hc ih =>
    obtain ⟨f', o, hmem, hl, hcon⟩ := ih
    refine ⟨f', o, ?_, hl, hcon⟩
    rw [Tree.testedAt]
    exact List.mem_cons_of_mem _ (mem_testedAtList_of_mem (List.mem_of_getElem? ht) hmem)

theorem ForestCandidate.testedAt {p origin : Point} {ts : List (Tree α)} {key : List (Int × Nat)} {l : α}
    (h : ForestCandidate p origin ts key l) :
    ∃ f o, (f, o) ∈ testedAtList origin ts ∧ f.label = l ∧ (f.area.shift o).contains p = true := by
  cases key with
  | nil => exact h.elim
  | cons k key =>
    obtain ⟨t, ht, -, hc⟩ := h
    obtain ⟨f, o, hmem, hl, hcon⟩ := hc.testedAt
    exact ⟨f, o, mem_testedAtList_of_mem (List.mem_of_getElem? ht) hmem, hl, hcon⟩

/-- The node a hit test answers is tested at an origin `testedAtList` lists. -/
theorem hitTest_testedAt {forest : List (Tree α)} {origin p : Point} {l : α}
    (h : hitTest forest origin p = some l) :
    ∃ f o, (f, o) ∈ testedAtList origin forest ∧ f.label = l ∧ (f.area.shift o).contains p = true := by
  have htop : Topmost (ForestCandidate p origin forest) (hitTest forest origin p) :=
    bestRanked_ranked_topmost fun _ t _ => hit_topmost p origin t
  rw [h] at htop
  obtain ⟨key, hc, -⟩ := (htop.eq_some_iff l).mp rfl
  exact hc.testedAt

/-! ## Two levels -/

/-- The relation the two lists of origins stand in: the same label, origins alike. -/
def SameNodeAlike (a b : α × Point) : Prop := a.1 = b.1 ∧ Point.Alike a.2 b.2

/-- The leaves below a node: each tested at the node's origin `o` plus its position, with its
scene origin its position plus the node's `p`, these alike when `o` and `p` are. -/
theorem leaves_alike {o p : Point} (ho : Point.Alike o p) (cs : List (Tree α))
    (hcs : ∀ c ∈ cs, c.children.isEmpty = true) :
    List.Forall₂ SameNodeAlike ((testedAtList o cs).map labelled) (originsListFrom [p] cs) := by
  induction cs with
  | nil => exact .nil
  | cons c cs ih =>
    obtain ⟨g, gs⟩ := c
    have hg : gs = [] := List.isEmpty_iff.mp (hcs _ List.mem_cons_self)
    subst hg
    rw [testedAtList, testedAt, testedAtList, originsListFrom, originsFrom, originsListFrom]
    refine .cons ⟨rfl, ?_, ?_⟩ (ih fun c hc => hcs c (List.mem_cons_of_mem _ hc))
    · show Double.Alike (o.x + g.position.x) (g.position.x + p.x)
      rw [Double.add_comm g.position.x]
      exact ho.1.add_right _
    · show Double.Alike (o.y + g.position.y) (g.position.y + p.y)
      rw [Double.add_comm g.position.y]
      exact ho.2.add_right _

/-- A top-level node at most two levels deep: it is tested at `0 + p`, its scene origin is
`p`. -/
theorem shallow_alike (t : Tree α) (ht : t.isShallow = true) :
    List.Forall₂ SameNodeAlike ((t.testedAt Point.zero).map labelled) (originsFrom [] t) := by
  obtain ⟨f, cs⟩ := t
  have ho : Point.Alike (Point.zero + f.position) f.position :=
    ⟨zero_add_alike f.position.x, zero_add_alike f.position.y⟩
  rw [testedAt, originsFrom, List.map_cons]
  exact .cons ⟨rfl, ho⟩ (leaves_alike ho cs fun c hc => List.all_eq_true.mp ht c hc)

theorem forall₂_getElem? {β γ : Type} {R : β → γ → Prop} {l₁ : List β} {l₂ : List γ}
    (h : List.Forall₂ R l₁ l₂) {i : Nat} {a : β} (ha : l₁[i]? = some a) :
    ∃ b, l₂[i]? = some b ∧ R a b := by
  obtain ⟨hi, rfl⟩ := List.getElem?_eq_some_iff.mp ha
  have hi₂ : i < l₂.length := h.length_eq ▸ hi
  exact ⟨l₂[i], List.getElem?_eq_getElem hi₂, h.get hi hi₂⟩

end Tree

open Proscenium.Tree in
/-- **Nodes two levels deep are hit at their scene origins.** On a forest whose top-level nodes
have only leaves below them, hit tested from the origin, every node is tested at its scene
origin, in pre-order, up to the sign of a zero coordinate; in particular, the node the hit test
answers was found under the point at the origin it was tested at, which is alike its scene
origin. -/
theorem hit_origins_match_scene_origins_two_levels_deep {α : Type} (forest : List (Tree α))
    (hs : ∀ t ∈ forest, t.isShallow = true) :
    List.Forall₂ SameNodeAlike ((testedAtList Point.zero forest).map labelled) (sceneOrigins forest) ∧
      ∀ p l, hitTest forest Point.zero p = some l →
        ∃ (i : Nat) (f : NodeFace α) (o o' : Point), (testedAtList Point.zero forest)[i]? = some (f, o) ∧ (sceneOrigins forest)[i]? = some (l, o') ∧
          f.label = l ∧ (f.area.shift o).contains p = true ∧ Point.Alike o o' := by
  have hall : List.Forall₂ SameNodeAlike ((testedAtList Point.zero forest).map labelled) (sceneOrigins forest) := by
    -- pre-order over the forest: each tree's nodes, then the next tree's
    unfold sceneOrigins
    induction forest with
    | nil => exact .nil
    | cons t ts ih =>
      rw [testedAtList, originsListFrom, List.map_append]
      exact List.rel_append (shallow_alike t (hs t List.mem_cons_self))
        (ih fun t' ht' => hs t' (List.mem_cons_of_mem _ ht'))
  refine ⟨hall, fun p l hl => ?_⟩
  obtain ⟨f, o, hmem, rfl, hcon⟩ := hitTest_testedAt hl
  obtain ⟨i, hi⟩ := List.mem_iff_getElem?.mp hmem
  have hli : ((testedAtList Point.zero forest).map labelled)[i]? = some (f.label, o) := by
    rw [List.getElem?_map, hi]
    rfl
  obtain ⟨⟨l', o'⟩, hb, hl', ho⟩ := forall₂_getElem? hall hli
  cases hl'
  exact ⟨i, f, o, o', hi, hb, rfl, hcon, ho⟩

/-- A view at `(0, 0)` holding a sprite at `(10, -20)`: the forest is two levels deep. -/
theorem hit_origins_match_scene_origins_for_a_view_and_sprite :
    let sprite : Tree Nat := .node ⟨2, ⟨10, -20⟩, 1, true, true, ⟨Point.zero, ⟨30, 30⟩⟩⟩ []
    let view : Tree Nat := .node ⟨1, Point.zero, 0, true, false, ⟨Point.zero, ⟨0, 0⟩⟩⟩ [sprite]
    (∀ t ∈ [view], t.isShallow = true) ∧
      List.Forall₂ Tree.SameNodeAlike ((Tree.testedAtList Point.zero [view]).map Tree.labelled)
        (Tree.sceneOrigins [view]) := by
  intro sprite view
  have hs : ∀ t ∈ [view], t.isShallow = true := by
    intro t ht
    rw [List.mem_singleton.mp ht]
    rfl
  exact ⟨hs, (hit_origins_match_scene_origins_two_levels_deep [view] hs).1⟩

end Proscenium
