import Mathlib.Data.List.Lex
import Proscenium.Node.HitTest

/-!
# Hit testing answers the topmost candidate

A node of a forest is a *candidate* for a point when it and every node above it are visible, it
is interactive, and its hit area, moved to its scene origin, holds the point. The scene origin is
the forest's origin plus the positions on the path from the top-level node down to the node,
added in that order. A node is named by its *rank path*, the `(z, index)` of each node on that
path.

Candidates are ordered by their rank paths (`Outranks`): a descendant outranks its ancestors;
otherwise the two paths part among the children of the nearest common ancestor, or among the
top-level nodes, and there the higher `(z, index)` wins. This is the lexicographic order on rank
paths in which a path ranks above its prefixes.

* `Tree.hit_topmost`: the hit within one tree is the topmost of its candidates, or nothing when
  it has none. The proof follows the search: by recursion on the tree, with the siblings' hits
  compared by `bestRanked` (`bestRanked_ranked_topmost`).
* `hitTest_answers_topmost_candidate`: hit testing a forest answers nothing exactly when the
  forest has no candidate, and answers `l` exactly when `l` labels the candidate that outranks
  every other one.
-/

namespace Proscenium

/-! ## Ranks -/

section Ranks

variable {a b c : Int × Nat}

theorem ranksAbove_irrefl (a : Int × Nat) : ranksAbove a a = false := by
  simp [ranksAbove]

theorem ranksAbove_trans (hab : ranksAbove a b = true) (hbc : ranksAbove b c = true) :
    ranksAbove a c = true := by
  simp only [ranksAbove, gt_iff_lt, Bool.or_eq_true, decide_eq_true_eq, Bool.and_eq_true,
    beq_iff_eq] at *
  omega

/-- Two different ranks are ordered one way or the other. -/
theorem ranksAbove_total (h : a ≠ b) : ranksAbove a b = true ∨ ranksAbove b a = true := by
  obtain ⟨a₁, a₂⟩ := a
  obtain ⟨b₁, b₂⟩ := b
  simp only [ne_eq, Prod.mk.injEq] at h
  simp only [ranksAbove, gt_iff_lt, Bool.or_eq_true, decide_eq_true_eq, Bool.and_eq_true,
    beq_iff_eq]
  omega

/-- A rank that `b` does not rank above is at least `b`: equal to it or above it. -/
theorem eq_or_ranksAbove_of_not (h : ranksAbove b a = false) : a = b ∨ ranksAbove a b = true := by
  by_cases hab : a = b
  · exact .inl hab
  · rcases ranksAbove_total hab with h' | h'
    · exact .inr h'
    · rw [h] at h'
      cases h'

/-- `b` ranks below `a`. -/
def RanksBelow (b a : Int × Nat) : Prop := ranksAbove a b = true

instance : Std.Asymm RanksBelow where
  asymm a b hab hba := by
    have := ranksAbove_trans hab hba
    rw [ranksAbove_irrefl] at this
    cases this

end Ranks

/-- `key` outranks `key'`: `key'` is a proper prefix of `key` (a descendant outranks its
ancestors), or at the first place the two paths part, `key` has the higher `(z, index)`. -/
def Outranks (key key' : List (Int × Nat)) : Prop := List.Lex RanksBelow key' key

theorem Outranks.asymm {key key' : List (Int × Nat)} (h : Outranks key key') : ¬Outranks key' key :=
  (List.Lex.asymm RanksBelow).asymm _ _ h

theorem Outranks.irrefl (key : List (Int × Nat)) : ¬Outranks key key :=
  fun h => h.asymm h

/-! ## The topmost of a set of candidates -/

section Topmost

variable {α : Type}

/-- What a search over the candidates `C` (rank paths with their labels) should answer: nothing
when there is no candidate, otherwise the label of a candidate that outranks every other one. -/
def Topmost (C : List (Int × Nat) → α → Prop) : Option α → Prop
  | none => ∀ key l, ¬C key l
  | some l => ∃ key, C key l ∧ ∀ key' l', C key' l' → (key' = key ∧ l' = l) ∨ Outranks key key'

/-- The topmost candidate is the only one: a search that answers it answers `l` exactly when `l`
labels a candidate that outranks every other one. -/
theorem Topmost.eq_some_iff {C : List (Int × Nat) → α → Prop} {r : Option α} (hr : Topmost C r)
    (l : α) :
    r = some l ↔ ∃ key, C key l ∧ ∀ key' l', C key' l' → (key' = key ∧ l' = l) ∨ Outranks key key' := by
  constructor
  · rintro rfl
    exact hr
  · rintro ⟨key, hc, htop⟩
    cases r with
    | none => exact absurd hc (hr key l)
    | some l' =>
      obtain ⟨key', hc', htop'⟩ := hr
      rcases htop key' l' hc' with ⟨-, rfl⟩ | hout
      · rfl
      · rcases htop' key l hc with ⟨rfl, -⟩ | hout'
        · exact absurd hout (Outranks.irrefl _)
        · exact absurd hout' hout.asymm

end Topmost

/-! ## Choosing among siblings -/

section Ranking

variable {α : Type}

/-- The fold behind `bestRanked` keeps one of its entries, and no entry ranks above the one
kept. -/
theorem bestRankedWith_spec (r : Int × Nat) (a : α) (rest : List ((Int × Nat) × α)) :
    bestRanked.bestRankedWith r a rest ∈ (r, a) :: rest ∧
      ∀ x ∈ (r, a) :: rest, ranksAbove x.1 (bestRanked.bestRankedWith r a rest).1 = false := by
  induction rest generalizing r a with
  | nil => simp [bestRanked.bestRankedWith, ranksAbove_irrefl]
  | cons y rest ih =>
    obtain ⟨r', a'⟩ := y
    rw [bestRanked.bestRankedWith]
    split
    · next hup =>
      -- the later entry takes over; the one it displaced ranks below it, so below the result
      obtain ⟨hmem, hmax⟩ := ih r' a'
      refine ⟨List.mem_cons_of_mem _ hmem, fun x hx => ?_⟩
      rcases List.mem_cons.mp hx with rfl | hx
      · cases hx' : ranksAbove (r, a).1 (bestRanked.bestRankedWith r' a' rest).1
        · rfl
        · have := hmax (r', a') List.mem_cons_self
          rw [ranksAbove_trans hup hx'] at this
          cases this
      · exact hmax x hx
    · next hkeep =>
      -- the current best stays; the passed-over entry is not above it, so not above the result
      obtain ⟨hmem, hmax⟩ := ih r a
      refine ⟨?_, fun x hx => ?_⟩
      · rcases List.mem_cons.mp hmem with h | h
        · rw [h]
          exact List.mem_cons_self
        · exact List.mem_cons_of_mem _ (List.mem_cons_of_mem _ h)
      · rcases List.mem_cons.mp hx with rfl | hx
        · exact hmax _ List.mem_cons_self
        rcases List.mem_cons.mp hx with rfl | hx
        · have hr := hmax (r, a) List.mem_cons_self
          rcases eq_or_ranksAbove_of_not hr with heq | hup
          · rw [heq]
            simpa using hkeep
          · cases hx' : ranksAbove (r', a').1 (bestRanked.bestRankedWith r a rest).1
            · rfl
            · have := ranksAbove_trans hx' hup
              simp only at this
              rw [this] at hkeep
              cases hkeep rfl
        · exact hmax x (List.mem_cons_of_mem _ hx)

/-- `bestRanked` answers an entry of its list that no entry ranks above. -/
theorem bestRanked_eq_some {l : List ((Int × Nat) × α)} {a : α} (h : bestRanked l = some a) :
    ∃ r, (r, a) ∈ l ∧ ∀ x ∈ l, ranksAbove x.1 r = false := by
  cases l with
  | nil => cases h
  | cons x rest =>
    obtain ⟨r, b⟩ := x
    have hbest : bestRanked ((r, b) :: rest) = some (bestRanked.bestRankedWith r b rest).2 := rfl
    rw [hbest, Option.some_inj] at h
    obtain ⟨hmem, hmax⟩ := bestRankedWith_spec r b rest
    rw [← h]
    exact ⟨_, hmem, hmax⟩

theorem bestRanked_eq_none_iff {l : List ((Int × Nat) × α)} : bestRanked l = none ↔ l = [] := by
  cases l with
  | nil => exact iff_of_true rfl rfl
  | cons x rest =>
    obtain ⟨r, b⟩ := x
    rw [bestRanked]
    exact iff_of_false (by split; simp) (List.cons_ne_nil _ _)

end Ranking

namespace Tree

variable {α : Type}

/-! ## Candidates -/

/-- `t.Candidate p origin key l`: in tree `t`, whose parent has scene origin `origin`, the node
reached along the rank path `key` below `t`'s own node (`[]` for that node) is labelled `l` and
is a candidate for the point `p`. -/
inductive Candidate (p : Point) : Point → Tree α → List (Int × Nat) → α → Prop
  /-- The tree's own node. -/
  | self {origin : Point} {f : NodeFace α} {cs : List (Tree α)} :
      f.visible = true → f.interactive = true →
      (f.area.shift (origin + f.position)).contains p = true →
      Candidate p origin (.node f cs) [] f.label
  /-- A node in the child at index `i`, reached through the visible node. -/
  | child {origin : Point} {f : NodeFace α} {cs : List (Tree α)} {i : Nat} {t : Tree α}
      {key : List (Int × Nat)} {l : α} :
      f.visible = true → cs[i]? = some t → Candidate p (origin + f.position) t key l →
      Candidate p origin (.node f cs) ((t.face.z, i) :: key) l

/-- A candidate of a forest whose parent has scene origin `origin`: a candidate of one of its
trees, with the rank path led by that tree's `(z, index)`. -/
def ForestCandidate (p origin : Point) (ts : List (Tree α)) : List (Int × Nat) → α → Prop
  | [], _ => False
  | (z, i) :: key, l => ∃ t, ts[i]? = some t ∧ t.face.z = z ∧ t.Candidate p origin key l

/-- The candidates of a tree: its own node, if visible, interactive and hit, and the candidates of
its children's forest, if it is visible. -/
theorem candidate_node_iff {p origin : Point} {f : NodeFace α} {cs : List (Tree α)}
    {key : List (Int × Nat)} {l : α} :
    (Tree.node f cs).Candidate p origin key l ↔
      f.visible = true ∧
        ((key = [] ∧ f.interactive = true ∧
            (f.area.shift (origin + f.position)).contains p = true ∧ l = f.label) ∨
          ForestCandidate p (origin + f.position) cs key l) := by
  constructor
  · rintro (⟨hv, hi, hc⟩ | ⟨hv, ht, hc⟩)
    · exact ⟨hv, .inl ⟨rfl, hi, hc, rfl⟩⟩
    · exact ⟨hv, .inr ⟨_, ht, rfl, hc⟩⟩
  · rintro ⟨hv, ⟨rfl, hi, hc, rfl⟩ | hf⟩
    · exact .self hv hi hc
    · match key, hf with
      | (_, _) :: _, ⟨t, ht, rfl, hc⟩ => exact .child hv ht hc

/-! ## The search -/

/-- The hit test ranks a sibling's hit by the sibling's stacking index and its index among the
siblings. -/
theorem mem_ranked_iff {origin p : Point} {ts : List (Tree α)} {i : Nat} {x : (Int × Nat) × α} :
    x ∈ ranked origin p ts i ↔
      ∃ k t, ts[k]? = some t ∧ x.1 = (t.face.z, i + k) ∧ hit origin p t = some x.2 := by
  induction ts generalizing i with
  | nil => simp [ranked]
  | cons t ts ih =>
    -- the head is index `i`; the rest are counted from `i + 1`
    have htail : (∃ k t', ts[k]? = some t' ∧ x.1 = (t'.face.z, i + 1 + k) ∧ hit origin p t' = some x.2) ↔
        ∃ k t', (t :: ts)[k + 1]? = some t' ∧ x.1 = (t'.face.z, i + (k + 1)) ∧
          hit origin p t' = some x.2 := by
      simp only [List.getElem?_cons_succ, Nat.add_assoc, Nat.add_comm 1]
    constructor
    · intro hx
      rw [ranked] at hx
      split at hx
      · next h hh =>
        rcases List.mem_cons.mp hx with rfl | hx
        · exact ⟨0, t, rfl, rfl, hh⟩
        · obtain ⟨k, t', hk⟩ := htail.mp (ih.mp hx)
          exact ⟨k + 1, t', hk⟩
      · obtain ⟨k, t', hk⟩ := htail.mp (ih.mp hx)
        exact ⟨k + 1, t', hk⟩
    · rintro ⟨k, t', hk, hr, hh⟩
      rw [ranked]
      cases k with
      | zero =>
        cases hk
        rw [hh]
        exact List.mem_cons.mpr (.inl (Prod.ext hr rfl))
      | succ k =>
        have hrest : x ∈ ranked origin p ts (i + 1) := ih.mpr (htail.mpr ⟨k, t', hk, hr, hh⟩)
        split
        · exact List.mem_cons_of_mem _ hrest
        · exact hrest

/-- **Choosing among siblings.** If each sibling's hit is its topmost candidate, the best ranked
of the siblings' hits is the topmost candidate of the forest. -/
theorem bestRanked_ranked_topmost {origin p : Point} {ts : List (Tree α)}
    (h : ∀ (i : Nat) t, ts[i]? = some t → Topmost (t.Candidate p origin) (hit origin p t)) :
    Topmost (ForestCandidate p origin ts) (bestRanked (ranked origin p ts 0)) := by
  -- a tree with a candidate has a hit, so its rank is among those compared
  have hranked : ∀ i t key l, ts[i]? = some t → t.Candidate p origin key l →
      ∃ a, ((t.face.z, i), a) ∈ ranked origin p ts 0 := by
    intro i t key l ht hc
    cases hh : hit origin p t with
    | none =>
      have hnone := h i t ht
      rw [hh] at hnone
      exact absurd hc (hnone key l)
    | some a => exact ⟨a, mem_ranked_iff.mpr ⟨i, t, ht, by simp, hh⟩⟩
  cases hb : bestRanked (ranked origin p ts 0) with
  | none =>
    rintro (_ | ⟨⟨z, i⟩, key⟩) l hc
    · exact hc
    · obtain ⟨t, ht, -, hc⟩ := hc
      obtain ⟨a, ha⟩ := hranked i t _ l ht hc
      rw [bestRanked_eq_none_iff.mp hb] at ha
      cases ha
  | some a =>
    obtain ⟨r, hmem, hmax⟩ := bestRanked_eq_some hb
    obtain ⟨i, t, ht, hr, hh⟩ := mem_ranked_iff.mp hmem
    have htop := h i t ht
    rw [hh] at htop
    obtain ⟨key, hc, hbest⟩ := htop
    refine ⟨(t.face.z, i) :: key, ⟨t, ht, rfl, hc⟩, ?_⟩
    rintro (_ | ⟨⟨z', i'⟩, key'⟩) l' hc'
    · exact absurd hc' id
    obtain ⟨t', ht', rfl, hc'⟩ := hc'
    by_cases hi : i' = i
    · -- the same sibling: its own topmost candidate decides
      subst hi
      rw [ht] at ht'
      cases ht'
      rcases hbest key' l' hc' with ⟨rfl, rfl⟩ | hout
      · exact .inl ⟨rfl, rfl⟩
      · exact .inr (List.Lex.cons hout)
    · -- another sibling: its rank is below the best one's
      obtain ⟨a', ha'⟩ := hranked i' t' key' l' ht' hc'
      have hnot := hmax _ ha'
      simp only [Nat.zero_add] at hr
      rw [hr] at hnot
      rcases eq_or_ranksAbove_of_not hnot with heq | hup
      · simp only [Prod.mk.injEq] at heq
        exact absurd heq.2.symm hi
      · exact .inr (List.Lex.rel hup)

/-- **The hit within a tree is its topmost candidate.** -/
theorem hit_topmost (p origin : Point) : (t : Tree α) → Topmost (t.Candidate p origin) (hit origin p t)
  | .node f cs => by
    have hcs : Topmost (ForestCandidate p (origin + f.position) cs)
        (bestRanked (ranked (origin + f.position) p cs 0)) :=
      bestRanked_ranked_topmost fun i t ht => hit_topmost p (origin + f.position) t
    rw [hit]
    cases hv : f.visible with
    | false =>
      intro key l hc
      rw [candidate_node_iff, hv] at hc
      exact Bool.false_ne_true hc.1
    | true =>
      simp only [Bool.not_true, Bool.false_eq_true, ↓reduceIte]
      cases hb : bestRanked (ranked (origin + f.position) p cs 0) with
      | some a =>
        -- a child's candidate outranks the node itself
        rw [hb] at hcs
        obtain ⟨key, hc, hbest⟩ := hcs
        have hne : key ≠ [] := by
          rintro rfl
          exact hc
        refine ⟨key, candidate_node_iff.mpr ⟨hv, .inr hc⟩, fun key' l' hc' => ?_⟩
        rcases (candidate_node_iff.mp hc').2 with ⟨rfl, -⟩ | hc'
        · obtain ⟨r, rest, rfl⟩ := List.exists_cons_of_ne_nil hne
          exact .inr List.Lex.nil
        · exact hbest key' l' hc'
      | none =>
        -- no child has a candidate; only the node itself can be one
        rw [hb] at hcs
        have honly : ∀ key l, (Tree.node f cs).Candidate p origin key l →
            key = [] ∧ f.interactive = true ∧
              (f.area.shift (origin + f.position)).contains p = true ∧ l = f.label := by
          intro key l hc
          rcases (candidate_node_iff.mp hc).2 with hself | hchild
          · exact hself
          · exact absurd hchild (hcs key l)
        dsimp only
        split
        · next hhit =>
          simp only [Bool.and_eq_true] at hhit
          refine ⟨[], .self hv hhit.1 hhit.2, fun key' l' hc' => ?_⟩
          obtain ⟨rfl, -, -, rfl⟩ := honly key' l' hc'
          exact .inl ⟨rfl, rfl⟩
        · next hmiss =>
          intro key l hc
          obtain ⟨-, hi, hcontains, -⟩ := honly key l hc
          simp [hi, hcontains] at hmiss
termination_by t => t
decreasing_by
  have hmem : t ∈ cs := List.mem_of_getElem? ht
  have := List.sizeOf_lt_of_mem hmem
  simp only [Tree.node.sizeOf_spec]
  omega

end Tree

/-- **Hit testing answers the topmost candidate.** For every forest, origin and point, the hit
test answers nothing exactly when no node is a candidate, and answers `l` exactly when `l` labels
the candidate that outranks every other one: a descendant outranks its ancestors, and otherwise
the higher `(z, index)` wins where the two paths part. -/
theorem hitTest_answers_topmost_candidate {α : Type} (forest : List (Tree α)) (origin p : Point) :
    (hitTest forest origin p = none ↔ ∀ key l, ¬Tree.ForestCandidate p origin forest key l) ∧
      ∀ l, hitTest forest origin p = some l ↔
        ∃ key, Tree.ForestCandidate p origin forest key l ∧
          ∀ key' l', Tree.ForestCandidate p origin forest key' l' →
            (key' = key ∧ l' = l) ∨ Outranks key key' := by
  have htop : Topmost (Tree.ForestCandidate p origin forest) (hitTest forest origin p) :=
    Tree.bestRanked_ranked_topmost fun _ t _ => Tree.hit_topmost p origin t
  refine ⟨⟨fun hnone => ?_, fun hno => ?_⟩, htop.eq_some_iff⟩
  · rw [hnone] at htop
    exact htop
  · cases hr : hitTest forest origin p with
    | none => rfl
    | some l =>
      rw [hr] at htop
      obtain ⟨key, hc, -⟩ := htop
      exact absurd hc (hno key l)

end Proscenium
