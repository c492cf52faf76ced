import Proscenium.Handler.Registry

/-!
# Tokens of a registry

However a registry is added to and removed from, its tokens increase from front to back and
stay below its counter (`Registry.WellFormed`). So the token an addition hands out is new, even
when the handler is already a member, and removing a token takes out exactly the one member
under it, keeping the others in their order.
-/

namespace Proscenium

namespace Registry

variable {η : Type} {r : Registry η}

/-- The members' tokens, front to back. -/
def tokens (r : Registry η) : List Nat := r.items.map Prod.fst

/-- Tokens increase from front to back and are all below the counter. -/
structure WellFormed (r : Registry η) : Prop where
  sorted : r.tokens.Pairwise (· < ·)
  below : ∀ i ∈ r.tokens, i < r.next

@[simp] theorem items_add (r : Registry η) (h : η) : (r.add h).2.items = r.items ++ [(r.next, h)] :=
  rfl

@[simp] theorem tokens_add (r : Registry η) (h : η) : (r.add h).2.tokens = r.tokens ++ [r.next] := by
  simp [tokens]

/-- Removal erases the first occurrence of the token among the tokens. -/
theorem tokens_remove (r : Registry η) (i : Nat) : (r.remove i).2.tokens = r.tokens.erase i := by
  rw [tokens, items_remove, tokens, List.erase_eq_eraseP, List.eraseP_map]
  congr 2
  funext p
  exact BEq.comm

theorem wellFormed_empty : (empty : Registry η).WellFormed :=
  ⟨List.Pairwise.nil, by simp [tokens, empty]⟩

/-- Adding keeps the tokens increasing: the new one is the counter, above all others. -/
theorem WellFormed.add (hr : r.WellFormed) (h : η) : (r.add h).2.WellFormed := by
  constructor
  · rw [tokens_add, List.pairwise_append]
    refine ⟨hr.sorted, List.pairwise_singleton _ _, fun i hi j hj => ?_⟩
    rw [List.mem_singleton] at hj
    exact hj ▸ hr.below i hi
  · intro i hi
    rw [tokens_add, List.mem_append, List.mem_singleton] at hi
    rw [next_add]
    rcases hi with hi | rfl
    · exact Nat.lt_succ_of_lt (hr.below i hi)
    · exact Nat.lt_succ_self _

theorem WellFormed.remove (hr : r.WellFormed) (i : Nat) : (r.remove i).2.WellFormed := by
  constructor
  · rw [tokens_remove]
    exact hr.sorted.sublist List.erase_sublist
  · intro j hj
    rw [tokens_remove] at hj
    rw [next_remove]
    exact hr.below j (List.mem_of_mem_erase hj)

/-- Tokens increasing from front to back are never repeated, so removing a token leaves no
member under it. -/
theorem WellFormed.not_mem_tokens_remove (hr : r.WellFormed) (i : Nat) :
    i ∉ (r.remove i).2.tokens := by
  rw [tokens_remove]
  exact List.Nodup.not_mem_erase (hr.sorted.imp Nat.ne_of_lt)

/-- The token an addition hands out belongs to no member. -/
theorem WellFormed.next_not_mem (hr : r.WellFormed) : r.next ∉ r.tokens :=
  fun h => Nat.lt_irrefl _ (hr.below _ h)

/-- Removing a token that no member has changes nothing. -/
theorem remove_of_not_mem {i : Nat} (h : i ∉ r.tokens) : r.remove i = (false, r) := by
  have hany : r.items.any (·.1 == i) = false := by
    rw [List.any_eq_false]
    intro p hp heq
    exact h (List.mem_map.mpr ⟨p, hp, by simpa using heq⟩)
  simp [remove, hany]

/-- A member's token is above the tokens before it and below those after it. -/
theorem WellFormed.tokens_around (hr : r.WellFormed) {i : Nat} {x : η} {pre post : List (Nat × η)}
    (h : r.items = pre ++ (i, x) :: post) : (∀ p ∈ pre, p.1 < i) ∧ ∀ p ∈ post, i < p.1 := by
  have hsorted := hr.sorted
  rw [tokens, h, List.map_append, List.map_cons, List.pairwise_append, List.pairwise_cons] at hsorted
  obtain ⟨-, ⟨hafter, -⟩, hbefore⟩ := hsorted
  exact ⟨fun p hp => hbefore p.1 (List.mem_map_of_mem hp) i List.mem_cons_self,
    fun p hp => hafter p.1 (List.mem_map_of_mem hp)⟩

/-- Removing the token of a member takes out exactly that member: the members before it and
after it stay, in order. The search from the front meets no other member under the token
first, since the tokens before it are smaller. -/
theorem WellFormed.items_remove_eq (hr : r.WellFormed) {i : Nat} {x : η}
    {pre post : List (Nat × η)} (h : r.items = pre ++ (i, x) :: post) :
    (r.remove i).2.items = pre ++ post := by
  have hbefore := (hr.tokens_around h).1
  rw [items_remove, h, List.eraseP_append_right _ fun p hp => ?_,
    List.eraseP_cons_of_pos (p := fun q : Nat × η => q.1 == i) (beq_self_eq_true i)]
  have := hbefore p hp
  simp only [beq_iff_eq]
  omega

/-- `r'` is `r` after some additions and removals, in order. -/
inductive Evolves : Registry η → Registry η → Prop
  | refl (r : Registry η) : Evolves r r
  | add {r r' : Registry η} (h : η) : Evolves r r' → Evolves r (r'.add h).2
  | remove {r r' : Registry η} (i : Nat) : Evolves r r' → Evolves r (r'.remove i).2

namespace Evolves

variable {r r' r'' : Registry η}

theorem trans (h₁ : Evolves r r') (h₂ : Evolves r' r'') : Evolves r r'' := by
  induction h₂ with
  | refl => exact h₁
  | add h _ ih => exact .add h ih
  | remove i _ ih => exact .remove i ih

theorem wellFormed (he : Evolves r r') (hr : r.WellFormed) : r'.WellFormed := by
  induction he with
  | refl => exact hr
  | add h _ ih => exact ih.add h
  | remove i _ ih => exact ih.remove i

theorem next_le (he : Evolves r r') : r.next ≤ r'.next := by
  induction he with
  | refl => exact Nat.le_refl _
  | add _ _ ih =>
    rw [next_add]
    exact Nat.le_succ_of_le ih
  | remove _ _ ih =>
    rw [next_remove]
    exact ih

/-- A token handed out before and no longer a member never comes back: later additions hand
out tokens from the counter, which is past it. -/
theorem not_mem (he : Evolves r r') {i : Nat} (hi : i < r.next) (hn : i ∉ r.tokens) :
    i ∉ r'.tokens := by
  induction he with
  | refl => exact hn
  | @add r₂ h he ih =>
    have hlt : i < r₂.next := Nat.lt_of_lt_of_le hi he.next_le
    rw [tokens_add, List.mem_append, List.mem_singleton]
    rintro (hm | rfl)
    · exact ih hm
    · exact Nat.lt_irrefl _ hlt
  | remove j _ ih =>
    rw [tokens_remove]
    exact fun hm => ih (List.mem_of_mem_erase hm)

end Evolves

end Registry

end Proscenium
