/-!
# Handler registries

A registry is an ordered list of handlers, each under a token minted when it was added. Tokens
come from a counter that only goes up, so a token is never handed out twice and the tokens in the
list increase from front to back. Removal goes by token, never by comparing handlers: it erases
the first member found under the token, which is then the only one. The same handler added twice
is two members.

A dispatch calls the members as they stood when it began, in order. Handlers may add and remove
members while a dispatch runs; the dispatch does not see those changes.
-/

namespace Proscenium

/-- An ordered list of handlers under their tokens, and the next token. -/
structure Registry (η : Type) where
  next : Nat
  items : List (Nat × η)
deriving Inhabited

namespace Registry

variable {η : Type}

/-- A registry with no members. -/
def empty : Registry η := ⟨0, []⟩

/-- Append a handler under a fresh token; answer the token. -/
def add (r : Registry η) (h : η) : Nat × Registry η :=
  (r.next, ⟨r.next + 1, r.items ++ [(r.next, h)]⟩)

/-- Remove the first member under `token`, found by a search from the front, answering whether
there was one. -/
def remove (r : Registry η) (token : Nat) : Bool × Registry η :=
  if r.items.any (·.1 == token) then (true, { r with items := r.items.eraseP (·.1 == token) })
  else (false, r)

/-- The members in order. -/
def snapshot (r : Registry η) : List η := r.items.map (·.2)

/-- The number of members. -/
def size (r : Registry η) : Nat := r.items.length

@[simp] theorem snapshot_empty : (empty : Registry η).snapshot = [] := rfl

@[simp] theorem add_fst (r : Registry η) (h : η) : (r.add h).1 = r.next := rfl

@[simp] theorem next_add (r : Registry η) (h : η) : (r.add h).2.next = r.next + 1 := rfl

/-- Adding appends the handler to the members. -/
@[simp] theorem snapshot_add (r : Registry η) (h : η) : (r.add h).2.snapshot = r.snapshot ++ [h] := by
  simp [add, snapshot]

@[simp] theorem size_add (r : Registry η) (h : η) : (r.add h).2.size = r.size + 1 := by
  simp [add, size]

/-- Removal reports whether a member had the token. -/
@[simp] theorem remove_fst (r : Registry η) (token : Nat) :
    (r.remove token).1 = r.items.any (·.1 == token) := by
  unfold remove
  split
  · next h => exact h.symm
  · next h => exact (Bool.eq_false_iff.mpr h).symm

/-- Removal keeps the token counter. -/
@[simp] theorem next_remove (r : Registry η) (token : Nat) : (r.remove token).2.next = r.next := by
  unfold remove; split <;> rfl

/-- Removal erases the first member under the token, if there is one. -/
theorem items_remove (r : Registry η) (token : Nat) :
    (r.remove token).2.items = r.items.eraseP (·.1 == token) := by
  unfold remove
  split
  · rfl
  · next h =>
    rw [Bool.not_eq_true, List.any_eq_false] at h
    exact (List.eraseP_of_forall_not h).symm

end Registry

end Proscenium
