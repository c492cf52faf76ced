import Proscenium.Proofs.Handler.Tokens

/-!
# A registry's history

A registry changes in two ways only: an insertion appends a handler under the counter's token and
bumps the counter, and a removal erases the first member under a token. Over any history of these
from an empty registry:

* the counter is the number of insertions so far, so the `n`-th insertion (counting from 0)
  hands out token `n`, and a member under token `n` is the handler that insertion brought
  (`Records`);
* the tokens increase from front to back and stay below the counter (`WellFormed`), so the next
  insertion hands out a token no member has, even when its handler is a member already;
* a removal, which erases the first member found under its token, therefore takes out at most
  one member, the one under its token if it is still there, keeps the others in their order, and
  answers whether it took one out (`WellFormed.remove_cases`).

Tokens are 64-bit words, and bumping the counter past the last word aborts. The counter counts
the insertions, so with fewer than `2^64` of them it never gets there, and the unbounded counter
here hands out the same tokens.
-/

namespace Proscenium

namespace Registry

variable {η : Type}

/-- One change to a registry's members. -/
inductive Op (η : Type) where
  | insert (h : η)
  | remove (token : Nat)

/-- The handler an operation inserts, if it is an insertion. -/
def Op.inserts : Op η → Option η
  | .insert h => some h
  | .remove _ => none

/-- Make one change, leaving aside what it answers. -/
def apply (r : Registry η) : Op η → Registry η
  | .insert h => (r.add h).2
  | .remove i => (r.remove i).2

/-- Make changes one after another. -/
def run (r : Registry η) (ops : List (Op η)) : Registry η := ops.foldl apply r

/-- The handlers a history inserts, in order. -/
def inserted (ops : List (Op η)) : List η := ops.filterMap Op.inserts

@[simp] theorem run_nil (r : Registry η) : r.run [] = r := rfl

@[simp] theorem run_cons (r : Registry η) (op : Op η) (ops : List (Op η)) :
    r.run (op :: ops) = (r.apply op).run ops := rfl

@[simp] theorem apply_insert (r : Registry η) (h : η) : r.apply (.insert h) = (r.add h).2 := rfl

@[simp] theorem apply_remove (r : Registry η) (i : Nat) : r.apply (.remove i) = (r.remove i).2 := rfl

@[simp] theorem inserted_nil : inserted ([] : List (Op η)) = [] := rfl

@[simp] theorem inserted_insert (h : η) (ops : List (Op η)) :
    inserted (.insert h :: ops) = h :: inserted ops := rfl

@[simp] theorem inserted_remove (i : Nat) (ops : List (Op η)) :
    inserted (.remove i :: ops) = inserted ops := rfl

/-! ## Tokens name insertions -/

/-- `r` holds handlers of `hs`, the handlers inserted so far: the counter is their number, and a
member under token `n` is `hs[n]`. -/
structure Records (r : Registry η) (hs : List η) : Prop where
  next_eq : r.next = hs.length
  member : ∀ n x, (n, x) ∈ r.items → hs[n]? = some x

section Records

variable {r : Registry η} {hs : List η}

theorem records_empty : (empty : Registry η).Records [] :=
  ⟨rfl, fun _ _ h => nomatch h⟩

/-- An insertion hands out the token that names it in the list of insertions. -/
theorem Records.add (hr : r.Records hs) (h : η) : (r.add h).2.Records (hs ++ [h]) := by
  refine ⟨by rw [next_add, hr.next_eq, List.length_append, List.length_singleton], ?_⟩
  intro n x hx
  rw [items_add, List.mem_append, List.mem_singleton] at hx
  rcases hx with hx | hx
  · have hn := hr.member n x hx
    -- a member's token is a position in the list, so appending keeps what it names
    have hlt : n < hs.length := (List.getElem?_eq_some_iff.mp hn).1
    rw [List.getElem?_append_left hlt, hn]
  · cases hx
    rw [hr.next_eq, List.getElem?_append_right (Nat.le_refl _), Nat.sub_self]
    rfl

theorem Records.remove (hr : r.Records hs) (i : Nat) : (r.remove i).2.Records hs := by
  refine ⟨by rw [next_remove, hr.next_eq], fun n x hx => ?_⟩
  rw [items_remove] at hx
  exact hr.member n x (List.eraseP_sublist.subset hx)

/-- Over a whole history, the counter counts the insertions and every member is the handler its
token's insertion brought. -/
theorem Records.run (hr : r.Records hs) (ops : List (Op η)) :
    (r.run ops).Records (hs ++ inserted ops) := by
  induction ops generalizing r hs with
  | nil => simpa using hr
  | cons op ops ih =>
    cases op with
    | insert h =>
      have := ih (hr.add h)
      rwa [List.append_assoc, List.singleton_append] at this
    | remove i => exact ih (hr.remove i)

end Records

/-! ## Tokens stay increasing -/

section WellFormed

variable {r : Registry η}

theorem WellFormed.apply (hr : r.WellFormed) : (op : Op η) → (r.apply op).WellFormed
  | .insert h => hr.add h
  | .remove i => hr.remove i

theorem WellFormed.run (hr : r.WellFormed) (ops : List (Op η)) : (r.run ops).WellFormed := by
  induction ops generalizing r with
  | nil => exact hr
  | cons op ops ih => exact ih (hr.apply op)

/-- Removal in a well-formed registry: either a member is under the token, and removal takes out
exactly that one, the members before and after it staying in order, keeps the counter and
answers `true`; or none is, and removal answers `false` and changes nothing. -/
theorem WellFormed.remove_cases (hr : r.WellFormed) (i : Nat) :
    (∃ pre x post, r.items = pre ++ (i, x) :: post ∧ (r.remove i).1 = true ∧
      (r.remove i).2.next = r.next ∧ (r.remove i).2.items = pre ++ post) ∨
    (i ∉ r.tokens ∧ r.remove i = (false, r)) := by
  by_cases hi : i ∈ r.tokens
  · obtain ⟨⟨j, x⟩, hmem, hj⟩ := List.mem_map.mp hi
    cases hj
    obtain ⟨pre, post, hsplit⟩ := List.append_of_mem hmem
    have hany : r.items.any (·.1 == j) = true := List.any_eq_true.mpr ⟨(j, x), hmem, beq_self_eq_true j⟩
    exact .inl ⟨pre, x, post, hsplit, by rw [remove_fst, hany], next_remove r j,
      hr.items_remove_eq hsplit⟩
  · exact .inr ⟨hi, remove_of_not_mem hi⟩

end WellFormed

/-! ## Histories from an empty registry -/

/-- Over any history of insertions and removals from an empty registry with fewer than `2^64`
insertions, the tokens increase from front to back and stay below the counter, which counts the
insertions and so stays below `2^64`. The next insertion hands out the counter's token, which no
member has. Removing a token keeps the counter and erases the first member under it: if a member
is under it, exactly that one, the handler the insertion of that token brought, goes, the others
keep their order, and the removal answers `true`; otherwise it answers `false` and changes
nothing. -/
theorem registry_history_keeps_tokens_unique (ops : List (Op η))
    (hops : (inserted ops).length < Nat.pow 2 64) :
    let r := empty.run ops
    (r.tokens.Pairwise (· < ·) ∧ ∀ i ∈ r.tokens, i < r.next) ∧
    r.next = (inserted ops).length ∧ r.next < Nat.pow 2 64 ∧
    (∀ h, (r.add h).1 = (inserted ops).length ∧ (r.add h).1 ∉ r.tokens) ∧
    ∀ i, (r.remove i).2.next = r.next ∧ (r.remove i).2.items = r.items.eraseP (·.1 == i) ∧
      ((∃ pre x post, r.items = pre ++ (i, x) :: post ∧ (inserted ops)[i]? = some x ∧
          (r.remove i).1 = true ∧ (r.remove i).2.items = pre ++ post) ∨
        (i ∉ r.tokens ∧ (r.remove i).1 = false ∧ (r.remove i).2 = r)) := by
  intro r
  have hw : r.WellFormed := wellFormed_empty.run ops
  have hrec : r.Records (inserted ops) := by
    simpa using records_empty.run ops
  refine ⟨⟨hw.sorted, hw.below⟩, hrec.next_eq, hrec.next_eq ▸ hops,
    fun h => ⟨hrec.next_eq, hw.next_not_mem⟩, fun i => ⟨next_remove r i,
      items_remove r i, ?_⟩⟩
  rcases hw.remove_cases i with ⟨pre, x, post, hsplit, hans, -, hitems⟩ | ⟨hi, hrm⟩
  · -- the member under the token is the one its insertion brought
    have hx : (i, x) ∈ r.items := hsplit ▸ List.mem_append_right pre List.mem_cons_self
    exact .inl ⟨pre, x, post, hsplit, hrec.member i x hx, hans, hitems⟩
  · exact .inr ⟨hi, by rw [hrm], by rw [hrm]⟩

theorem registry_history_removes_one_of_a_handler_inserted_twice :
    (inserted [Op.insert 5, .insert 5]).length < Nat.pow 2 64 ∧
      (empty.run [Op.insert 5, .insert 5]).items = [(0, 5), (1, 5)] ∧
      ((empty.run [Op.insert 5, .insert 5]).remove 0).2.items = [(1, 5)] :=
  ⟨by decide, rfl,
    ((registry_history_keeps_tokens_unique [Op.insert 5, .insert 5] (by decide)).2.2.2.2 0).2.1⟩

end Registry

end Proscenium
