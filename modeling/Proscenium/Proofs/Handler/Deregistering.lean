import Proscenium.Handler.Registration

/-!
# Deregistering a bundle

Deregistering a bundle runs its removals one after another, whatever each answers. So the world
it leaves is the one the removals make of it in push order, each run once, and the `k`-th removal
meets the world the `k` before it made (`Bundle.reached`). The answer is the first fault a
removal answers, or `ok` when none fails: `removeAll_eq_ok_iff` and `removeAll_eq_error_iff` say
so position by position. The bundle is then empty, so deregistering it again runs nothing; a
scoped bundle dropped runs what it still holds the same way, a plain one runs nothing.
-/

namespace Proscenium

namespace Bundle

variable {ρ σ : Type} (remove : σ → Registration ρ → σ × Except Fault Unit)

/-- The world the removal of `gs[k]` meets: what the removals before it made of `w`, in order. -/
def reached (w : σ) (gs : List (Registration ρ)) (k : Nat) : σ :=
  (gs.take k).foldl (fun w g => (remove w g).1) w

@[simp] theorem reached_zero (w : σ) (gs : List (Registration ρ)) : reached remove w gs 0 = w := rfl

@[simp] theorem reached_cons_succ (w : σ) (g : Registration ρ) (gs : List (Registration ρ)) (k : Nat) :
    reached remove w (g :: gs) (k + 1) = reached remove (remove w g).1 gs k := rfl

/-! ## One removal, then the rest -/

section Cons

variable {remove} {w : σ} {g : Registration ρ} {gs : List (Registration ρ)}

theorem removeAll_cons_fst (w : σ) (g : Registration ρ) (gs : List (Registration ρ)) :
    (removeAll remove w (g :: gs)).1 = (removeAll remove (remove w g).1 gs).1 := rfl

/-- After a removal that succeeds, the answer is what the rest answer. -/
theorem removeAll_cons_of_ok (h : (remove w g).2 = .ok ()) :
    (removeAll remove w (g :: gs)).2 = (removeAll remove (remove w g).1 gs).2 := by
  simp only [removeAll, h]

/-- After a removal that fails, the answer is its fault, whatever the rest answer. -/
theorem removeAll_cons_of_error {f : Fault} (h : (remove w g).2 = .error f) :
    (removeAll remove w (g :: gs)).2 = .error f := by
  simp only [removeAll, h]

end Cons

/-! ## The world and the answer -/

/-- Every removal runs once, in order, also after one fails. -/
theorem removeAll_fst (w : σ) (gs : List (Registration ρ)) :
    (removeAll remove w gs).1 = gs.foldl (fun w g => (remove w g).1) w := by
  induction gs generalizing w with
  | nil => rfl
  | cons g gs ih => rw [removeAll_cons_fst, ih, List.foldl_cons]

/-- The removals answer `ok` together exactly when each answers `ok` in the world it meets. -/
theorem removeAll_eq_ok_iff (w : σ) (gs : List (Registration ρ)) :
    (removeAll remove w gs).2 = .ok () ↔
      ∀ k (hk : k < gs.length), (remove (reached remove w gs k) gs[k]).2 = .ok () := by
  induction gs generalizing w with
  | nil => exact ⟨fun _ k hk => absurd hk (Nat.not_lt_zero k), fun _ => rfl⟩
  | cons g gs ih =>
    cases hg : (remove w g).2 with
    | error f =>
      -- the first removal fails, so neither side holds
      rw [removeAll_cons_of_error hg]
      refine ⟨fun h => (nomatch h), fun h => ?_⟩
      have h0 : (remove w g).2 = .ok () := h 0 (Nat.succ_pos _)
      rw [hg] at h0
      cases h0
    | ok u =>
      rw [removeAll_cons_of_ok hg, ih]
      constructor
      · intro h k hk
        cases k with
        | zero => exact hg
        | succ k => exact h k (Nat.lt_of_succ_lt_succ hk)
      · intro h k hk
        exact h (k + 1) (Nat.succ_lt_succ hk)

/-- The removals answer a fault exactly when some removal answers it in the world it meets and
every removal before it answered `ok`: the answer is the first fault. -/
theorem removeAll_eq_error_iff (w : σ) (gs : List (Registration ρ)) (f : Fault) :
    (removeAll remove w gs).2 = .error f ↔
      ∃ k, ∃ hk : k < gs.length, (remove (reached remove w gs k) gs[k]).2 = .error f ∧
        ∀ j (hj : j < k), (remove (reached remove w gs j) gs[j]).2 = .ok () := by
  induction gs generalizing w with
  | nil => exact ⟨fun h => (nomatch h), fun ⟨k, hk, _⟩ => absurd hk (Nat.not_lt_zero k)⟩
  | cons g gs ih =>
    cases hg : (remove w g).2 with
    | error f' =>
      -- the first removal fails: its fault is the answer, and it is the first
      rw [removeAll_cons_of_error hg]
      constructor
      · intro h
        cases h
        exact ⟨0, Nat.succ_pos _, hg, fun j hj => absurd hj (Nat.not_lt_zero j)⟩
      · rintro ⟨k, hk, hkf, hbefore⟩
        cases k with
        | zero =>
          have h0 : (remove w g).2 = .error f := hkf
          rwa [hg] at h0
        | succ k =>
          have h0 : (remove w g).2 = .ok () := hbefore 0 (Nat.succ_pos k)
          rw [hg] at h0
          cases h0
    | ok u =>
      -- the first removal succeeds: the first fault is among the rest
      rw [removeAll_cons_of_ok hg, ih]
      constructor
      · rintro ⟨k, hk, hkf, hbefore⟩
        refine ⟨k + 1, Nat.succ_lt_succ hk, hkf, fun j hj => ?_⟩
        cases j with
        | zero => exact hg
        | succ j => exact hbefore j (Nat.lt_of_succ_lt_succ hj)
      · rintro ⟨k, hk, hkf, hbefore⟩
        cases k with
        | zero =>
          have h0 : (remove w g).2 = .error f := hkf
          rw [hg] at h0
          cases h0
        | succ k =>
          exact ⟨k, Nat.lt_of_succ_lt_succ hk, hkf,
            fun j hj => hbefore (j + 1) (Nat.succ_lt_succ hj)⟩

/-- An empty bundle deregisters without running anything. -/
theorem deregisterAll_of_items_nil (w : σ) {b : Bundle ρ} (hb : b.items = []) :
    deregisterAll remove w b = (w, .ok (), b) := by
  cases b
  cases hb
  rfl

/-! ## Deregistering and dropping -/

/-- Deregistering a bundle, whatever its removals answer, runs every removal it holds exactly
once and in push order, also after one fails: the world it leaves is what the removals make of
it one after another. It answers the first fault, the removals before it having answered `ok`,
and `ok` when every removal does. It leaves the bundle empty, still scoped or not as before, so
deregistering again runs nothing and answers `ok`. Dropping a scoped bundle runs the removals it
still holds in the same way; dropping a plain one runs none. -/
theorem deregister_all_runs_each_removal_once (w : σ) (b : Bundle ρ) :
    (deregisterAll remove w b).1 = b.items.foldl (fun w g => (remove w g).1) w ∧
    ((deregisterAll remove w b).2.1 = .ok () ↔
      ∀ k (hk : k < b.items.length), (remove (reached remove w b.items k) b.items[k]).2 = .ok ()) ∧
    (∀ f, (deregisterAll remove w b).2.1 = .error f ↔
      ∃ k, ∃ hk : k < b.items.length,
        (remove (reached remove w b.items k) b.items[k]).2 = .error f ∧
        ∀ j (hj : j < k), (remove (reached remove w b.items j) b.items[j]).2 = .ok ()) ∧
    (deregisterAll remove w b).2.2 = { b with items := [] } ∧
    (∀ w', deregisterAll remove w' (deregisterAll remove w b).2.2 =
      (w', .ok (), (deregisterAll remove w b).2.2)) ∧
    release remove w b = if b.removeOnDrop then b.items.foldl (fun w g => (remove w g).1) w else w :=
  ⟨removeAll_fst remove w b.items, removeAll_eq_ok_iff remove w b.items,
    removeAll_eq_error_iff remove w b.items, rfl,
    fun w' => deregisterAll_of_items_nil remove w' (items_deregisterAll remove w b),
    by rw [release, removeAll_fst]⟩

end Bundle

end Proscenium
