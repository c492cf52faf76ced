import Mathlib
import Proscenium.Table.Place

/-!
# The row layout, read exactly

`rowLayoutIn` is written over any `LayoutNumber`; doubles run it. Read in the reals, every
operation exact, it is the layout its constants describe. With a window `w × h` and `n ≥ 1`
cards of aspect `a`, all positive, and `W` the least of the height cap `0.35 · h · a`, the width
cap `0.2 · w` and the fit `0.9 · w / (n + 0.03 · (n - 1))`:

* there are `n` places, each `W` wide and `W / a` tall with its top at `(h - W / a) / 2`;
* each card starts `1.03 · W` after the one before, so neighbours keep a gap of `0.03 · W`;
* the row is centred (the first left edge plus the last right edge is `w`) and stays within
  margins of `0.05 · w` on either side.

`rowLayoutIn_real` is the layout in closed form, with `W` named; the three properties follow
from it and from `W · (n + 0.03 · (n - 1)) ≤ 0.9 · w` (`cardWidth_mul_span_le`). No cards, or an
aspect at most zero, give no places.
-/

namespace Proscenium

/-- The exact reading of the layout: its formulas in the reals. -/
noncomputable instance : LayoutNumber ℝ where
  ofNat n := n
  min := Min.min
  decLe := inferInstance

@[simp] theorem LayoutNumber.ofNat_real (k : Nat) : (LayoutNumber.ofNat k : ℝ) = k := rfl
@[simp] theorem LayoutNumber.min_real (x y : ℝ) : LayoutNumber.min x y = Min.min x y := rfl

@[simp] theorem boundaryFraction_real : (boundaryFraction : ℝ) = 0.05 := rfl
@[simp] theorem spacingFraction_real : (spacingFraction : ℝ) = 0.03 := rfl
@[simp] theorem maxCardWidthFraction_real : (maxCardWidthFraction : ℝ) = 0.2 := rfl
@[simp] theorem maxCardHeightFraction_real : (maxCardHeightFraction : ℝ) = 0.35 := rfl

section Exact

variable {w h a : ℝ} {n : Nat}

/-- A row that is laid out, in closed form: card `i` starts `i · 1.03 · W` after the first, which
starts half the slack `w - W · (n + 0.03 · (n - 1))` in from the left. -/
theorem rowLayoutIn_real {W : ℝ} (hn : n ≠ 0) (ha : 0 < a)
    (hW : W = min (min (0.35 * h * a) (0.2 * w)) (0.9 * w / (n + 0.03 * (n - 1)))) :
    rowLayoutIn w h n a = (List.range n).map fun i : Nat =>
      (⟨(w - W * (n + 0.03 * (n - 1))) / 2 + i * (1.03 * W), (h - W / a) / 2, W, W / a⟩ :
        Place ℝ) := by
  unfold rowLayoutIn
  have hna : ¬(n = 0 || a ≤ LayoutNumber.ofNat 0) = true := by
    simp [hn, not_le.mpr ha]
  rw [if_neg hna]
  simp only [LayoutNumber.ofNat_real, LayoutNumber.min_real, boundaryFraction_real,
    spacingFraction_real, maxCardWidthFraction_real, maxCardHeightFraction_real, Nat.cast_ofNat,
    Nat.cast_one]
  have e₁ : a * (h * 0.35) = 0.35 * h * a := by ring
  have e₂ : w * 0.2 = 0.2 * w := by ring
  have e₃ : (w - 2 * w * 0.05) / (n + (n - 1) * 0.03) = 0.9 * w / (n + 0.03 * (n - 1)) := by ring_nf
  -- the definition's three bounds are the statement's, written in another order
  rw [e₁, e₂, e₃, ← hW]
  refine List.map_congr_left fun i _ => ?_
  rw [Place.mk.injEq]
  exact ⟨by ring, by ring, rfl, rfl⟩


theorem rowLayoutIn_zero (w h a : ℝ) : rowLayoutIn w h 0 a = [] := by
  simp [rowLayoutIn]

theorem rowLayoutIn_of_nonpos (w h : ℝ) (n : Nat) {a : ℝ} (ha : a ≤ 0) :
    rowLayoutIn w h n a = [] := by
  simp [rowLayoutIn, ha]

/-- The row's span in card widths, `n` cards and `n - 1` gaps, is at least one card. -/
theorem one_le_span (hn : 1 ≤ n) : (1 : ℝ) ≤ n + 0.03 * (n - 1) := by
  have : (1 : ℝ) ≤ n := by exact_mod_cast hn
  linarith

/-- The common width is positive: each of the three bounds is. -/
theorem cardWidth_pos {W : ℝ} (hw : 0 < w) (hh : 0 < h) (hn : 1 ≤ n) (ha : 0 < a)
    (hW : W = min (min (0.35 * h * a) (0.2 * w)) (0.9 * w / (n + 0.03 * (n - 1)))) : 0 < W := by
  have hspan := one_le_span hn
  rw [hW]
  exact lt_min (lt_min (by positivity) (by positivity)) (div_pos (by positivity) (by linarith))

/-- The row fits the width between the margins: `n` cards and their gaps take at most 90%. -/
theorem cardWidth_mul_span_le {W : ℝ} (hn : 1 ≤ n)
    (hW : W = min (min (0.35 * h * a) (0.2 * w)) (0.9 * w / (n + 0.03 * (n - 1)))) :
    W * (n + 0.03 * (n - 1)) ≤ 0.9 * w := by
  have hspan := one_le_span hn
  have hle : W ≤ 0.9 * w / (n + 0.03 * (n - 1)) := hW ▸ min_le_right _ _
  exact (le_div_iff₀ (by linarith)).mp hle

end Exact

/-- **The row layout, read exactly.** No cards, or an aspect at most zero, give no places. For a
window `w × h` and `n ≥ 1` cards of aspect `a`, all positive, the common width `W` is the least of
the height cap, the width cap and the fit; the layout gives `n` places, each `W` wide and `W / a`
tall with its top at `(h - W / a) / 2`; neighbours start `1.03 · W` apart, so they never overlap;
the row is centred, and stays within margins of 5% of the width. -/
theorem row_layout_centres_equal_cards_between_the_margins :
    (∀ w h a : ℝ, rowLayoutIn w h 0 a = []) ∧
    (∀ (w h a : ℝ) (n : Nat), a ≤ 0 → rowLayoutIn w h n a = []) ∧
    (∀ (w h a : ℝ) (n : Nat), 0 < w → 0 < h → 1 ≤ n → 0 < a →
      ∃ W : ℝ, W = min (min (0.35 * h * a) (0.2 * w)) (0.9 * w / (n + 0.03 * (n - 1))) ∧ 0 < W ∧
        (rowLayoutIn w h n a).length = n ∧
        (∀ p ∈ rowLayoutIn w h n a, p.width = W ∧ p.height = W / a ∧ p.top = (h - W / a) / 2) ∧
        (∀ (i : Nat) (p q : Place ℝ), (rowLayoutIn w h n a)[i]? = some p →
          (rowLayoutIn w h n a)[i + 1]? = some q →
          q.left = p.left + 1.03 * W ∧ p.left + p.width < q.left) ∧
        ∃ first last, (rowLayoutIn w h n a).head? = some first ∧
          (rowLayoutIn w h n a).getLast? = some last ∧
          first.left + last.left + W = w ∧ 0.05 * w ≤ first.left ∧ last.left + W ≤ 0.95 * w) := by
  refine ⟨rowLayoutIn_zero, fun w h a n ha => rowLayoutIn_of_nonpos w h n ha, ?_⟩
  intro w h a n hw hh hn ha
  set W := min (min (0.35 * h * a) (0.2 * w)) (0.9 * w / (n + 0.03 * (n - 1))) with hW
  have hpos := cardWidth_pos hw hh hn ha hW
  have hfit := cardWidth_mul_span_le (h := h) (a := a) hn hW
  rw [rowLayoutIn_real (by omega) ha hW]
  refine ⟨W, rfl, hpos, by simp, ?_, ?_, ?_⟩
  · intro p hp
    obtain ⟨i, -, rfl⟩ := List.mem_map.mp hp
    exact ⟨rfl, rfl, rfl⟩
  · intro i p q hp hq
    simp only [List.getElem?_map] at hp hq
    obtain ⟨k, hk, rfl⟩ := Option.map_eq_some_iff.mp hq
    obtain ⟨j, hj, rfl⟩ := Option.map_eq_some_iff.mp hp
    -- both places are in the row, so they are cards `i` and `i + 1`
    have hlt : i + 1 < n := by
      by_contra hge
      rw [List.getElem?_eq_none (by simpa using hge)] at hk
      cases hk
    rw [List.getElem?_range hlt, Option.some.injEq] at hk
    rw [List.getElem?_range (by omega), Option.some.injEq] at hj
    subst hj hk
    push_cast
    constructor
    · ring
    · linarith
  · -- the first card is card 0 and the last card `n - 1`
    have hlast : ((n - 1 : ℕ) : ℝ) = n - 1 := by rw [Nat.cast_sub hn, Nat.cast_one]
    refine ⟨_, _, by rw [List.head?_map, List.head?_range, if_neg (by omega)]; rfl,
      by rw [List.getLast?_map, List.getLast?_range, if_neg (by omega)]; rfl, ?_, ?_, ?_⟩
    all_goals simp only [hlast, Nat.cast_zero]
    · ring
    · linarith
    · linarith

/-- Four cards of aspect `250 / 350` in a `1000 × 600` window. -/
theorem row_of_four_cards_in_a_wide_window :
    ∃ W : ℝ, W = min (min (0.35 * 600 * (250 / 350)) (0.2 * 1000))
        (0.9 * 1000 / (((4 : Nat) : ℝ) + 0.03 * (((4 : Nat) : ℝ) - 1))) ∧ 0 < W ∧
      (rowLayoutIn (1000 : ℝ) 600 4 (250 / 350)).length = 4 ∧
      (∀ p ∈ rowLayoutIn (1000 : ℝ) 600 4 (250 / 350),
        p.width = W ∧ p.height = W / (250 / 350) ∧ p.top = (600 - W / (250 / 350)) / 2) ∧
      (∀ (i : Nat) (p q : Place ℝ), (rowLayoutIn (1000 : ℝ) 600 4 (250 / 350))[i]? = some p →
        (rowLayoutIn (1000 : ℝ) 600 4 (250 / 350))[i + 1]? = some q →
        q.left = p.left + 1.03 * W ∧ p.left + p.width < q.left) ∧
      ∃ first last, (rowLayoutIn (1000 : ℝ) 600 4 (250 / 350)).head? = some first ∧
        (rowLayoutIn (1000 : ℝ) 600 4 (250 / 350)).getLast? = some last ∧
        first.left + last.left + W = 1000 ∧ 0.05 * 1000 ≤ first.left ∧
        last.left + W ≤ 0.95 * 1000 :=
  row_layout_centres_equal_cards_between_the_margins.2.2 1000 600 (250 / 350) 4
    (by norm_num) (by norm_num) (by norm_num) (by norm_num)

end Proscenium
