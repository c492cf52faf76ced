import Proscenium.Proofs.Double.Bits

/-!
# Rounding to nearest

The model rounds a value it has computed to more bits than a double holds: a mantissa `q` at an
exponent `T`, with an `Accuracy` telling where the dropped bits lay (nothing, below half a unit,
exactly half, above half). `roundWithAccuracy` shifts the mantissa right to the exponent the
format wants for the value, folding what it shifts out into the accuracy, and rounds to nearest,
ties to even.

This module gives that procedure its meaning over the rationals. `Represents em y` says an
extended mantissa stands for `y ≥ 0`: its mantissa is the whole part of `y`, and its round and
sticky bits say where the rest lies (`accuracyOf`). Shifting right one bit halves what is
represented (`Represents.shiftRightOne`), so a whole shift divides it by a power of two
(`Represents.shiftRight`). Hence the rounded result depends only on the exact value `X`, as long
as the computed mantissa starts at or below the exponent `X` is rounded at
(`roundWithAccuracy_eq_rn`): it is `rn s X`, `X`'s own expansion at that exponent, rounded.

From the least subnormal up to `2^1023`, `rn s X` is a finite double in canonical form
(`rn_cases`), standing for `rounded X`, and rounding is monotone (`rounded_mono`). A canonical
value rounds to itself (`rn_canonical`), and rounding a mantissa at an exponent is rounding the
value they stand for (`round_eq_rn`).
-/

namespace Proscenium.Double

open Float.Model Float.Model.UnpackedFloat

/-! ## Accuracy as the fraction it stands for -/

/-- Where a fraction `f ∈ [0, 1)` lies: at zero, below one half, at one half, or above. -/
def accuracyOf (f : ℚ) : Accuracy :=
  if f = 0 then .exact
  else if 2 * f < 1 then .inexact .lt
  else if 2 * f = 1 then .inexact .eq
  else .inexact .gt

theorem accuracyOf_zero : accuracyOf 0 = .exact := by
  simp [accuracyOf]

theorem accuracyOf_eq_exact_iff (f : ℚ) : accuracyOf f = .exact ↔ f = 0 := by
  unfold accuracyOf
  split_ifs <;> simp_all

theorem accuracyOf_of_lt_half {f : ℚ} (h0 : 0 < f) (h : 2 * f < 1) : accuracyOf f = .inexact .lt := by
  simp [accuracyOf, h0.ne', h]

theorem accuracyOf_of_eq_half {f : ℚ} (h : 2 * f = 1) : accuracyOf f = .inexact .eq := by
  have hf : f ≠ 0 := by rintro rfl; norm_num at h
  simp [accuracyOf, hf, h]

theorem accuracyOf_of_half_lt {f : ℚ} (h : 1 < 2 * f) : accuracyOf f = .inexact .gt := by
  have hf : f ≠ 0 := by rintro rfl; norm_num at h
  simp [accuracyOf, hf, not_lt.mpr h.le, h.ne']

theorem accuracy_ofMantissaAndAccuracy (m : Nat) (a : Accuracy) :
    (ExtendedMantissa.ofMantissaAndAccuracy m a).accuracy = a := by
  cases a with
  | exact => rfl
  | inexact o => cases o <;> rfl

theorem mantissa_ofMantissaAndAccuracy (m : Nat) (a : Accuracy) :
    (ExtendedMantissa.ofMantissaAndAccuracy m a).mantissa = m := by
  cases a with
  | exact => rfl
  | inexact o => cases o <;> rfl

theorem accuracy_eq_exact_iff (em : ExtendedMantissa) :
    em.accuracy = .exact ↔ (em.roundBit || em.stickyBit) = false := by
  obtain ⟨m, r, s⟩ := em
  cases r <;> cases s <;> simp [ExtendedMantissa.accuracy]

/-- The round and sticky bits are what the accuracy says. -/
theorem ext_of_accuracy {em em' : ExtendedMantissa} (hm : em.mantissa = em'.mantissa)
    (ha : em.accuracy = em'.accuracy) : em = em' := by
  obtain ⟨m, r, s⟩ := em
  obtain ⟨m', r', s'⟩ := em'
  cases hm
  cases r <;> cases s <;> cases r' <;> cases s' <;> simp_all [ExtendedMantissa.accuracy]

/-! ## What an extended mantissa stands for -/

/-- An extended mantissa stands for `y`: its mantissa is the whole part of `y`, and its accuracy
says where the rest of `y` lies. -/
def Represents (em : ExtendedMantissa) (y : ℚ) : Prop :=
  (em.mantissa : ℚ) ≤ y ∧ y < em.mantissa + 1 ∧ em.accuracy = accuracyOf (y - em.mantissa)

/-- A number `y ≥ 0` is stood for by its whole part and the accuracy of its fraction. -/
theorem represents_floor {y : ℚ} (hy : 0 ≤ y) :
    Represents (.ofMantissaAndAccuracy ⌊y⌋₊ (accuracyOf (y - ⌊y⌋₊))) y := by
  refine ⟨?_, ?_, ?_⟩
  · rw [mantissa_ofMantissaAndAccuracy]
    exact Nat.floor_le hy
  · rw [mantissa_ofMantissaAndAccuracy]
    exact Nat.lt_floor_add_one y
  · rw [accuracy_ofMantissaAndAccuracy, mantissa_ofMantissaAndAccuracy]

/-- An exact mantissa stands for itself. -/
theorem represents_exact (m : Nat) : Represents (.ofMantissaAndAccuracy m .exact) m := by
  refine ⟨le_rfl, lt_add_one _, ?_⟩
  rw [accuracy_ofMantissaAndAccuracy, mantissa_ofMantissaAndAccuracy, sub_self, accuracyOf_zero]

namespace Represents

variable {em em' : ExtendedMantissa} {y : ℚ}

/-- Only one extended mantissa stands for a number. -/
theorem unique (h : Represents em y) (h' : Represents em' y) : em = em' := by
  have hm : em.mantissa = em'.mantissa := by
    have h₁ : em.mantissa < em'.mantissa + 1 := by exact_mod_cast lt_of_le_of_lt h.1 h'.2.1
    have h₂ : em'.mantissa < em.mantissa + 1 := by exact_mod_cast lt_of_le_of_lt h'.1 h.2.1
    omega
  exact ext_of_accuracy hm (by rw [h.2.2, h'.2.2, hm])

/-- Shifting right one bit halves what is stood for: the bit shifted out is the new round bit,
and the old round and sticky bits fold into the sticky bit. -/
theorem shiftRightOne (h : Represents em y) : Represents em.shiftRightOne (y / 2) := by
  obtain ⟨hlo, hhi, hacc⟩ := h
  obtain ⟨m, r, s⟩ := em
  dsimp only at hlo hhi hacc
  have hsplit : (m : ℚ) = 2 * ((m / 2 : ℕ) : ℚ) + ((m % 2 : ℕ) : ℚ) := by
    exact_mod_cast (Nat.div_add_mod m 2).symm
  -- the bits below the new mantissa are exact exactly when the old fraction is
  have hexact : (r || s) = false ↔ y - m = 0 := by
    rw [← accuracyOf_eq_exact_iff, ← hacc]
    exact (accuracy_eq_exact_iff ⟨m, r, s⟩).symm
  have hrs : y - m ≠ 0 → (r || s) = true := fun hf => by
    cases hb : (r || s)
    · exact absurd (hexact.mp hb) hf
    · rfl
  have hpos : y - m ≠ 0 → 0 < y - m := fun hf => lt_of_le_of_ne (sub_nonneg.mpr hlo) (Ne.symm hf)
  show Represents ⟨m / 2, m % 2 != 0, r || s⟩ (y / 2)
  rcases Nat.mod_two_eq_zero_or_one m with hb | hb <;> rw [hb] at hsplit <;> push_cast at hsplit
  · -- an even mantissa: the new fraction is half the old one, below one half
    have hfrac : y / 2 - ((m / 2 : ℕ) : ℚ) = (y - m) / 2 := by linarith
    refine ⟨by simp only; linarith, by simp only; linarith, ?_⟩
    simp only [hb, hfrac]
    by_cases hf : y - m = 0
    · rw [hexact.mpr hf, hf, zero_div, accuracyOf_zero]
      rfl
    · rw [hrs hf, accuracyOf_of_lt_half (by linarith [hpos hf]) (by linarith)]
      rfl
  · -- an odd mantissa: the new fraction is one half and half the old one
    have hfrac : y / 2 - ((m / 2 : ℕ) : ℚ) = (1 + (y - m)) / 2 := by linarith
    refine ⟨by simp only; linarith, by simp only; linarith, ?_⟩
    simp only [hb, hfrac]
    by_cases hf : y - m = 0
    · rw [hexact.mpr hf, hf, accuracyOf_of_eq_half (by norm_num)]
      rfl
    · rw [hrs hf, accuracyOf_of_half_lt (by linarith [hpos hf])]
      rfl

theorem shiftRight_succ (em : ExtendedMantissa) (n : Nat) : em >>> (n + 1) = (em >>> n).shiftRightOne :=
  rfl

/-- Shifting right `n` bits divides what is stood for by `2^n`. -/
theorem shiftRight (h : Represents em y) (n : Nat) : Represents (em >>> n) (y / 2 ^ n) := by
  induction n with
  | zero =>
    show Represents em (y / 2 ^ 0)
    rwa [pow_zero, div_one]
  | succ n ih =>
    rw [shiftRight_succ, pow_succ, ← div_div]
    exact ih.shiftRightOne

end Represents

/-! ## The exponent a value is rounded at -/

theorem targetExponent_binary64 (t : Int) : Format.binary64.targetExponent t = max (t - 53) (-1074) :=
  rfl

/-- The exponent the model rounds `X > 0` at: the one leaving 53 bits above it, but never below
the least exponent, where the numbers below the normal range get fewer bits. -/
def expOf (X : ℚ) : Int := Format.binary64.targetExponent (Int.log 2 X + 1)

theorem expOf_eq (X : ℚ) : expOf X = max (Int.log 2 X - 52) (-1074) := by
  rw [expOf, targetExponent_binary64]
  congr 1
  omega

theorem neg_1074_le_expOf (X : ℚ) : -1074 ≤ expOf X := by
  rw [expOf_eq]
  exact le_max_right _ _

theorem expOf_mono {X X' : ℚ} (hX : 0 < X) (h : X ≤ X') : expOf X ≤ expOf X' := by
  have hlog := Int.log_mono_right (b := 2) hX h
  rw [expOf_eq, expOf_eq]
  omega

theorem two_zpow_pos (T : Int) : (0 : ℚ) < 2 ^ T :=
  zpow_pos two_pos T

theorem two_zpow_natCast (k : Nat) : (2 : ℚ) ^ (k : ℤ) = ((2 ^ k : ℕ) : ℚ) := by
  rw [zpow_natCast]
  push_cast
  rfl

/-- A positive mantissa standing for `X / 2^T` has `X`'s total exponent: its leading bit is
`X`'s. -/
theorem totalExponent_of_represents {X : ℚ} {T : Int} {em : ExtendedMantissa}
    (h : Represents em (X / 2 ^ T)) (hq : 0 < em.mantissa) :
    totalExponent em.mantissa T = Int.log 2 X + 1 := by
  have hT := two_zpow_pos T
  have hlo : (2 : ℚ) ^ ((em.mantissa.log2 : ℤ) + T) ≤ X := by
    have h₁ : ((2 ^ em.mantissa.log2 : ℕ) : ℚ) ≤ em.mantissa := by
      exact_mod_cast Nat.log2_self_le hq.ne'
    calc (2 : ℚ) ^ ((em.mantissa.log2 : ℤ) + T) = ((2 ^ em.mantissa.log2 : ℕ) : ℚ) * 2 ^ T := by
          rw [zpow_add₀ two_ne_zero, two_zpow_natCast]
      _ ≤ em.mantissa * 2 ^ T := by gcongr
      _ ≤ X := (le_div_iff₀ hT).mp h.1
  have hhi : X < (2 : ℚ) ^ ((em.mantissa.log2 : ℤ) + 1 + T) := by
    have h₁ : (em.mantissa : ℚ) + 1 ≤ ((2 ^ (em.mantissa.log2 + 1) : ℕ) : ℚ) := by
      exact_mod_cast Nat.lt_log2_self
    calc X < (em.mantissa + 1) * 2 ^ T := (div_lt_iff₀ hT).mp h.2.1
      _ ≤ ((2 ^ (em.mantissa.log2 + 1) : ℕ) : ℚ) * 2 ^ T := by gcongr
      _ = (2 : ℚ) ^ ((em.mantissa.log2 : ℤ) + 1 + T) := by
          rw [← two_zpow_natCast, ← zpow_add₀ two_ne_zero]
          push_cast
          rfl
  have hX : 0 < X := lt_of_lt_of_le (two_zpow_pos _) hlo
  have h₁ := (Int.zpow_le_iff_le_log (b := 2) (by norm_num) hX).mp (by exact_mod_cast hlo)
  have h₂ := (Int.lt_zpow_iff_log_lt (b := 2) (by norm_num) hX).mp (by exact_mod_cast hhi)
  unfold totalExponent
  omega

/-- Starting at or below the exponent `X` is rounded at, the model finds that exponent. -/
theorem targetExponent_totalExponent {X : ℚ} (hX : 0 < X) {T : Int} {em : ExtendedMantissa}
    (h : Represents em (X / 2 ^ T)) (hT : T ≤ expOf X) :
    Format.binary64.targetExponent (totalExponent em.mantissa T) = expOf X := by
  rcases Nat.eq_zero_or_pos em.mantissa with h0 | hq
  · -- nothing above the binary point: `X < 2^T`, which only the least exponent allows
    have hlt : X < 2 ^ T := by
      have h₁ := h.2.1
      rw [h0, Nat.cast_zero, zero_add, div_lt_one (two_zpow_pos T)] at h₁
      exact h₁
    have hlog := (Int.lt_zpow_iff_log_lt (b := 2) (by norm_num) hX).mp (by exact_mod_cast hlt)
    rw [expOf_eq] at hT ⊢
    rw [targetExponent_binary64, h0]
    simp only [totalExponent, Nat.log2_zero]
    omega
  · rw [totalExponent_of_represents h hq]
    rfl

/-- The first shift of `roundWithAccuracy`: to `X`'s exponent. -/
theorem shiftToTargetExponent_of_represents {X : ℚ} (hX : 0 < X) {q : Nat} {T : Int} {a : Accuracy}
    (h : Represents (.ofMantissaAndAccuracy q a) (X / 2 ^ T)) (hT : T ≤ expOf X) :
    shiftToTargetExponent .binary64 q T a =
      (ExtendedMantissa.ofMantissaAndAccuracy q a >>> (expOf X - T).toNat, expOf X) := by
  have htarget := targetExponent_totalExponent hX h hT
  rw [mantissa_ofMantissaAndAccuracy] at htarget
  show shiftToExponent q T a (Format.binary64.targetExponent (totalExponent q T)) = _
  rw [htarget, shiftToExponent]
  congr 1
  omega

/-! ## Rounding a rational -/

/-- The model's rounding of `X > 0` with sign `s`: the expansion of `X` at the exponent it is
rounded at, its whole part and where its fraction lies, rounded to nearest, ties to even. -/
def rn (s : Sign) (X : ℚ) : UnpackedFloat :=
  roundWithAccuracy .binary64 s ⌊X / 2 ^ expOf X⌋₊ (expOf X)
    (accuracyOf (X / 2 ^ expOf X - ⌊X / 2 ^ expOf X⌋₊))

/-- All `roundWithAccuracy` reads of its input is where the first shift leaves it. -/
theorem roundWithAccuracy_congr {s : Sign} {q q' : Nat} {T T' : Int} {a a' : Accuracy}
    (h : shiftToTargetExponent .binary64 q T a = shiftToTargetExponent .binary64 q' T' a') :
    roundWithAccuracy .binary64 s q T a = roundWithAccuracy .binary64 s q' T' a' := by
  unfold roundWithAccuracy
  rw [h]

/-- **Rounding depends only on the exact value.** A mantissa at an exponent at or below the one
`X` is rounded at, standing for `X`, rounds to `rn s X`. -/
theorem roundWithAccuracy_eq_rn {X : ℚ} (hX : 0 < X) {q : Nat} {T : Int} {a : Accuracy}
    (h : Represents (.ofMantissaAndAccuracy q a) (X / 2 ^ T)) (hT : T ≤ expOf X) (s : Sign) :
    roundWithAccuracy .binary64 s q T a = rn s X := by
  have hown := represents_floor (div_nonneg hX.le (two_zpow_pos (expOf X)).le)
  have hown' : Represents (.ofMantissaAndAccuracy ⌊X / 2 ^ expOf X⌋₊
      (accuracyOf (X / 2 ^ expOf X - ⌊X / 2 ^ expOf X⌋₊))) (X / 2 ^ expOf X) := hown
  apply roundWithAccuracy_congr
  rw [shiftToTargetExponent_of_represents hX h hT, shiftToTargetExponent_of_represents hX hown' le_rfl]
  -- shifted to `X`'s exponent, the mantissa stands for `X / 2^E`, as `X`'s own expansion does
  have hshift := h.shiftRight (expOf X - T).toNat
  rw [div_div, ← zpow_natCast, ← zpow_add₀ two_ne_zero, Int.toNat_of_nonneg (by omega),
    add_sub_cancel] at hshift
  rw [sub_self, Int.toNat_zero]
  congr 1
  exact hshift.unique hown'

/-! ## Rounding to a whole number -/

/-- The whole number nearest `y ≥ 0`, ties to even, as the model finds it: the whole part of `y`,
rounded by where the fraction lies. -/
def roundNearest (y : ℚ) : Nat := Accuracy.roundToNearestEven ⌊y⌋₊ (accuracyOf (y - ⌊y⌋₊))

theorem le_roundToNearestEven (m : Nat) (a : Accuracy) : m ≤ Accuracy.roundToNearestEven m a := by
  rcases a with _ | (_ | _ | _) <;> simp [Accuracy.roundToNearestEven]

theorem roundToNearestEven_le (m : Nat) (a : Accuracy) : Accuracy.roundToNearestEven m a ≤ m + 1 := by
  rcases a with _ | (_ | _ | _) <;> simp only [Accuracy.roundToNearestEven] <;> omega

/-- A fraction below one half rounds down. -/
theorem roundToNearestEven_of_lt_half (m : Nat) {f : ℚ} (hf : 0 ≤ f) (h : 2 * f < 1) :
    Accuracy.roundToNearestEven m (accuracyOf f) = m := by
  rcases hf.eq_or_lt with rfl | hf
  · rw [accuracyOf_zero]
    rfl
  · rw [accuracyOf_of_lt_half hf h]
    rfl

/-- Within one unit, the further the fraction lies, the further it rounds. -/
theorem roundToNearestEven_accuracyOf_mono (m : Nat) {f f' : ℚ} (hf : 0 ≤ f) (h : f ≤ f') :
    Accuracy.roundToNearestEven m (accuracyOf f) ≤ Accuracy.roundToNearestEven m (accuracyOf f') := by
  rcases lt_trichotomy (2 * f') 1 with h' | h' | h'
  · rw [roundToNearestEven_of_lt_half m hf (by linarith), roundToNearestEven_of_lt_half m (hf.trans h) h']
  · -- a tie goes to the even neighbour, which is at or above anything a smaller fraction gives
    rw [accuracyOf_of_eq_half h']
    rcases (show 2 * f ≤ 1 by linarith).lt_or_eq with hlt | heq
    · rw [roundToNearestEven_of_lt_half m hf hlt]
      exact Nat.le_add_right m _
    · rw [accuracyOf_of_eq_half heq]
  · rw [accuracyOf_of_half_lt h']
    exact roundToNearestEven_le m _

theorem floor_le_roundNearest (y : ℚ) : ⌊y⌋₊ ≤ roundNearest y :=
  le_roundToNearestEven _ _

theorem roundNearest_le_floor_add_one (y : ℚ) : roundNearest y ≤ ⌊y⌋₊ + 1 :=
  roundToNearestEven_le _ _

/-- A whole number rounds to itself. -/
theorem roundNearest_natCast (m : Nat) : roundNearest m = m := by
  rw [roundNearest, Nat.floor_natCast, sub_self, accuracyOf_zero]
  rfl

/-- Rounding to a whole number is monotone. -/
theorem roundNearest_mono {y y' : ℚ} (hy : 0 ≤ y) (h : y ≤ y') : roundNearest y ≤ roundNearest y' := by
  rcases (Nat.floor_le_floor h).lt_or_eq with hlt | heq
  · calc roundNearest y ≤ ⌊y⌋₊ + 1 := roundNearest_le_floor_add_one y
      _ ≤ ⌊y'⌋₊ := hlt
      _ ≤ roundNearest y' := floor_le_roundNearest y'
  · -- the same whole part: the fractions decide
    have hf : 0 ≤ y - ⌊y⌋₊ := sub_nonneg.mpr (Nat.floor_le hy)
    unfold roundNearest
    rw [heq] at hf ⊢
    exact roundToNearestEven_accuracyOf_mono _ hf (by linarith)

/-! ## Where `X` lies at its own exponent -/

section Scaled

variable {X : ℚ}

theorem scaled_nonneg (hX : 0 < X) : 0 ≤ X / 2 ^ expOf X :=
  div_nonneg hX.le (two_zpow_pos _).le

/-- At the exponent it is rounded at, `X` has at most 53 bits above the point. -/
theorem scaled_lt (X : ℚ) : X / 2 ^ expOf X < 2 ^ 53 := by
  have hE : Int.log 2 X - 52 ≤ expOf X := by
    rw [expOf_eq]
    exact le_max_left _ _
  have hlt : X < 2 ^ (Int.log 2 X + 1) := by
    exact_mod_cast Int.lt_zpow_succ_log_self (by norm_num : 1 < 2) X
  rw [div_lt_iff₀ (two_zpow_pos _)]
  calc X < 2 ^ (Int.log 2 X + 1) := hlt
    _ ≤ 2 ^ ((53 : ℤ) + expOf X) := zpow_le_zpow_right₀ one_le_two (by omega)
    _ = 2 ^ 53 * 2 ^ expOf X := by
        rw [zpow_add₀ two_ne_zero]
        norm_num

/-- Above the least exponent, `X` has exactly 53 bits above the point. -/
theorem two_pow_52_le_scaled (hX : 0 < X) (hE : -1074 < expOf X) : 2 ^ 52 ≤ X / 2 ^ expOf X := by
  have hE' : expOf X = Int.log 2 X - 52 := by
    rw [expOf_eq] at hE ⊢
    omega
  have hle : (2 : ℚ) ^ Int.log 2 X ≤ X := by
    exact_mod_cast Int.zpow_log_le_self (by norm_num : 1 < 2) hX
  rw [le_div_iff₀ (two_zpow_pos _)]
  calc (2 : ℚ) ^ 52 * 2 ^ expOf X = 2 ^ ((52 : ℤ) + expOf X) := by
        rw [zpow_add₀ two_ne_zero]
        norm_num
    _ = 2 ^ Int.log 2 X := by rw [hE', add_sub_cancel]
    _ ≤ X := hle

/-- From the least subnormal on, `X` has a bit above the point. -/
theorem one_le_scaled (hX : (2 : ℚ) ^ (-1074 : ℤ) ≤ X) : 1 ≤ X / 2 ^ expOf X := by
  have hpos : 0 < X := lt_of_lt_of_le (two_zpow_pos _) hX
  rcases (neg_1074_le_expOf X).lt_or_eq with hlt | heq
  · exact le_trans (by norm_num) (two_pow_52_le_scaled hpos hlt)
  · rw [← heq, one_le_div (two_zpow_pos _)]
    exact hX

theorem expOf_le_970 (hX : 0 < X) (h : X < 2 ^ (1023 : ℤ)) : expOf X ≤ 970 := by
  have h' : X < ((2 : ℕ) : ℚ) ^ (1023 : ℤ) := by
    rw [Nat.cast_ofNat]
    exact h
  have hlog := (Int.lt_zpow_iff_log_lt (by norm_num) hX).mp h'
  rw [expOf_eq]
  omega

theorem roundNearest_scaled_le (hX : 0 < X) : roundNearest (X / 2 ^ expOf X) ≤ 2 ^ 53 := by
  have hfloor : ⌊X / 2 ^ expOf X⌋₊ < 2 ^ 53 :=
    (Nat.floor_lt (scaled_nonneg hX)).mpr (by exact_mod_cast scaled_lt X)
  have := roundNearest_le_floor_add_one (X / 2 ^ expOf X)
  omega

theorem two_pow_52_le_roundNearest_scaled (hX : 0 < X) (hE : -1074 < expOf X) :
    2 ^ 52 ≤ roundNearest (X / 2 ^ expOf X) :=
  (Nat.le_floor (by exact_mod_cast two_pow_52_le_scaled hX hE)).trans (floor_le_roundNearest _)

end Scaled

/-! ## What rounding ends with -/

/-- The finite double with mantissa `m` at exponent `e`, or a zero when `m = 0`: how rounding
ends. -/
def finiteOrZero (s : Sign) (m : Nat) (e : Int) : UnpackedFloat :=
  if h : m = 0 then .zero s else .finite s m e (Nat.pos_of_ne_zero h)

/-- A mantissa of at most 53 bits, at or above the least exponent, is not shifted. -/
theorem shiftToTargetExponent_of_lt {r : Nat} {E : Int} (hr : r < 2 ^ 53) (hE : -1074 ≤ E) :
    shiftToTargetExponent .binary64 r E .exact = (⟨r, false, false⟩, E) := by
  have hlog : r.log2 < 53 := by
    rcases Nat.eq_zero_or_pos r with rfl | hpos
    · simp
    · exact (Nat.log2_lt hpos.ne').mpr hr
  have hshift : (Format.binary64.targetExponent (totalExponent r E) - E).toNat = 0 := by
    rw [targetExponent_binary64]
    unfold totalExponent
    omega
  show shiftToExponent r E .exact (Format.binary64.targetExponent (totalExponent r E)) = _
  dsimp only [shiftToExponent]
  rw [hshift, Nat.cast_zero, add_zero]
  rfl

/-- Rounding that carried into a 54th bit is shifted back one place. -/
theorem shiftToTargetExponent_carry {E : Int} (hE : -1074 ≤ E) :
    shiftToTargetExponent .binary64 (2 ^ 53) E .exact = (⟨2 ^ 52, false, false⟩, E + 1) := by
  have hshift : (Format.binary64.targetExponent (totalExponent (2 ^ 53) E) - E).toNat = 1 := by
    rw [targetExponent_binary64]
    unfold totalExponent
    rw [Nat.log2_two_pow]
    omega
  show shiftToExponent (2 ^ 53) E .exact (Format.binary64.targetExponent (totalExponent (2 ^ 53) E)) = _
  dsimp only [shiftToExponent]
  rw [hshift]
  rfl

theorem roundedMantissa_floor (y : ℚ) :
    (ExtendedMantissa.ofMantissaAndAccuracy ⌊y⌋₊ (accuracyOf (y - ⌊y⌋₊)) >>> 0).roundedMantissa =
      roundNearest y := by
  show Accuracy.roundToNearestEven (ExtendedMantissa.ofMantissaAndAccuracy _ _).mantissa
    (ExtendedMantissa.ofMantissaAndAccuracy _ _).accuracy = _
  rw [mantissa_ofMantissaAndAccuracy, accuracy_ofMantissaAndAccuracy]
  rfl

section Rounded

variable {X : ℚ}

/-- The first shift of rounding `X` at its own exponent does nothing; what follows is the
nearest whole number to `X / 2^E`, at `E`. -/
theorem rn_eq_second_shift (hX : 0 < X) (s : Sign) :
    rn s X = finiteOrZero s
      (shiftToTargetExponent .binary64 (roundNearest (X / 2 ^ expOf X)) (expOf X) .exact).1.mantissa
      (shiftToTargetExponent .binary64 (roundNearest (X / 2 ^ expOf X)) (expOf X) .exact).2 := by
  have hown : Represents (.ofMantissaAndAccuracy ⌊X / 2 ^ expOf X⌋₊
      (accuracyOf (X / 2 ^ expOf X - ⌊X / 2 ^ expOf X⌋₊))) (X / 2 ^ expOf X) :=
    represents_floor (scaled_nonneg hX)
  unfold rn roundWithAccuracy
  rw [shiftToTargetExponent_of_represents hX hown le_rfl, sub_self, Int.toNat_zero]
  dsimp only
  rw [roundedMantissa_floor]
  rfl

/-- Without a carry, rounding ends at `X`'s own exponent. -/
theorem rn_of_lt (hX : 0 < X) (s : Sign) (h : roundNearest (X / 2 ^ expOf X) < 2 ^ 53) :
    rn s X = finiteOrZero s (roundNearest (X / 2 ^ expOf X)) (expOf X) := by
  rw [rn_eq_second_shift hX, shiftToTargetExponent_of_lt h (neg_1074_le_expOf X)]

/-- With a carry, rounding ends at `2^52` one exponent up. -/
theorem rn_of_carry (hX : 0 < X) (s : Sign) (h : roundNearest (X / 2 ^ expOf X) = 2 ^ 53) :
    rn s X = .finite s (2 ^ 52) (expOf X + 1) (by norm_num) := by
  rw [rn_eq_second_shift hX, h, shiftToTargetExponent_carry (neg_1074_le_expOf X)]
  rfl

end Rounded

/-! ## Canonical results -/

/-- The value a finite double stands for, without its sign: `m · 2^e`. -/
def magnitude (m : Nat) (e : Int) : ℚ := m * 2 ^ e

/-- What `X > 0` stands for once rounded: the nearest whole number to `X / 2^E`, at `E`. -/
def rounded (X : ℚ) : ℚ := roundNearest (X / 2 ^ expOf X) * 2 ^ expOf X

/-- A mantissa and exponent a double holds as they are: at most 53 bits, exactly 53 above the
least exponent, and an exponent in range. -/
structure IsCanonical (m : Nat) (e : Int) : Prop where
  pos : 0 < m
  lt : m < 2 ^ 53
  normal : -1074 < e → 2 ^ 52 ≤ m
  least_le : -1074 ≤ e
  le_greatest : e ≤ 971

section Rounded

variable {X : ℚ}

/-- **What rounding gives.** From the least subnormal up to `2^1023`, rounding `X` gives a finite
double in canonical form, standing for `rounded X`. -/
theorem rn_cases (hlo : (2 : ℚ) ^ (-1074 : ℤ) ≤ X) (hhi : X < 2 ^ (1023 : ℤ)) (s : Sign) :
    ∃ m e h, rn s X = .finite s m e h ∧ IsCanonical m e ∧ magnitude m e = rounded X := by
  have hX : 0 < X := lt_of_lt_of_le (two_zpow_pos _) hlo
  have hr : 1 ≤ roundNearest (X / 2 ^ expOf X) :=
    (Nat.le_floor (by exact_mod_cast one_le_scaled hlo)).trans (floor_le_roundNearest _)
  have hE := neg_1074_le_expOf X
  have hE' := expOf_le_970 hX hhi
  rcases (roundNearest_scaled_le hX).lt_or_eq with hlt | hcarry
  · refine ⟨_, _, hr, ?_, ⟨hr, hlt, two_pow_52_le_roundNearest_scaled hX, hE, by omega⟩, rfl⟩
    rw [rn_of_lt hX s hlt, finiteOrZero, dif_neg (by omega)]
  · refine ⟨2 ^ 52, expOf X + 1, by norm_num, rn_of_carry hX s hcarry,
      ⟨by norm_num, by norm_num, fun _ => le_rfl, by omega, by omega⟩, ?_⟩
    rw [magnitude, rounded, hcarry, zpow_add_one₀ two_ne_zero]
    push_cast
    ring

/-- **Rounding is monotone.** A larger value stands, rounded, for at least as much: within one
exponent whole-number rounding is monotone, and across exponents the larger value's 53 bits
outweigh the smaller one's. -/
theorem rounded_mono {X' : ℚ} (hX : 0 < X) (h : X ≤ X') : rounded X ≤ rounded X' := by
  have hX' : 0 < X' := lt_of_lt_of_le hX h
  unfold rounded
  rcases (expOf_mono hX h).lt_or_eq with hlt | heq
  · have hnormal : -1074 < expOf X' := lt_of_le_of_lt (neg_1074_le_expOf X) hlt
    have hN : (2 : ℚ) ^ 52 ≤ roundNearest (X' / 2 ^ expOf X') := by
      exact_mod_cast two_pow_52_le_roundNearest_scaled hX' hnormal
    have hM : (roundNearest (X / 2 ^ expOf X) : ℚ) ≤ 2 ^ 53 := by
      exact_mod_cast roundNearest_scaled_le hX
    calc (roundNearest (X / 2 ^ expOf X) : ℚ) * 2 ^ expOf X ≤ 2 ^ 53 * 2 ^ expOf X :=
          mul_le_mul_of_nonneg_right hM (two_zpow_pos _).le
      _ = 2 ^ 52 * 2 ^ (expOf X + 1) := by
          rw [zpow_add_one₀ two_ne_zero]
          ring
      _ ≤ 2 ^ 52 * 2 ^ expOf X' :=
          mul_le_mul_of_nonneg_left (zpow_le_zpow_right₀ one_le_two (by omega)) (by norm_num)
      _ ≤ roundNearest (X' / 2 ^ expOf X') * 2 ^ expOf X' :=
          mul_le_mul_of_nonneg_right hN (two_zpow_pos _).le
  · rw [← heq]
    refine mul_le_mul_of_nonneg_right ?_ (two_zpow_pos _).le
    exact_mod_cast roundNearest_mono (scaled_nonneg hX) (div_le_div_of_nonneg_right h (two_zpow_pos _).le)

end Rounded

section Canonical

variable {m : Nat} {e : Int}

/-- A canonical mantissa is rounded where it stands: rounding leaves it as it is. -/
theorem roundWithAccuracy_canonical (hc : IsCanonical m e) (s : Sign) :
    roundWithAccuracy .binary64 s m e .exact = .finite s m e hc.pos := by
  unfold roundWithAccuracy
  rw [shiftToTargetExponent_of_lt hc.lt hc.least_le]
  dsimp only
  rw [show ExtendedMantissa.roundedMantissa ⟨m, false, false⟩ = m from rfl,
    shiftToTargetExponent_of_lt hc.lt hc.least_le]
  exact dif_neg hc.pos.ne'

theorem value_pos (hm : 0 < m) (e : Int) : 0 < magnitude m e :=
  mul_pos (by exact_mod_cast hm) (two_zpow_pos e)

/-- `m · 2^e`, seen at exponent `e`, is `m` exactly. -/
theorem represents_value (m : Nat) (e : Int) :
    Represents (.ofMantissaAndAccuracy m .exact) (magnitude m e / 2 ^ e) := by
  rw [magnitude, mul_div_cancel_right₀ _ (two_zpow_pos e).ne']
  exact represents_exact m

/-- The total exponent of a mantissa is that of the value it stands for. -/
theorem totalExponent_eq_log {m : Nat} (hm : 0 < m) (e : Int) :
    totalExponent m e = Int.log 2 (magnitude m e) + 1 := by
  have htot := totalExponent_of_represents (represents_value m e)
    (by rw [mantissa_ofMantissaAndAccuracy]; exact hm)
  rwa [mantissa_ofMantissaAndAccuracy] at htot

/-- The exponent a canonical value is rounded at is its own. -/
theorem expOf_canonical (hc : IsCanonical m e) : expOf (magnitude m e) = e := by
  have hlog : m.log2 < 53 := (Nat.log2_lt hc.pos.ne').mpr hc.lt
  rw [expOf, ← totalExponent_eq_log hc.pos, targetExponent_binary64]
  unfold totalExponent
  rcases hc.least_le.lt_or_eq with hlt | heq
  · have hlog' : 52 ≤ m.log2 := (Nat.le_log2 hc.pos.ne').mpr (hc.normal hlt)
    omega
  · omega

/-- Rounding a canonical value gives it back. -/
theorem rn_canonical (hc : IsCanonical m e) (s : Sign) : rn s (magnitude m e) = .finite s m e hc.pos := by
  rw [← roundWithAccuracy_eq_rn (value_pos hc.pos e) (represents_value m e) (expOf_canonical hc).ge s,
    roundWithAccuracy_canonical hc]

theorem rounded_canonical (hc : IsCanonical m e) : rounded (magnitude m e) = magnitude m e := by
  rw [rounded, expOf_canonical hc, magnitude, mul_div_cancel_right₀ _ (two_zpow_pos e).ne',
    roundNearest_natCast]

end Canonical

/-- Rounding a mantissa at an exponent is rounding the value they stand for. -/
theorem round_eq_rn {m : Nat} (hm : 0 < m) (e : Int) (s : Sign) :
    UnpackedFloat.round .binary64 s m e = rn s (magnitude m e) := by
  have htarget : Format.binary64.targetExponent (totalExponent m e) = expOf (magnitude m e) := by
    rw [totalExponent_eq_log hm]
    rfl
  unfold UnpackedFloat.round
  rw [htarget]
  dsimp only [decreaseExponent]
  -- the mantissa is widened to the exponent the value is rounded at, or left as it is
  set k := (e - expOf (magnitude m e)).toNat with hk
  have hq : magnitude m e / 2 ^ (e - k) = ((m <<< k : Nat) : ℚ) := by
    rw [magnitude, Nat.shiftLeft_eq, mul_div_assoc, ← zpow_sub₀ two_ne_zero, sub_sub_cancel, zpow_natCast]
    push_cast
    rfl
  have hrep : Represents (.ofMantissaAndAccuracy (m <<< k) .exact) (magnitude m e / 2 ^ (e - k)) :=
    hq ▸ represents_exact _
  exact roundWithAccuracy_eq_rn (value_pos hm e) hrep (by omega) s

end Proscenium.Double
