import Proscenium.Proofs.Double.Canonical
import Proscenium.Proofs.Double.Zero

/-!
# Whole numbers and their fractions as doubles

A whole number `n ≥ 1` converts to `rn n`, its value rounded (`unpack_ofNat`), on either path
of the conversion: through a 64-bit word and a multiplication by one below `2^53`, through its
scientific form above. Dividing two doubles rounds the exact quotient of the values they stand
for (`unpack_div`): the model's long division keeps the quotient's whole part at an exponent at
or below the one the quotient is rounded at, and the remainder tells where the rest lies.

Hence, for whole numbers below `2^64`, the fraction `a / n` grows with `a`
(`ofNat_div_ofNat_le`), is not below zero (`zero_le_ofNat_div_ofNat`), and `n / n` is exactly
one (`ofNat_div_self`).
-/

namespace Proscenium.Double

open Float.Model Float.Model.UnpackedFloat

/-- The order on doubles is the model's order on their unpacked forms. -/
theorem le_iff_unpack {x y : Float} : x ≤ y ↔ x.toModel.unpack.le y.toModel.unpack = true := by
  show Float.le x y = true ↔ _
  unfold Float.le
  rw [decide_eq_true_eq]
  rfl

/-- Doubles with the same unpacked form are equal. -/
theorem eq_of_unpack_eq {x y : Float} (h : x.toModel.unpack = y.toModel.unpack) : x = y :=
  ext_toModel (model_eq_of_unpack_eq h)

/-! ## Whole numbers -/

section Whole

variable {n : Nat}

theorem one_le_natCast (h : 1 ≤ n) : (1 : ℚ) ≤ n := by
  exact_mod_cast h

theorem least_le_natCast (h : 1 ≤ n) : (2 : ℚ) ^ (-1074 : ℤ) ≤ n :=
  le_trans (zpow_le_one_of_nonpos₀ one_le_two (by norm_num)) (one_le_natCast h)

/-- Converting a word rounds its value. -/
theorem ofNat_unpacked (h : 1 ≤ n) : UnpackedFloat.ofNat .binary64 n = rn .positive n := by
  unfold UnpackedFloat.ofNat UnpackedFloat.ofInt UnpackedFloat.normalize
  rw [Int.compare_eq_gt.mpr (by omega)]
  dsimp only
  rw [Int.toNat_natCast, round_eq_rn h 0, magnitude, zpow_zero, mul_one]

/-- Multiplying a canonical double by one gives it back. -/
theorem mul_one_canonical {m : Nat} {e : Int} (hc : IsCanonical m e) :
    UnpackedFloat.mul .binary64 (.finite .positive m e hc.pos) (.finite .positive (2 ^ 52) (-52) (by norm_num)) =
      .finite .positive m e hc.pos := by
  have hq : magnitude m e / 2 ^ (e + -52) = ((m * 2 ^ 52 : ℕ) : ℚ) := by
    rw [magnitude, mul_div_assoc, ← zpow_sub₀ two_ne_zero, show e - (e + -52) = ((52 : ℕ) : ℤ) by omega,
      zpow_natCast]
    push_cast
    rfl
  have hrep : Represents (.ofMantissaAndAccuracy (m * 2 ^ 52) .exact) (magnitude m e / 2 ^ (e + -52)) :=
    hq ▸ represents_exact _
  show roundWithAccuracy .binary64 .positive (m * 2 ^ 52) (e + -52) .exact = _
  rw [roundWithAccuracy_eq_rn (value_pos hc.pos e) hrep (by rw [expOf_canonical hc]; omega),
    rn_canonical hc]

theorem unpack_mul (x y : Float) :
    (x * y).toModel.unpack = (Float.Model.pack (UnpackedFloat.mul .binary64 x.toModel.unpack y.toModel.unpack)).unpack :=
  rfl

theorem unpack_toFloat (k : UInt64) :
    k.toFloat.toModel.unpack = (Float.Model.pack (UnpackedFloat.ofNat .binary64 k.toNat)).unpack :=
  rfl

/-- The first entry of the table of exact powers of ten is the double one. -/
theorem unpack_powerOfTen_zero :
    (Float.exactlyRepresentablePowersOfTen[0]).toModel.unpack = .finite .positive (2 ^ 52) (-52) (by norm_num) :=
  rfl

/-- Above `2^53` a whole number is converted from its scientific form: shifted up 53 bits, times
`10^0`. -/
theorem ofScientific_whole (h : 1 ≤ n) :
    UnpackedFloat.ofScientific .binary64 n 0 =
      roundWithAccuracy .binary64 .positive (n <<< 53 * 10 ^ (0 : ℤ).toNat) (-53 + 0) .exact := by
  rw [UnpackedFloat.ofScientific, dif_neg (by omega), if_neg (by decide),
    if_neg (not_lt.mpr (neg_nonpos.mpr (by positivity))), if_pos le_rfl]
  rfl

theorem represents_scientific (n : Nat) :
    Represents (.ofMantissaAndAccuracy (n <<< 53 * 10 ^ (0 : ℤ).toNat) .exact) ((n : ℚ) / 2 ^ (-53 + 0 : ℤ)) := by
  convert represents_exact (n <<< 53 * 10 ^ (0 : ℤ).toNat) using 1
  rw [add_zero, zpow_neg, div_inv_eq_mul, Int.toNat_zero, pow_zero, mul_one, Nat.shiftLeft_eq]
  push_cast
  rfl

/-- **A whole number converts to its value rounded**, below `2^53` through a word times one, above
through its scientific form. -/
theorem unpack_ofNat (h1 : 1 ≤ n) (hhi : (n : ℚ) < 2 ^ (1023 : ℤ)) :
    (Float.ofNat n).toModel.unpack = rn .positive n := by
  have hlo := least_le_natCast h1
  show (Float.ofScientific n false 0).toModel.unpack = _
  unfold Float.ofScientific
  split
  · next hsmall =>
    -- a word, rounded, times the double one
    have hword : n.toUInt64.toNat = n := UInt64.toNat_ofNat_of_lt (lt_of_lt_of_le hsmall.1 (by decide))
    obtain ⟨m, e, hm, hrn, hc, -⟩ := rn_cases hlo hhi .positive
    dsimp only
    rw [if_neg Bool.false_ne_true, unpack_mul, unpack_toFloat, unpack_powerOfTen_zero, hword,
      ofNat_unpacked h1, unpack_pack_rn hlo hhi, hrn, mul_one_canonical hc, ← hrn, unpack_pack_rn hlo hhi]
  · next hbig =>
    have hlog : 0 ≤ Int.log 2 (n : ℚ) :=
      (Int.zpow_le_iff_le_log (b := 2) (by norm_num) (lt_of_lt_of_le one_pos (one_le_natCast h1))).mp
        (by rw [zpow_zero]; exact one_le_natCast h1)
    have hT : (-53 + 0 : ℤ) ≤ expOf n := by
      rw [expOf_eq]
      omega
    show (Float.Model.pack (UnpackedFloat.ofScientific .binary64 n 0)).unpack = _
    rw [ofScientific_whole h1, roundWithAccuracy_eq_rn (lt_of_lt_of_le (two_zpow_pos _) hlo)
      (represents_scientific n) hT, unpack_pack_rn hlo hhi]

end Whole

/-! ## Division -/

section Division

variable {mx my : Nat} {ex ey : Int}

/-- The model's test of a remainder `r` against the divisor `d` says where `r / d` lies. -/
theorem accuracyOfFraction_eq {r d : Nat} (hd : 0 < d) : accuracyOfFraction r d = accuracyOf ((r : ℚ) / d) := by
  have hd' : (0 : ℚ) < d := by exact_mod_cast hd
  unfold accuracyOfFraction
  rcases Nat.eq_zero_or_pos r with rfl | hr
  · rw [if_pos rfl, Nat.cast_zero, zero_div, accuracyOf_zero]
  · rw [if_neg hr.ne']
    have hpos : (0 : ℚ) < r / d := div_pos (by exact_mod_cast hr) hd'
    rcases lt_trichotomy (2 * r) d with h | h | h
    · rw [Nat.compare_eq_lt.mpr h, accuracyOf_of_lt_half hpos]
      rw [← mul_div_assoc, div_lt_one hd']
      exact_mod_cast h
    · rw [Nat.compare_eq_eq.mpr h, accuracyOf_of_eq_half]
      rw [← mul_div_assoc, div_eq_one_iff_eq hd'.ne']
      exact_mod_cast h
    · rw [Nat.compare_eq_gt.mpr h, accuracyOf_of_half_lt]
      rw [← mul_div_assoc, one_lt_div hd']
      exact_mod_cast h

/-- Long division: the whole quotient, with where the remainder lies, stands for `N / d`. -/
theorem represents_div (N : Nat) {d : Nat} (hd : 0 < d) :
    Represents (.ofMantissaAndAccuracy (N / d) (accuracyOfFraction (N % d) d)) ((N : ℚ) / d) := by
  have hd' : (0 : ℚ) < d := by exact_mod_cast hd
  have hsplit : (N : ℚ) / d = (N / d : ℕ) + ((N % d : ℕ) : ℚ) / d := by
    have h : ((N / d : ℕ) : ℚ) * d + (N % d : ℕ) = N := by exact_mod_cast Nat.div_add_mod' N d
    rw [← h, add_div, mul_div_cancel_right₀ _ hd'.ne']
  have hrem : ((N % d : ℕ) : ℚ) / d < 1 := (div_lt_one hd').mpr (by exact_mod_cast Nat.mod_lt N hd)
  have hrem' : 0 ≤ ((N % d : ℕ) : ℚ) / d := div_nonneg (Nat.cast_nonneg _) hd'.le
  refine ⟨?_, ?_, ?_⟩ <;>
    rw [mantissa_ofMantissaAndAccuracy] <;> try rw [accuracy_ofMantissaAndAccuracy]
  · linarith
  · linarith
  · rw [accuracyOfFraction_eq hd, hsplit, add_sub_cancel_left]

/-- The exponent the model divides at is at or below the one the quotient is rounded at: the
quotient of values with leading bits `2^Lx` and `2^Ly` is above `2^(Lx - Ly - 1)`. -/
theorem targetExponent_quotient_le (hmx : 0 < mx) (hmy : 0 < my) (ex ey : Int) :
    Format.binary64.targetExponent (totalExponent mx ex - totalExponent my ey) ≤
      expOf (magnitude mx ex / magnitude my ey) := by
  have hx := value_pos hmx ex
  have hy := value_pos hmy ey
  have hA : (2 : ℚ) ^ Int.log 2 (magnitude mx ex) ≤ magnitude mx ex := by
    exact_mod_cast Int.zpow_log_le_self (by norm_num : 1 < 2) hx
  have hB : magnitude my ey < (2 : ℚ) ^ (Int.log 2 (magnitude my ey) + 1) := by
    exact_mod_cast Int.lt_zpow_succ_log_self (by norm_num : 1 < 2) (magnitude my ey)
  have hq : (2 : ℚ) ^ (Int.log 2 (magnitude mx ex) - (Int.log 2 (magnitude my ey) + 1)) ≤
      magnitude mx ex / magnitude my ey := by
    rw [zpow_sub₀ two_ne_zero]
    exact div_le_div₀ hx.le hA hy hB.le
  have hlog := (Int.zpow_le_iff_le_log (b := 2) (by norm_num) (div_pos hx hy)).mp (by exact_mod_cast hq)
  rw [totalExponent_eq_log hmx, totalExponent_eq_log hmy, targetExponent_binary64, expOf_eq]
  omega

/-- The model's division core stands for the quotient of the values, at an exponent at or below
the one the quotient is rounded at. -/
theorem divCore_represents (hmx : 0 < mx) (hmy : 0 < my) (ex ey : Int) :
    Represents (.ofMantissaAndAccuracy (divCore .binary64 mx ex my ey).1 (divCore .binary64 mx ex my ey).2.2)
        (magnitude mx ex / magnitude my ey / 2 ^ (divCore .binary64 mx ex my ey).2.1) ∧
      (divCore .binary64 mx ex my ey).2.1 ≤ expOf (magnitude mx ex / magnitude my ey) := by
  set T := min (ex - ey) (Format.binary64.targetExponent (totalExponent mx ex - totalExponent my ey)) with hT
  set k := (ex - ey - T).toNat with hk
  have hcore : divCore .binary64 mx ex my ey = ((mx <<< k) / my, T, accuracyOfFraction ((mx <<< k) % my) my) :=
    rfl
  rw [hcore]
  refine ⟨?_, le_trans (min_le_right _ _) (targetExponent_quotient_le hmx hmy ex ey)⟩
  -- the dividend is shifted up by the `k` bits the exponent drops by
  have hk' : ((k : ℤ)) = ex - ey - T := Int.toNat_of_nonneg (by omega)
  have hq : magnitude mx ex / magnitude my ey / 2 ^ T = ((mx <<< k : ℕ) : ℚ) / my := by
    rw [Nat.shiftLeft_eq, magnitude, magnitude]
    push_cast
    rw [← zpow_natCast, hk', zpow_sub₀ two_ne_zero, zpow_sub₀ two_ne_zero]
    field_simp
  rw [hq]
  exact represents_div _ hmy

/-- **Dividing doubles rounds the exact quotient** of the values they stand for. -/
theorem unpack_div {x y : Float} {hmx : 0 < mx} {hmy : 0 < my}
    (hx : x.toModel.unpack = .finite .positive mx ex hmx) (hy : y.toModel.unpack = .finite .positive my ey hmy)
    (hlo : (2 : ℚ) ^ (-1074 : ℤ) ≤ magnitude mx ex / magnitude my ey)
    (hhi : magnitude mx ex / magnitude my ey < 2 ^ (1023 : ℤ)) :
    (x / y).toModel.unpack = rn .positive (magnitude mx ex / magnitude my ey) := by
  obtain ⟨hrep, hT⟩ := divCore_represents hmx hmy ex ey
  show (Float.Model.pack (UnpackedFloat.div .binary64 x.toModel.unpack y.toModel.unpack)).unpack = _
  rw [hx, hy]
  show (Float.Model.pack (roundWithAccuracy .binary64 .positive (divCore .binary64 mx ex my ey).1
    (divCore .binary64 mx ex my ey).2.1 (divCore .binary64 mx ex my ey).2.2)).unpack = _
  rw [roundWithAccuracy_eq_rn (lt_of_lt_of_le (two_zpow_pos _) hlo) hrep hT, unpack_pack_rn hlo hhi]

end Division

/-! ## Fractions of whole numbers -/

section Fractions

variable {a b n : Nat}

theorem two_pow_64_lt : (2 : ℚ) ^ 64 < 2 ^ (1023 : ℤ) := by
  rw [← zpow_natCast]
  exact zpow_lt_zpow_right₀ one_lt_two (by norm_num)

/-- A power of two in range is its own rounding: it is 53 bits, `2^52`, at exponent `k - 52`. -/
theorem rounded_two_zpow {k : Int} (hlo : -1022 ≤ k) (hhi : k ≤ 1023) : rounded (2 ^ k) = 2 ^ k := by
  have hc : IsCanonical (2 ^ 52) (k - 52) :=
    ⟨by norm_num, by norm_num, fun _ => le_rfl, by omega, by omega⟩
  have h : magnitude (2 ^ 52) (k - 52) = 2 ^ k := by
    rw [magnitude, Nat.cast_pow, Nat.cast_ofNat, ← zpow_natCast, ← zpow_add₀ two_ne_zero]
    congr 1
    omega
  rw [← h, rounded_canonical hc]

/-- A whole number from one to `2^64` rounds to a value in the same range. -/
theorem rounded_natCast_bounds (h1 : 1 ≤ n) (h2 : n ≤ 2 ^ 64) : 1 ≤ rounded n ∧ rounded n ≤ 2 ^ 64 := by
  constructor
  · calc (1 : ℚ) = rounded (2 ^ (0 : ℤ)) := by rw [rounded_two_zpow (by norm_num) (by norm_num), zpow_zero]
      _ ≤ rounded n := rounded_mono (two_zpow_pos 0) (by rw [zpow_zero]; exact one_le_natCast h1)
  · calc rounded n ≤ rounded (2 ^ (64 : ℤ)) :=
          rounded_mono (lt_of_lt_of_le one_pos (one_le_natCast h1)) (by rw [zpow_ofNat]; exact_mod_cast h2)
      _ = 2 ^ 64 := by rw [rounded_two_zpow (by norm_num) (by norm_num), zpow_ofNat]

/-- Quotients of values from one to `2^64` are in the range rounding keeps finite. -/
theorem quotient_in_range {A B : ℚ} (hA : 1 ≤ A) (hA' : A ≤ 2 ^ 64) (hB : 1 ≤ B) (hB' : B ≤ 2 ^ 64) :
    (2 : ℚ) ^ (-1074 : ℤ) ≤ A / B ∧ A / B < 2 ^ (1023 : ℤ) := by
  constructor
  · calc (2 : ℚ) ^ (-1074 : ℤ) ≤ 2 ^ (-64 : ℤ) := zpow_le_zpow_right₀ one_le_two (by norm_num)
      _ = 1 / 2 ^ 64 := by norm_num
      _ ≤ A / B := div_le_div₀ (by linarith) hA (by linarith) hB'
  · calc A / B ≤ A := div_le_self (by linarith) hB
      _ ≤ 2 ^ 64 := hA'
      _ < 2 ^ (1023 : ℤ) := two_pow_64_lt

/-- So is the quotient of the rounded values of whole numbers from one to `2^64`. -/
theorem rounded_quotient_in_range (ha : 1 ≤ a) (ha' : a ≤ 2 ^ 64) (hn : 1 ≤ n) (hn' : n ≤ 2 ^ 64) :
    (2 : ℚ) ^ (-1074 : ℤ) ≤ rounded a / rounded n ∧ rounded a / rounded n < 2 ^ (1023 : ℤ) := by
  obtain ⟨hA, hA'⟩ := rounded_natCast_bounds ha ha'
  obtain ⟨hN, hN'⟩ := rounded_natCast_bounds hn hn'
  exact quotient_in_range hA hA' hN hN'

/-- A whole number from one to `2^64` converts to a canonical double standing for its rounded
value. -/
theorem unpack_ofNat_finite (h1 : 1 ≤ n) (h2 : n ≤ 2 ^ 64) :
    ∃ m e h, (Float.ofNat n).toModel.unpack = .finite .positive m e h ∧ magnitude m e = rounded n := by
  have hhi : (n : ℚ) < 2 ^ (1023 : ℤ) :=
    calc (n : ℚ) ≤ 2 ^ 64 := by exact_mod_cast h2
      _ < 2 ^ (1023 : ℤ) := two_pow_64_lt
  obtain ⟨m, e, h, hrn, -, hv⟩ := rn_cases (least_le_natCast h1) hhi .positive
  refine ⟨m, e, h, ?_, hv⟩
  rw [unpack_ofNat h1 hhi, hrn]

/-- The fraction `a / n` of whole numbers from one to `2^64` is the quotient of their rounded
values, rounded. -/
theorem unpack_ofNat_div_ofNat (ha : 1 ≤ a) (ha' : a ≤ 2 ^ 64) (hn : 1 ≤ n) (hn' : n ≤ 2 ^ 64) :
    (Float.ofNat a / Float.ofNat n).toModel.unpack = rn .positive (rounded a / rounded n) := by
  obtain ⟨ma, ea, hma, hxa, hva⟩ := unpack_ofNat_finite ha ha'
  obtain ⟨mn, en, hmn, hxn, hvn⟩ := unpack_ofNat_finite hn hn'
  obtain ⟨hlo, hhi⟩ := rounded_quotient_in_range ha ha' hn hn'
  rw [← hva, ← hvn] at hlo hhi ⊢
  exact unpack_div hxa hxn hlo hhi

/-- **Fractions grow with the numerator**: for whole numbers from one to `2^64`, `a ≤ b` gives
`a / n ≤ b / n` as doubles. -/
theorem ofNat_div_ofNat_le (ha : 1 ≤ a) (hab : a ≤ b) (hb : b ≤ 2 ^ 64) (hn : 1 ≤ n) (hn' : n ≤ 2 ^ 64) :
    Float.ofNat a / Float.ofNat n ≤ Float.ofNat b / Float.ofNat n := by
  have ha' : a ≤ 2 ^ 64 := hab.trans hb
  have hN := (rounded_natCast_bounds hn hn').1
  have hle : rounded a / rounded n ≤ rounded b / rounded n :=
    div_le_div_of_nonneg_right (rounded_mono (by linarith [one_le_natCast ha]) (by exact_mod_cast hab))
      (by linarith)
  rw [le_iff_unpack, unpack_ofNat_div_ofNat ha ha' hn hn', unpack_ofNat_div_ofNat (ha.trans hab) hb hn hn']
  exact rn_le_rn (rounded_quotient_in_range ha ha' hn hn').1 hle (rounded_quotient_in_range (ha.trans hab) hb hn hn').2

/-- A fraction of whole numbers from one to `2^64` is not below zero. -/
theorem zero_le_ofNat_div_ofNat (ha : 1 ≤ a) (ha' : a ≤ 2 ^ 64) (hn : 1 ≤ n) (hn' : n ≤ 2 ^ 64) :
    0 ≤ Float.ofNat a / Float.ofNat n := by
  obtain ⟨hlo, hhi⟩ := rounded_quotient_in_range ha ha' hn hn'
  obtain ⟨m, e, h, hrn, -⟩ := rn_cases hlo hhi .positive
  rw [le_iff_unpack, unpack_zero, unpack_ofNat_div_ofNat ha ha' hn hn', hrn]
  rfl

/-- **`n / n` is one**, for a whole number from one to `2^64`. -/
theorem ofNat_div_self (hn : 1 ≤ n) (hn' : n ≤ 2 ^ 64) : Float.ofNat n / Float.ofNat n = 1 := by
  have hN := (rounded_natCast_bounds hn hn').1
  apply eq_of_unpack_eq
  rw [unpack_ofNat_div_ofNat hn hn' hn hn', div_self (by linarith), show (1 : Float) = Float.ofNat 1 from rfl,
    unpack_ofNat le_rfl (by rw [Nat.cast_one]; exact lt_trans (by norm_num) two_pow_64_lt), Nat.cast_one]

end Fractions

end Proscenium.Double
