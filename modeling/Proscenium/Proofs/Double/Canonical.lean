import Proscenium.Proofs.Double.Rounding

/-!
# Canonical doubles

A finite double in canonical form (`IsCanonical`: 53 bits, or fewer at the least exponent, with
the exponent in range) is exactly what a word encodes: packing it never overflows
(`pack_canonical`), and unpacking the word gives it back (`unpack_pack_canonical`, one case for
53 bits and one for fewer). Rounding gives canonical forms, so a rounded value survives the
trip through a word (`unpack_pack_rn`).

On canonical forms, the model's order, which compares exponents first and mantissas second, is
the order of the values they stand for (`le_of_value_le`): 53 bits at a higher exponent outweigh
any mantissa at a lower one. With `rounded_mono`, rounding a larger value never gives a smaller
double (`rn_le_rn`).
-/

namespace Proscenium.Double

open Float.Model Float.Model.UnpackedFloat

section Canonical

variable {m m' : Nat} {e e' : Int}

theorem sign_packComponents (s : Sign) (x : BitVec 11) (y : BitVec 52) :
    Sign.ofBitVec (unpackSign (packComponents .binary64 s x y)) = s := by
  rw [unpackSign_packComponents, Sign.ofBitVec_toBitVec]

/-- The biased exponent an exponent is stored with. -/
theorem biased_exponent (e : Int) :
    (e + (Format.binary64.exponentBias : Int) + (Format.binary64.mantissaBitsWithoutImplicit : Int)).toNat =
      (e + 1075).toNat := by
  have hbias : ((Format.binary64.exponentBias : Nat) : Int) = 1023 := rfl
  have hfrac : ((Format.binary64.mantissaBitsWithoutImplicit : Nat) : Int) = 52 := rfl
  rw [hbias, hfrac]
  congr 1
  omega

/-- A field value below `2 ^ w` is stored as itself. -/
theorem toNat_field {w n : Nat} (h : n < 2 ^ w) : (BitVec.ofNat w n).toNat = n := by
  rw [BitVec.toNat_ofNat]
  exact Nat.mod_eq_of_lt h

theorem field_ne {w n : Nat} {b : BitVec w} (h : n < 2 ^ w) (hne : n ≠ b.toNat) : BitVec.ofNat w n ≠ b :=
  fun hb => hne (by rw [← hb, toNat_field h])

/-- A canonical double's exponent is in range, so packing it never overflows to an infinity: it
is stored at its biased exponent when it has 53 bits, and under the exponent field zero
otherwise. -/
theorem pack_canonical (hc : IsCanonical m e) (s : Sign) :
    pack .binary64 (.finite s m e hc.pos) =
      if m.log2 + 1 = Format.binary64.mantissaBits then
        packComponents .binary64 s (BitVec.ofNat 11 (e + 1075).toNat) (BitVec.ofNat 52 m)
      else packComponents .binary64 s 0#11 (BitVec.ofNat 52 m) := by
  have hrange := hc.least_le
  have htop := hc.le_greatest
  have hfit : ¬ 2 ^ Format.binary64.exponentBits ≤ (e + 1075).toNat + 1 := by
    show ¬ 2048 ≤ _
    omega
  rw [UnpackedFloat.pack]
  simp only [biased_exponent e]
  rw [if_neg hfit]

/-- A mantissa of 53 bits is stored without its leading bit, at its biased exponent, which is
neither all ones nor zero. -/
theorem unpack_pack_normal (hc : IsCanonical m e) (hm : 2 ^ 52 ≤ m) (s : Sign) :
    unpack .binary64 (pack .binary64 (.finite s m e hc.pos)) = .finite s m e hc.pos := by
  have hlt := hc.lt
  have hrange := hc.least_le
  have htop := hc.le_greatest
  have hlog : m.log2 = 52 := by
    have h₁ : 52 ≤ m.log2 := (Nat.le_log2 hc.pos.ne').mpr hm
    have h₂ : m.log2 < 53 := (Nat.log2_lt hc.pos.ne').mpr hlt
    omega
  have hexp : (BitVec.ofNat 11 (e + 1075).toNat).toNat = (e + 1075).toNat := toNat_field (by omega)
  have hne1 : BitVec.ofNat 11 (e + 1075).toNat ≠ -1#11 := field_ne (by omega) (by
    show _ ≠ 2047
    omega)
  have hne0 : BitVec.ofNat 11 (e + 1075).toNat ≠ 0#11 := field_ne (by omega) (by
    show _ ≠ 0
    omega)
  rw [pack_canonical hc, hlog, if_pos (show 52 + 1 = Format.binary64.mantissaBits from rfl), UnpackedFloat.unpack]
  simp only [unpackMantissa_packComponents, unpackExponent_packComponents, sign_packComponents]
  rw [if_neg hne1, if_neg hne0, UnpackedFloat.finite.injEq]
  refine ⟨rfl, ?_, ?_⟩
  · rw [toNat_one_append, BitVec.toNat_ofNat]
    omega
  · rw [hexp]
    show _ - (1023 + 52 : Int) = e
    omega

/-- A shorter mantissa sits at the least exponent, and is stored as it is under the exponent
field zero. -/
theorem unpack_pack_subnormal (hc : IsCanonical m e) (hm : m < 2 ^ 52) (s : Sign) :
    unpack .binary64 (pack .binary64 (.finite s m e hc.pos)) = .finite s m e hc.pos := by
  have he : e = -1074 := by
    by_contra he
    exact absurd (hc.normal (lt_of_le_of_ne hc.least_le (Ne.symm he))) (not_le.mpr hm)
  have hlog : m.log2 < 52 := (Nat.log2_lt hc.pos.ne').mpr hm
  have hfrac : (BitVec.ofNat 52 m).toNat = m := toNat_field hm
  have hne0 : BitVec.ofNat 52 m ≠ 0#52 := field_ne hm (by
    show m ≠ 0
    exact hc.pos.ne')
  have hbits : ¬ m.log2 + 1 = Format.binary64.mantissaBits := by
    show ¬ m.log2 + 1 = 53
    omega
  rw [pack_canonical hc, if_neg hbits, UnpackedFloat.unpack]
  simp only [unpackMantissa_packComponents, unpackExponent_packComponents, sign_packComponents]
  rw [if_neg (by decide), if_pos trivial, dif_neg hne0, UnpackedFloat.finite.injEq]
  refine ⟨rfl, hfrac, ?_⟩
  rw [he]
  rfl

/-- **A canonical double survives packing.** -/
theorem unpack_pack_canonical (hc : IsCanonical m e) (s : Sign) :
    unpack .binary64 (pack .binary64 (.finite s m e hc.pos)) = .finite s m e hc.pos := by
  rcases le_or_gt (2 ^ 52) m with hm | hm
  · exact unpack_pack_normal hc hm s
  · exact unpack_pack_subnormal hc hm s

/-- The model compares positive finite doubles by exponent first, then by mantissa. -/
theorem le_finite_positive (h : 0 < m) (h' : 0 < m') :
    (UnpackedFloat.finite .positive m e h).le (.finite .positive m' e' h') =
      ((compare e e').then (compare m m')).isLE :=
  rfl

/-- **On canonical forms the order is that of the values.** At one exponent the mantissas
decide; a higher exponent carries 53 bits, which outweigh any mantissa at a lower one. -/
theorem le_of_value_le (hc : IsCanonical m e) (hc' : IsCanonical m' e') (h : magnitude m e ≤ magnitude m' e') :
    (UnpackedFloat.finite .positive m e hc.pos).le (.finite .positive m' e' hc'.pos) = true := by
  rw [le_finite_positive]
  rcases lt_trichotomy e e' with hlt | rfl | hgt
  · rw [Int.compare_eq_lt.mpr hlt]
    rfl
  · rw [Int.compare_eq_eq.mpr rfl]
    exact Std.isLE_compare.mpr (by exact_mod_cast le_of_mul_le_mul_right h (two_zpow_pos e))
  · have hn : 2 ^ 52 ≤ m := hc.normal (lt_of_le_of_lt hc'.least_le hgt)
    have hgreater : magnitude m' e' < magnitude m e :=
      calc (m' : ℚ) * 2 ^ e' < 2 ^ 53 * 2 ^ e' :=
            mul_lt_mul_of_pos_right (by exact_mod_cast hc'.lt) (two_zpow_pos _)
        _ = 2 ^ 52 * 2 ^ (e' + 1) := by
            rw [zpow_add_one₀ two_ne_zero]
            ring
        _ ≤ 2 ^ 52 * 2 ^ e :=
            mul_le_mul_of_nonneg_left (zpow_le_zpow_right₀ one_le_two (by omega)) (by norm_num)
        _ ≤ m * 2 ^ e := mul_le_mul_of_nonneg_right (by exact_mod_cast hn) (two_zpow_pos _).le
    exact absurd h (not_le.mpr hgreater)

end Canonical

section Rounded

variable {X X' : ℚ}

/-- A rounded value in range survives the trip through a word. -/
theorem unpack_pack_rn (hlo : (2 : ℚ) ^ (-1074 : ℤ) ≤ X) (hhi : X < 2 ^ (1023 : ℤ)) (s : Sign) :
    (Float.Model.pack (rn s X)).unpack = rn s X := by
  obtain ⟨m, e, hm, hrn, hc, -⟩ := rn_cases hlo hhi s
  rw [hrn]
  exact unpack_pack_canonical hc s

/-- **Rounding never reverses the order** of two values in range. -/
theorem rn_le_rn (hlo : (2 : ℚ) ^ (-1074 : ℤ) ≤ X) (h : X ≤ X') (hhi : X' < 2 ^ (1023 : ℤ)) :
    (rn .positive X).le (rn .positive X') = true := by
  obtain ⟨m, e, hm, hrn, hc, hv⟩ := rn_cases hlo (lt_of_le_of_lt h hhi) .positive
  obtain ⟨m', e', hm', hrn', hc', hv'⟩ := rn_cases (hlo.trans h) hhi .positive
  rw [hrn, hrn']
  apply le_of_value_le hc hc'
  rw [hv, hv']
  exact rounded_mono (lt_of_lt_of_le (two_zpow_pos _) hlo) h

end Rounded

end Proscenium.Double
