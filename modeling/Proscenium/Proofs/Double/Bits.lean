import Mathlib

/-!
# Doubles and their bits

A double is a 64-bit word: a sign bit, eleven exponent bits and fifty-two fraction bits. The
arithmetic of the core library works on the unpacked form (`UnpackedFloat`): an operation unpacks
its operands, computes, and packs the result. This module relates the two forms.

* Packing undoes unpacking on every word a double can hold (the library's
  `pack_unpack_of_valid`), so a double is its unpacked form packed again (`model_pack_unpack`),
  and two doubles with the same unpacked form are the same double (`model_eq_of_unpack_eq`).
* Changing the sign commutes with packing and unpacking (`unpack_pack_neg`): a negation made
  before packing is the negation of what unpacking gives back.
-/

namespace Proscenium.Double

open Float.Model Float.Model.UnpackedFloat

theorem toNat_one_append (m : BitVec 52) : (1#1 ++ m).toNat = 2 ^ 52 + m.toNat := by
  rw [BitVec.toNat_append, ← Nat.shiftLeft_add_eq_or_of_lt m.isLt]
  simp [Nat.shiftLeft_eq]

/-! ## Packing undoes unpacking -/

/-- A double is its unpacked form packed again. -/
theorem model_pack_unpack (f : Float.Model) : Float.Model.pack f.unpack = f := by
  obtain ⟨bits, hv⟩ := f
  have h : pack .binary64 (unpack .binary64 bits.toBitVec) = bits.toBitVec := pack_unpack_of_valid hv
  simp only [Float.Model.pack, Float.Model.unpack, h]

/-- Doubles with the same unpacked form are the same double. -/
theorem model_eq_of_unpack_eq {f g : Float.Model} (h : f.unpack = g.unpack) : f = g := by
  rw [← model_pack_unpack f, ← model_pack_unpack g, h]

/-! ## Signs -/

theorem neg_neg_unpacked (u : UnpackedFloat) : u.neg.neg = u := by
  cases u with
  | notANumber => rfl
  | infinity s => cases s <;> rfl
  | zero s => cases s <;> rfl
  | finite s m e h => cases s <;> rfl

/-- Unpacking reads the sign bit apart from the rest: the other sign gives the negation. -/
theorem unpack_packComponents_neg (s : Sign) (e : BitVec 11) (m : BitVec 52) :
    unpack .binary64 (packComponents .binary64 (-s) e m) =
      (unpack .binary64 (packComponents .binary64 s e m)).neg := by
  simp only [UnpackedFloat.unpack, unpackMantissa_packComponents, unpackExponent_packComponents,
    unpackSign_packComponents, Sign.ofBitVec_toBitVec]
  split
  · split <;> rfl
  · split
    · split <;> rfl
    · rfl

/-- Negating before packing is negating after unpacking: packing decides the exponent and
fraction bits without looking at the sign. -/
theorem unpack_pack_neg (u : UnpackedFloat) :
    unpack .binary64 (pack .binary64 u.neg) = (unpack .binary64 (pack .binary64 u)).neg := by
  cases u with
  | notANumber => rfl
  | infinity s => exact unpack_packComponents_neg s _ _
  | zero s => exact unpack_packComponents_neg s _ _
  | finite s m e h =>
    simp only [UnpackedFloat.neg, UnpackedFloat.pack, packedInfinity]
    split
    · exact unpack_packComponents_neg s _ _
    · split <;> exact unpack_packComponents_neg s _ _

/-- The same for doubles. -/
theorem model_unpack_pack_neg (u : UnpackedFloat) :
    (Float.Model.pack u.neg).unpack = (Float.Model.pack u).unpack.neg :=
  unpack_pack_neg u

end Proscenium.Double
