import Proscenium.Proofs.Double.Bits

/-!
# Signed zeros

A double has two zeros, `+0` and `-0`; they compare equal (`==`) but are different doubles.
Adding, subtracting and negating can turn one into the other, and that is the only way in which
some familiar identities fail: `x + 0` is `x` unless `x` is `-0`, and `-(a - b)` is `-a - -b`
unless the difference is an exact zero. `Alike a b` says that `a` and `b` are the same double or
are both zeros, and this module proves the identities that hold up to it.

Every operation unpacks its operands, computes on the unpacked form and packs the result, so
the identities are first proved on `UnpackedFloat` (`Unpacked.Alike`) and then carried over by
`alike_ofModel_pack`.

Comparing with `==` tells exactly alike doubles apart from the rest, NaN aside: doubles that
compare equal are alike (`alike_of_beq`). So a test by `==` can let a zero of the other sign
through, and what is computed from either zero agrees up to that sign (`Alike.apply_eq`,
`Alike.map`).
-/

namespace Proscenium.Double

open Float.Model Float.Model.UnpackedFloat

/-- Two doubles are alike when they are the same double, or are both zeros, whatever their
signs. -/
def Alike (a b : Float) : Prop := a = b ∨ (a == 0) = true ∧ (b == 0) = true

instance (a b : Float) : Decidable (Alike a b) := by
  unfold Alike
  infer_instance

namespace Unpacked

/-- Unpacked values that are equal, or are both zeros. -/
def Alike (u v : UnpackedFloat) : Prop := u = v ∨ (∃ s, u = .zero s) ∧ ∃ s, v = .zero s

theorem Alike.zeros (s t : Sign) : Alike (.zero s) (.zero t) := .inr ⟨⟨s, rfl⟩, t, rfl⟩

theorem Alike.neg {u v : UnpackedFloat} (h : Alike u v) : Alike u.neg v.neg := by
  rcases h with rfl | ⟨⟨s, rfl⟩, t, rfl⟩
  · exact .inl rfl
  · exact zeros (-s) (-t)

/-- `x + 0` is `x`, except that `-0 + 0` is `+0`. -/
theorem add_zero_alike (u : UnpackedFloat) : Alike (add .binary64 u (.zero .positive)) u := by
  cases u with
  | notANumber => exact .inl rfl
  | infinity s => exact .inl rfl
  | zero s => cases s <;> exact Alike.zeros _ _
  | finite s m e h => exact .inl rfl

/-- `x - 0` is `x` for a zero of either sign, except that `-0 - -0` is `+0`. -/
theorem sub_zero_alike (u : UnpackedFloat) (s t : Sign) :
    Alike (sub .binary64 u (.zero s)) (sub .binary64 u (.zero t)) := by
  cases u with
  | notANumber => exact .inl rfl
  | infinity r => exact .inl rfl
  | zero r => cases r <;> cases s <;> cases t <;> exact Alike.zeros _ _
  | finite r m e h => exact .inl rfl

/-- Adding to a zero of either sign gives what adding to any other zero gives, but for the sign
of a zero sum. -/
theorem zero_add_alike (s t : Sign) (u : UnpackedFloat) :
    Alike (add .binary64 (.zero s) u) (add .binary64 (.zero t) u) := by
  cases u with
  | notANumber => exact .inl rfl
  | infinity r => exact .inl rfl
  | zero r => cases r <;> cases s <;> cases t <;> exact Alike.zeros _ _
  | finite r m e h => exact .inl rfl

/-- Addition is commutative: both operands are aligned at the smaller exponent, and the signed
mantissas are added. -/
theorem add_comm (u v : UnpackedFloat) : add .binary64 u v = add .binary64 v u := by
  cases u with
  | notANumber => cases v <;> rfl
  | infinity s =>
    cases v with
    | infinity t => cases s <;> cases t <;> rfl
    | _ => rfl
  | zero s =>
    cases v with
    | zero t => cases s <;> cases t <;> rfl
    | _ => rfl
  | finite s m e h =>
    cases v with
    | finite t n f g =>
      simp only [UnpackedFloat.add]
      rw [Int.min_comm f e, Int.add_comm]
    | _ => rfl

theorem sub_zero_positive (u : UnpackedFloat) : sub .binary64 u (.zero .positive) = u := by
  cases u with
  | notANumber => rfl
  | infinity r => rfl
  | zero r => cases r <;> rfl
  | finite r m e h => rfl

theorem apply_neg (s : Sign) (n : Int) : (-s).apply n = -s.apply n := by
  cases s
  · exact (Int.neg_neg n).symm
  · rfl

/-- The last step of rounding: a zero, or a finite value, with the sign given. -/
theorem dite_zero_finite_neg (s : Sign) (m : Nat) (e : Int) :
    (if h : m = 0 then UnpackedFloat.zero (-s) else .finite (-s) m e (Nat.pos_of_ne_zero h)) =
      (if h : m = 0 then UnpackedFloat.zero s else .finite s m e (Nat.pos_of_ne_zero h)).neg := by
  by_cases h : m = 0
  · rw [dif_pos h, dif_pos h]
    rfl
  · rw [dif_neg h, dif_neg h]
    rfl

/-- Rounding looks at the sign only to put it on the result. -/
theorem roundWithAccuracy_neg (s : Sign) (m : Nat) (e : Int) (a : Accuracy) :
    roundWithAccuracy .binary64 (-s) m e a = (roundWithAccuracy .binary64 s m e a).neg :=
  dite_zero_finite_neg s _ _

theorem round_neg (s : Sign) (m : Nat) (e : Int) :
    UnpackedFloat.round .binary64 (-s) m e = (UnpackedFloat.round .binary64 s m e).neg :=
  roundWithAccuracy_neg s _ _ _

/-- Normalizing the negated mantissa gives the negation, up to the sign of an exact zero,
which is the one passed in either way. -/
theorem normalize_neg_alike (m e : Int) (z : Sign) :
    Alike (UnpackedFloat.normalize .binary64 (-m) e z) (UnpackedFloat.normalize .binary64 m e z).neg := by
  rcases Int.lt_trichotomy m 0 with hm | rfl | hm
  · have hpos : compare (-m) 0 = .gt := Int.compare_eq_gt.mpr (by omega)
    have hneg : compare m 0 = .lt := Int.compare_eq_lt.mpr hm
    simp only [UnpackedFloat.normalize, hpos, hneg]
    rw [← round_neg]
    exact .inl rfl
  · exact Alike.zeros _ _
  · have hneg : compare (-m) 0 = .lt := Int.compare_eq_lt.mpr (by omega)
    have hpos : compare m 0 = .gt := Int.compare_eq_gt.mpr hm
    simp only [UnpackedFloat.normalize, hpos, hneg, Int.neg_neg]
    rw [← round_neg]
    exact .inl rfl

/-- Rounding to nearest is symmetric: `-(a - b)` is `-a - -b`, except that an exact zero
difference is `+0` either way. -/
theorem neg_sub_alike (u v : UnpackedFloat) :
    Alike (sub .binary64 u v).neg (sub .binary64 u.neg v.neg) := by
  cases u with
  | notANumber => exact .inl rfl
  | infinity s =>
    cases v with
    | infinity t => cases s <;> cases t <;> exact .inl rfl
    | _ => exact .inl rfl
  | zero s =>
    cases v with
    | notANumber => exact .inl rfl
    | infinity t => exact .inl rfl
    | zero t => cases s <;> cases t <;> exact Alike.zeros _ _
    | finite t m e h => cases t <;> exact .inl rfl
  | finite s m e h =>
    cases v with
    | notANumber => exact .inl rfl
    | infinity t => exact .inl rfl
    | zero t => exact .inl rfl
    | finite t n f g =>
      -- both sides align the two mantissas at the smaller exponent; the signed sum is negated
      simp only [UnpackedFloat.sub, UnpackedFloat.neg, apply_neg]
      rw [show -s.apply (decreaseExponent m e (min e f)).1 - -t.apply (decreaseExponent n f (min e f)).1 =
        -(s.apply (decreaseExponent m e (min e f)).1 - t.apply (decreaseExponent n f (min e f)).1) by omega]
      rcases normalize_neg_alike (s.apply (decreaseExponent m e (min e f)).1 -
        t.apply (decreaseExponent n f (min e f)).1) (min e f) .positive with h | h
      · exact .inl h.symm
      · exact .inr h.symm

end Unpacked

/-! ## Doubles and their unpacked form -/

theorem ext_toModel {x y : Float} (h : x.toModel = y.toModel) : x = y := by
  cases x
  cases y
  cases h
  rfl

theorem ofModel_pack_unpack (x : Float) : Float.ofModel (Float.Model.pack x.toModel.unpack) = x :=
  ext_toModel (model_pack_unpack x.toModel)

theorem unpack_zero : (0 : Float).toModel.unpack = .zero .positive := rfl

theorem unpack_pack_zero (s : Sign) : (Float.Model.pack (.zero s)).unpack = .zero s := by
  cases s <;> rfl

theorem beq_zero_iff (x : Float) : (x == 0) = true ↔ ∃ s, x.toModel.unpack = .zero s := by
  show (x.toModel.unpack.compare (0 : Float).toModel.unpack == some .eq) = true ↔ _
  rw [unpack_zero]
  cases x.toModel.unpack with
  | notANumber => simp [UnpackedFloat.compare]
  | infinity s => cases s <;> simp [UnpackedFloat.compare]
  | zero s => simp [UnpackedFloat.compare]
  | finite s m e h => cases s <;> simp [UnpackedFloat.compare]

/-- Packing keeps unpacked values that are alike alike. -/
theorem alike_ofModel_pack {u v : UnpackedFloat} (h : Unpacked.Alike u v) :
    Alike (.ofModel (Float.Model.pack u)) (.ofModel (Float.Model.pack v)) := by
  rcases h with rfl | ⟨⟨s, rfl⟩, t, rfl⟩
  · exact .inl rfl
  · exact .inr ⟨(beq_zero_iff _).mpr ⟨s, unpack_pack_zero s⟩, (beq_zero_iff _).mpr ⟨t, unpack_pack_zero t⟩⟩

theorem alike_of_unpack {a b : Float} (h : Unpacked.Alike a.toModel.unpack b.toModel.unpack) : Alike a b := by
  have h' := alike_ofModel_pack h
  rwa [ofModel_pack_unpack, ofModel_pack_unpack] at h'

theorem unpack_alike {a b : Float} (h : Alike a b) : Unpacked.Alike a.toModel.unpack b.toModel.unpack := by
  rcases h with rfl | ⟨ha, hb⟩
  · exact .inl rfl
  · exact .inr ⟨(beq_zero_iff a).mp ha, (beq_zero_iff b).mp hb⟩

/-! ## Negation -/

theorem unpack_neg (x : Float) : (-x).toModel.unpack = x.toModel.unpack.neg := by
  show (Float.Model.pack x.toModel.unpack.neg).unpack = _
  rw [model_unpack_pack_neg, model_pack_unpack]

theorem neg_ofModel_pack (u : UnpackedFloat) :
    -(Float.ofModel (Float.Model.pack u)) = .ofModel (Float.Model.pack u.neg) := by
  apply ext_toModel
  show Float.Model.pack (Float.Model.pack u).unpack.neg = Float.Model.pack u.neg
  rw [← model_unpack_pack_neg, model_pack_unpack]

theorem neg_neg (x : Float) : - -x = x := by
  apply ext_toModel
  rw [← model_pack_unpack (- -x).toModel, unpack_neg, unpack_neg, neg_neg_unpacked, model_pack_unpack]

/-! ## Identities up to the sign of a zero -/

namespace Alike

@[refl] theorem refl (a : Float) : Alike a a := .inl rfl

@[symm] theorem symm {a b : Float} (h : Alike a b) : Alike b a := by
  rcases h with rfl | ⟨ha, hb⟩
  · exact .inl rfl
  · exact .inr ⟨hb, ha⟩

@[trans] theorem trans {a b c : Float} (h₁ : Alike a b) (h₂ : Alike b c) : Alike a c := by
  rcases h₁ with rfl | ⟨ha, hb⟩
  · exact h₂
  rcases h₂ with rfl | ⟨-, hc⟩
  · exact .inr ⟨ha, hb⟩
  · exact .inr ⟨ha, hc⟩

/-- Adding to doubles that are alike gives doubles that are alike. -/
theorem add_right {a b : Float} (h : Alike a b) (x : Float) : Alike (a + x) (b + x) := by
  rcases h with rfl | ⟨ha, hb⟩
  · exact .inl rfl
  obtain ⟨s, hs⟩ := (beq_zero_iff a).mp ha
  obtain ⟨t, ht⟩ := (beq_zero_iff b).mp hb
  show Alike (.ofModel (Float.Model.pack (add .binary64 a.toModel.unpack x.toModel.unpack)))
    (.ofModel (Float.Model.pack (add .binary64 b.toModel.unpack x.toModel.unpack)))
  rw [hs, ht]
  exact alike_ofModel_pack (Unpacked.zero_add_alike s t _)

theorem neg {a b : Float} (h : Alike a b) : Alike (-a) (-b) := by
  apply alike_of_unpack
  rw [unpack_neg, unpack_neg]
  exact (unpack_alike h).neg

/-- Subtracting doubles that are alike gives doubles that are alike. -/
theorem sub_right (x : Float) {a b : Float} (h : Alike a b) : Alike (x - a) (x - b) := by
  rcases h with rfl | ⟨ha, hb⟩
  · exact .inl rfl
  obtain ⟨s, hs⟩ := (beq_zero_iff a).mp ha
  obtain ⟨t, ht⟩ := (beq_zero_iff b).mp hb
  show Alike (.ofModel (Float.Model.pack (sub .binary64 x.toModel.unpack a.toModel.unpack)))
    (.ofModel (Float.Model.pack (sub .binary64 x.toModel.unpack b.toModel.unpack)))
  rw [hs, ht]
  exact alike_ofModel_pack (Unpacked.sub_zero_alike _ s t)

end Alike

theorem add_zero_alike (x : Float) : Alike (x + 0) x := by
  show Alike (.ofModel (Float.Model.pack (add .binary64 x.toModel.unpack (0 : Float).toModel.unpack))) x
  rw [unpack_zero]
  have h := alike_ofModel_pack (Unpacked.add_zero_alike x.toModel.unpack)
  rwa [ofModel_pack_unpack] at h

theorem add_comm (a b : Float) : a + b = b + a := by
  show Float.ofModel (Float.Model.pack (add .binary64 a.toModel.unpack b.toModel.unpack)) =
    .ofModel (Float.Model.pack (add .binary64 b.toModel.unpack a.toModel.unpack))
  rw [Unpacked.add_comm]

theorem zero_add_alike (x : Float) : Alike (0 + x) x := by
  rw [add_comm]
  exact add_zero_alike x

theorem sub_zero (x : Float) : x - 0 = x := by
  show Float.ofModel (Float.Model.pack (sub .binary64 x.toModel.unpack (0 : Float).toModel.unpack)) = x
  rw [unpack_zero, Unpacked.sub_zero_positive, ofModel_pack_unpack]

/-- `-(a - b)` and `-a - -b` are alike. -/
theorem neg_sub_alike (a b : Float) : Alike (-(a - b)) (-a - -b) := by
  show Alike (-(Float.ofModel (Float.Model.pack (sub .binary64 a.toModel.unpack b.toModel.unpack))))
    (.ofModel (Float.Model.pack (sub .binary64 (-a).toModel.unpack (-b).toModel.unpack)))
  rw [neg_ofModel_pack, unpack_neg, unpack_neg]
  exact alike_ofModel_pack (Unpacked.neg_sub_alike _ _)

/-! ## Equal doubles -/

/-- The comparison answers `eq` only for two zeros, or for the same infinity or finite value. -/
theorem Unpacked.alike_of_compare_eq {u v : UnpackedFloat} (h : u.compare v = some .eq) :
    Unpacked.Alike u v := by
  cases u with
  | notANumber => cases v <;> simp [UnpackedFloat.compare] at h
  | infinity s =>
    cases v with
    | infinity t => cases s <;> cases t <;> simp [UnpackedFloat.compare, Unpacked.Alike] at h ⊢
    | zero t => cases s <;> simp [UnpackedFloat.compare] at h
    | finite t m e hm => cases s <;> simp [UnpackedFloat.compare] at h
    | notANumber => simp [UnpackedFloat.compare] at h
  | zero s =>
    cases v with
    | zero t => exact Unpacked.Alike.zeros s t
    | infinity t => cases t <;> simp [UnpackedFloat.compare] at h
    | finite t m e hm => cases t <;> simp [UnpackedFloat.compare] at h
    | notANumber => simp [UnpackedFloat.compare] at h
  | finite s m e hm =>
    cases v with
    | finite t m' e' hm' =>
      -- equal signs, exponents and mantissas: the same value
      cases s <;> cases t <;> simp [UnpackedFloat.compare] at h <;> obtain ⟨rfl, rfl⟩ := h <;>
        exact .inl rfl
    | infinity t => cases t <;> simp [UnpackedFloat.compare] at h
    | zero t => cases s <;> simp [UnpackedFloat.compare] at h
    | notANumber => simp [UnpackedFloat.compare] at h

/-- Doubles that compare equal are alike: the same double, or two zeros. -/
theorem alike_of_beq {a b : Float} (h : (a == b) = true) : Alike a b := by
  apply alike_of_unpack
  apply Unpacked.alike_of_compare_eq
  have h' : (a.toModel.unpack.compare b.toModel.unpack == some .eq) = true := h
  simpa using h'

/-- A double that compares equal to zero is one of the two zeros. -/
theorem eq_zero_or_eq_neg_zero {a : Float} (h : (a == 0) = true) : a = 0 ∨ a = -0 := by
  obtain ⟨s, hs⟩ := (beq_zero_iff a).mp h
  rw [← ofModel_pack_unpack a, hs]
  cases s with
  | negative => exact .inr rfl
  | positive => exact .inl rfl

/-- A function that sends both zeros to zeros keeps doubles alike. -/
theorem Alike.map {a b : Float} (h : Alike a b) {f : Float → Float} (h₀ : (f 0 == 0) = true)
    (h₁ : (f (-0) == 0) = true) : Alike (f a) (f b) := by
  rcases h with rfl | ⟨ha, hb⟩
  · exact .inl rfl
  have hzero : ∀ x, (x == 0) = true → (f x == 0) = true := fun x hx => by
    rcases eq_zero_or_eq_neg_zero hx with rfl | rfl
    exacts [h₀, h₁]
  exact .inr ⟨hzero a ha, hzero b hb⟩

end Proscenium.Double
