/-!
# Shortest decimal digits of a binary64 value

A finite double is `m · 2^q` for natural `m` and integer `q`. Every real strictly between the
midpoints to its two neighbouring doubles rounds back to it (the midpoints themselves do when
`m` is even, by ties-to-even). The digits chosen here are those of the decimal `d · 10^j` with
the fewest significant digits inside that interval, and among two such of equal length the one
nearer the value; an exact tie goes to the larger coefficient.

All comparisons are exact: a quantity `a · 2^p · 10^t` is compared with another by scaling both
to natural numbers. Nothing here rounds.

The same decoding gives the two conversions of a double to a whole number in a range
(`truncInto`, `roundInto`).
-/

namespace Proscenium.Decimal

/-- A finite binary64 value taken apart: `(-1)^negative · significand · 2^exponent`. -/
structure Binary where
  negative : Bool
  significand : Nat
  exponent : Int
  /-- The value is normal with an empty fraction field, so the double below it is taken to lie
  half as far away as the double above. (For the smallest positive normal the gap below is in
  fact a whole step; the narrower interval is used there as well.) -/
  narrowBelow : Bool
deriving Repr, DecidableEq

/-- What a 64-bit pattern denotes. -/
inductive Value where
  | nan
  | infinite (negative : Bool)
  | finite (b : Binary)
deriving Repr, DecidableEq

/-- Decode the IEEE 754 binary64 fields of a bit pattern. -/
def Value.ofBits (bits : UInt64) : Value :=
  let n := bits.toNat
  let negative := n / Nat.pow 2 63 = 1
  let biased := (n / Nat.pow 2 52) % Nat.pow 2 11
  let fraction := n % Nat.pow 2 52
  if biased = Nat.pow 2 11 - 1 then
    if fraction = 0 then .infinite negative else .nan
  else if biased = 0 then
    .finite ⟨negative, fraction, -1074, false⟩
  else
    .finite ⟨negative, fraction + Nat.pow 2 52, Int.ofNat biased - 1075, fraction = 0⟩

/-- Decode a float. -/
def Value.ofFloat (x : Float) : Value := Value.ofBits x.toBits

/-- A decimal `coefficient · 10^exponent` with a sign. -/
structure Scientific where
  negative : Bool
  coefficient : Nat
  exponent : Int
deriving Repr, DecidableEq

/-- Compare `a · 2^p · 10^t` with `b · 2^r · 10^u` exactly. -/
def compareScaled (a : Nat) (p t : Int) (b : Nat) (r u : Int) : Ordering :=
  let p0 := min p r
  let t0 := min t u
  compare (a * Nat.pow 2 (p - p0).toNat * Nat.pow 10 (t - t0).toNat)
    (b * Nat.pow 2 (r - p0).toNat * Nat.pow 10 (u - t0).toNat)

/-- `⌊m · 2^q / 10^j⌋`, exactly. -/
def floorScaled (m : Nat) (q j : Int) : Nat :=
  (m * Nat.pow 2 q.toNat * Nat.pow 10 (-j).toNat) / (Nat.pow 2 (-q).toNat * Nat.pow 10 j.toNat)

/-- The number of decimal digits of a natural number (one for zero). -/
def digitCount (n : Nat) : Nat := (Nat.toDigits 10 n).length

/-- The exponent of the leading decimal digit of a positive `m · 2^q`: the `e` with
`10^e ≤ m · 2^q < 10^(e+1)`. -/
def leadingExponent (m : Nat) (q : Int) : Int :=
  let a : Int := (digitCount (m * Nat.pow 2 q.toNat) : Int) - digitCount (Nat.pow 2 (-q).toNat)
  if compareScaled m q 0 1 0 a = .lt then a - 1 else a

/-- Does `d · 10^j` round to the double `m · 2^q`? The rounding interval is written in units of
`2^(q-2)`: it runs from `4m - 2` (or `4m - 1` when the gap below is narrow) to `4m + 2`, with its
ends included exactly when `m` is even. -/
def roundsTo (b : Binary) (d : Nat) (j : Int) : Bool :=
  let m := b.significand
  let lowUnits := if b.narrowBelow then 4 * m - 1 else 4 * m - 2
  let above := compareScaled d 0 j lowUnits (b.exponent - 2) 0
  let below := compareScaled d 0 j (4 * m + 2) (b.exponent - 2) 0
  if m % 2 = 0 then above != .lt && below != .gt
  else above == .gt && below == .lt

/-- Of two decimals `lo · 10^j < hi · 10^j` around the value, the nearer one; a tie goes to
`hi`. -/
def nearer (b : Binary) (lo hi : Nat) (j : Int) : Nat :=
  match compareScaled (2 * b.significand) b.exponent 0 (lo + hi) 0 j with
  | .lt => lo
  | _ => hi

/-- The decimal with `n` significant digits (counted from the leading position `e`) that rounds
to the value, if there is one. -/
def candidate (b : Binary) (e : Int) (n : Nat) : Option (Nat × Int) :=
  let j := e - n + 1
  let lo := floorScaled b.significand b.exponent j
  let hi := lo + 1
  match roundsTo b lo j, roundsTo b hi j with
  | true, true => some (nearer b lo hi j, j)
  | true, false => some (lo, j)
  | false, true => some (hi, j)
  | false, false => none

/-- Drop trailing zeros of the coefficient, raising the exponent to keep the value. -/
def trimZeros (d : Nat) (j : Int) : Nat × Int :=
  if h : d ≠ 0 ∧ d % 10 = 0 then trimZeros (d / 10) (j + 1) else (d, j)
termination_by d
decreasing_by exact Nat.div_lt_self (Nat.pos_of_ne_zero h.1) (by decide)

/-- The first of the digit counts `ns` that yields a decimal rounding to the value. -/
def firstCandidate (b : Binary) (e : Int) : List Nat → Option (Nat × Int)
  | [] => none
  | n :: ns =>
    match candidate b e n with
    | some c => some c
    | none => firstCandidate b e ns

/-- The shortest decimal that rounds back to a finite double. Seventeen significant digits
always suffice, so the fallback (the exact value at seventeen digits) is never taken. -/
def Binary.shortest (b : Binary) : Scientific :=
  if b.significand = 0 then ⟨b.negative, 0, 0⟩
  else
    let e := leadingExponent b.significand b.exponent
    let (d, j) := (firstCandidate b e (List.range' 1 17)).getD
      (floorScaled b.significand b.exponent (e - 16), e - 16)
    let (d', j') := trimZeros d j
    ⟨b.negative, d', j'⟩

/-! ## Whole numbers from doubles

Two conversions of a double to an integer, both exact on the decoded value `m · 2^q`:
truncation toward zero, and rounding to the nearest integer with halves going away from zero.
A conversion into a bounded range then clamps: values beyond either end (infinities included)
become that end, and NaN becomes zero. -/

/-- The magnitude `m · 2^q` truncated to a natural number. -/
def Binary.truncMagnitude (b : Binary) : Nat :=
  b.significand * Nat.pow 2 b.exponent.toNat / Nat.pow 2 (-b.exponent).toNat

/-- The magnitude `m · 2^q` rounded to the nearest natural number, halves upward. -/
def Binary.roundMagnitude (b : Binary) : Nat :=
  (2 * b.significand * Nat.pow 2 b.exponent.toNat + Nat.pow 2 (-b.exponent).toNat) /
    (2 * Nat.pow 2 (-b.exponent).toNat)

/-- A magnitude with the value's sign. -/
def Binary.signed (b : Binary) (n : Nat) : Int := if b.negative then -(n : Int) else n

/-- A double converted into `[lo, hi]` by `whole` on finite values: infinities go to the ends,
NaN to zero, and finite results are clamped. -/
def Value.toRange (lo hi : Int) (whole : Binary → Int) : Value → Int
  | .nan => 0
  | .infinite negative => if negative then lo else hi
  | .finite b => max lo (min hi (whole b))

/-- Truncation toward zero into `[lo, hi]`. -/
def truncInto (lo hi : Int) (x : Float) : Int :=
  (Value.ofFloat x).toRange lo hi fun b => b.signed b.truncMagnitude

/-- Rounding, halves away from zero, into `[lo, hi]`. -/
def roundInto (lo hi : Int) (x : Float) : Int :=
  (Value.ofFloat x).toRange lo hi fun b => b.signed b.roundMagnitude

end Proscenium.Decimal
