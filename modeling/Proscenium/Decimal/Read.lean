/-!
# Reading decimal numerals

A numeral `±d…d[.f…f][e±x…x]` is read into a double in three rounded steps rather than one
correct rounding:

1. Its digits are gathered into a 64-bit accumulator. Whole-part digits from the first one that
   would overflow the accumulator on are dropped, each raising the decimal exponent by one.
   Fraction digits are taken while they fit, each lowering the exponent by one; from the first
   that does not fit on they are dropped and leave the exponent alone.
2. The accumulator is rounded to the nearest double.
3. That double is multiplied by `10^e` when `e ≥ 0` and divided by `10^-e` otherwise, where
   `10^k` stands for the double nearest to it. Below `-308` the value is first divided by
   `10^308`, raising `e` by 308, until `e` is in range or the value is zero.

Each step rounds, so the result can lie a unit in the last place away from the double nearest to
the numeral: `496.79611296932603` reads as `496.796112969326` and `31362059172790.562` as
`31362059172790.56`. A product that overflows, or an exponent above 308 for a non-zero
accumulator, leaves the numeral unread (out of range), and so does an exponent whose digits
overflow a signed 32-bit accumulator while positive for a non-zero accumulator; a negative one
that overflows reads as zero.
-/

namespace Proscenium.Decimal

/-- A numeral as written: its sign, whole-part digits, fraction digits, and the sign and digits
of its exponent (no digits when it has none). Digits are the numbers `0` to `9`. -/
structure Numeral where
  negative : Bool
  whole : List Nat
  fraction : List Nat
  exponentNegative : Bool
  exponent : List Nat
deriving Repr, DecidableEq

/-- The largest value of the 64-bit digit accumulator. -/
def accumulatorMax : Nat := Nat.pow 2 64 - 1

/-- The largest value of the signed 32-bit exponent accumulator. -/
def exponentMax : Nat := Nat.pow 2 31 - 1

/-- Gather whole-part digits into `acc`; answers the accumulator and the number of digits dropped
from the first that would overflow it. -/
def gatherWhole (acc : Nat) : List Nat → Nat × Nat
  | [] => (acc, 0)
  | d :: ds => if acc * 10 + d ≤ accumulatorMax then gatherWhole (acc * 10 + d) ds else (acc, ds.length + 1)

/-- Gather fraction digits into `acc` while they fit; answers the accumulator and the number of
digits taken. -/
def gatherFraction (acc : Nat) : List Nat → Nat × Nat
  | [] => (acc, 0)
  | d :: ds =>
    if acc * 10 + d ≤ accumulatorMax then
      let (a, n) := gatherFraction (acc * 10 + d) ds
      (a, n + 1)
    else (acc, 0)

/-- The exponent's value, unless its digits overflow the signed 32-bit accumulator. -/
def gatherExponent (acc : Nat) : List Nat → Option Nat
  | [] => some acc
  | d :: ds => if acc * 10 + d ≤ exponentMax then gatherExponent (acc * 10 + d) ds else none

/-- Clamp into the signed 32-bit range, as saturating exponent arithmetic does. -/
def clampExponent (e : Int) : Int := max (-(exponentMax : Int) - 1) (min exponentMax e)

/-- The double nearest to a natural number, ties to even. Above 64 bits the number is cut to its
top 64 bits with a sticky low bit for everything cut away, which rounds to 53 bits the same way
the whole number does. -/
def nearestOfNat (n : Nat) : Float :=
  if n ≤ accumulatorMax then (UInt64.ofNat n).toFloat
  else
    let shift := n.log2 - 63
    let top := n / Nat.pow 2 shift
    let sticky := if n % Nat.pow 2 shift = 0 then 0 else 1
    (UInt64.ofNat (top ||| sticky)).toFloat.scaleB shift

/-- The double nearest to `10^k`. -/
def tenPow (k : Nat) : Float := nearestOfNat (Nat.pow 10 k)

/-- Divide by `10^e`, in steps of `10^308` while `e` exceeds 308 and the value is not zero. -/
def scaleDown (f : Float) (e : Nat) : Float :=
  if e ≤ 308 then f / tenPow e
  else if f == 0 then f
  else scaleDown (f / tenPow 308) (e - 308)
termination_by e
decreasing_by omega

/-- The magnitude `acc · 10^e`, by the steps above; `none` when out of range. -/
def scaleMagnitude (acc : Nat) (e : Int) : Option Float :=
  let f := nearestOfNat acc
  if e < 0 then some (scaleDown f (-e).toNat)
  else if e ≤ 308 then
    let r := f * tenPow e.toNat
    if r.isInf then none else some r
  else if f == 0 then some f
  else none

/-- Read a numeral; `none` when it is out of range. -/
def Numeral.read (n : Numeral) : Option Float :=
  let (acc, dropped) := gatherWhole 0 n.whole
  let (acc, taken) := gatherFraction acc n.fraction
  let start : Int := (dropped : Int) - taken
  let signed (f : Float) : Float := if n.negative then -f else f
  match gatherExponent 0 n.exponent with
  | none => if acc ≠ 0 ∧ !n.exponentNegative then none else some (signed 0)
  | some x =>
    let e := clampExponent (if n.exponentNegative then start - x else start + x)
    (scaleMagnitude acc e).map signed

end Proscenium.Decimal
