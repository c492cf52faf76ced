import Proscenium.Decimal.Shortest

/-!
# Writing a double as text

The digits always come from `Binary.shortest`; a `Layout` decides only where they go: which
magnitudes are written positionally, whether a whole number keeps a `.0`, how an exponent is
marked, and how NaN and the infinities are spelled. Two layouts are used: one for numbers inside
messages (never an exponent, whole numbers bare) and one for numbers in data answers.
-/

namespace Proscenium.Decimal

/-- The decisions a number format makes around the shortest digits. -/
structure Layout where
  /-- Leading-digit exponents written positionally, as a half-open range; all when `none`. -/
  positional : Option (Int × Int)
  /-- Whole numbers written positionally end in `.0`. -/
  pointZero : Bool
  /-- A positive exponent carries a `+`. -/
  exponentPlus : Bool
  /-- Spelling of a NaN. -/
  nan : String
  /-- Spelling of positive infinity; negative infinity takes a `-` in front. -/
  infinity : String

/-- Numbers inside messages: always positional, whole numbers without a point, `NaN`, `inf`. -/
def Layout.message : Layout := ⟨none, false, false, "NaN", "inf"⟩

/-- Numbers in data answers: positional from `1e-5` up to below `1e16`, whole numbers with `.0`,
an exponent with its sign otherwise. -/
def Layout.data : Layout := ⟨some (-5, 16), true, true, "NaN", "inf"⟩

/-- `n` zero characters. -/
def zeros (n : Nat) : String := String.ofList (List.replicate n '0')

/-- A coefficient and exponent written without an exponent. -/
def positionalText (pointZero : Bool) (d : Nat) (j : Int) : String :=
  let s := toString d
  if j ≥ 0 then
    s ++ zeros j.toNat ++ (if pointZero then ".0" else "")
  else
    let k := (-j).toNat
    let cs := s.toList
    if cs.length > k then
      String.ofList (cs.take (cs.length - k)) ++ "." ++ String.ofList (cs.drop (cs.length - k))
    else
      "0." ++ zeros (k - cs.length) ++ s

/-- A coefficient and exponent written as one leading digit, the rest after a point, and an
exponent. -/
def exponentText (plus : Bool) (d : Nat) (j : Int) : String :=
  let cs := (toString d).toList
  let e : Int := j + cs.length - 1
  let mantissa := match cs with
    | [] => "0"
    | [c] => String.singleton c
    | c :: rest => String.singleton c ++ "." ++ String.ofList rest
  let sign := if e < 0 then "-" else if plus then "+" else ""
  mantissa ++ "e" ++ sign ++ toString e.natAbs

/-- A decimal written under a layout. -/
def Layout.scientific (l : Layout) (s : Scientific) : String :=
  let sign := if s.negative then "-" else ""
  let lead : Int := s.exponent + (toString s.coefficient).length - 1
  let inRange := match l.positional with
    | none => true
    | some (lo, hi) => s.coefficient = 0 ∨ (lo ≤ lead ∧ lead < hi)
  if inRange then sign ++ positionalText l.pointZero s.coefficient s.exponent
  else sign ++ exponentText l.exponentPlus s.coefficient s.exponent

/-- A double written under a layout, through its shortest digits. -/
def Layout.render (l : Layout) (x : Float) : String :=
  match Value.ofFloat x with
  | .nan => l.nan
  | .infinite negative => (if negative then "-" else "") ++ l.infinity
  | .finite b => l.scientific b.shortest

end Proscenium.Decimal
