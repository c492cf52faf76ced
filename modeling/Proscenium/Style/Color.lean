/-!
# Colours

A colour is one of five named colours, fully transparent `clear`, or an RGB triple. Every colour
but `clear` has an RGB value.

Hex text `#RRGGBB` is read by stripping every leading `#` and taking the rest as exactly six ASCII
characters in three pairs. A pair is a hex number in the usual reading of unsigned numbers: an
optional leading `+`, then at least one hex digit of either case, and no sign `-`. So `"+f"` is 15
and a pair `"+"` followed by a non-digit is refused.
-/

namespace Proscenium

/-- A fill or text colour. -/
inductive Color where
  | clear
  | black
  | lightGrey
  | darkGrey
  | white
  | cyan
  | rgb (r g b : Nat)
deriving Repr, DecidableEq, Inhabited

namespace Color

/-- The value of a hex digit of either case. -/
def hexDigit (c : Char) : Option Nat :=
  if '0' ≤ c ∧ c ≤ '9' then some (c.toNat - '0'.toNat)
  else if 'a' ≤ c ∧ c ≤ 'f' then some (c.toNat - 'a'.toNat + 10)
  else if 'A' ≤ c ∧ c ≤ 'F' then some (c.toNat - 'A'.toNat + 10)
  else none

/-- One channel from a pair of characters: two hex digits, or `+` and one hex digit. -/
def channel (c₁ c₂ : Char) : Option Nat :=
  if c₁ = '+' then hexDigit c₂
  else do
    let hi ← hexDigit c₁
    let lo ← hexDigit c₂
    pure (16 * hi + lo)

/-- Drop every leading `#`. -/
def stripHashes : List Char → List Char
  | '#' :: cs => stripHashes cs
  | cs => cs

/-- The colour named by hex text, if the text is well formed. -/
def ofHex (s : String) : Option Color :=
  match stripHashes s.toList with
  | [a, b, c, d, e, f] =>
    if [a, b, c, d, e, f].all (·.toNat < 128) then do
      let r ← channel a b
      let g ← channel c d
      let bl ← channel e f
      pure (.rgb r g bl)
    else none
  | _ => none

/-- The RGB form of a colour; `clear` has none. -/
def toRgb : Color → Option Color
  | .clear => none
  | .rgb r g b => some (.rgb r g b)
  | .black => some (.rgb 0 0 0)
  | .lightGrey => some (.rgb 211 211 211)
  | .darkGrey => some (.rgb 169 169 169)
  | .white => some (.rgb 255 255 255)
  | .cyan => some (.rgb 0 255 255)

end Color

end Proscenium
