import Proscenium.Geometry.Basic

/-!
# Card places and the row layout

A card's place is a rectangle in window space: origin top-left, `y` running down. Its edges are
inclusive.

The row layout puts `n` cards of one aspect ratio (width over height) in a single centred row.
A card is at most 35% of the window height tall and 20% of the window wide, and the row keeps a
margin of 5% of the width on either side, with a gap of 3% of a card's width between cards:

* `W = min (min (aspect · 0.35h) (0.2w)) ((w - 2 · w · 0.05) / (n + (n-1) · 0.03))`,
* every card is `W` wide and `W / aspect` tall, vertically centred,
* the row `n · W + (n-1) · W · 0.03` wide is horizontally centred, and card `i` starts
  `i · 1.03 · W` after the first.

No cards, or an aspect that is not above zero, give an empty row. A NaN aspect is not `≤ 0`, so it
is laid out.

The layout is written once over a number type (`LayoutNumber`): doubles are what runs
(`rowLayout`), and other number types read the same formulas, operation for operation.
-/

namespace Proscenium

/-- A card's rectangle in window space, with coordinates in `α` (doubles unless said otherwise). -/
structure Place (α : Type := Float) where
  left : α
  top : α
  width : α
  height : α
deriving Inhabited

namespace Place

/-- Does the place contain the window point? Edges are inclusive. -/
def contains (pl : Place) (p : Point) : Bool :=
  p.x ≥ pl.left && p.x ≤ pl.left + pl.width && p.y ≥ pl.top && p.y ≤ pl.top + pl.height

/-- The centre. -/
def center (pl : Place) : Point := ⟨pl.left + pl.width / 2, pl.top + pl.height / 2⟩

end Place

/-- The numbers a row layout computes with: the four operations, decimal constants, counts, an
order that can be tested, and the smaller of two numbers. -/
class LayoutNumber (α : Type) extends Add α, Sub α, Mul α, Div α, LE α, OfScientific α where
  /-- A count as a number. -/
  ofNat : Nat → α
  /-- The smaller of two numbers. -/
  min : α → α → α
  /-- Whether one number is at most another. -/
  decLe : DecidableRel (α := α) (· ≤ ·)

instance LayoutNumber.decidableLe {α : Type} [LayoutNumber α] : DecidableRel (α := α) (· ≤ ·) :=
  LayoutNumber.decLe

/-- The smaller of two doubles; a NaN operand yields the other one, and of two equal operands
(such as `-0.0` and `0.0`) the second is taken. -/
def fmin (a b : Float) : Float :=
  if b.isNaN then a else if a < b then a else b

/-- Doubles, the numbers the layout runs on. -/
instance : LayoutNumber Float where
  ofNat := Float.ofNat
  min := fmin
  decLe := Float.decLe

@[simp] theorem LayoutNumber.ofNat_zero_float : (LayoutNumber.ofNat 0 : Float) = 0 := rfl

section Row

variable {α : Type} [LayoutNumber α]

open LayoutNumber

/-- Gap between the window edge and the cards, as a fraction of the width. -/
def boundaryFraction : α := 0.05
/-- Gap between cards, as a fraction of the card width. -/
def spacingFraction : α := 0.03
/-- Widest a card may be, as a fraction of the window width. -/
def maxCardWidthFraction : α := 0.2
/-- Tallest a card may be, as a fraction of the window height. -/
def maxCardHeightFraction : α := 0.35

/-- Lay out `count` cards of the given aspect in one centred row for a window `w` wide and `h`
high. -/
def rowLayoutIn (w h : α) (count : Nat) (aspect : α) : List (Place α) :=
  if count = 0 || aspect ≤ ofNat 0 then []
  else
    let n : α := ofNat count
    let maxHeight := h * maxCardHeightFraction
    let maxWidth := LayoutNumber.min (aspect * maxHeight) (w * maxCardWidthFraction)
    let playingWidth := w - ofNat 2 * w * boundaryFraction
    let width := LayoutNumber.min maxWidth (playingWidth / (n + (n - ofNat 1) * spacingFraction))
    let height := width / aspect
    let top := h / ofNat 2 - height / ofNat 2
    let rowWidth := n * width + (n - ofNat 1) * width * spacingFraction
    let firstLeft := w / ofNat 2 - rowWidth / ofNat 2
    (List.range count).map fun i =>
      ⟨firstLeft + ofNat i * (ofNat 1 + spacingFraction) * width, top, width, height⟩

end Row

/-- Lay out `count` cards of the given aspect in one centred row for a window of `size`. -/
def rowLayout (size : Size) (count : Nat) (aspect : Float) : List Place :=
  rowLayoutIn size.w size.h count aspect

end Proscenium
