import Proscenium.Decimal.Layout

/-!
# Points, sizes and rectangles

Plane geometry in doubles. Scene space has its origin at the top-left of the window with `y`
running up, so a rectangle hangs down from its `origin` (its top-left corner): its bottom edge is
`origin.y - h`. Every operation is one IEEE operation per coordinate, in the order written, so
results agree bit for bit with any other evaluation of the same formulas.

A size is only checked when it comes from outside (`Size.validate`): both dimensions finite, then
neither below zero. The check reports the dimensions it refused in a `SizeError`.
-/

namespace Proscenium

/-- A point, or a vector between points. -/
structure Point where
  x : Float
  y : Float
deriving Inhabited

namespace Point

/-- The origin. -/
def zero : Point := ⟨0, 0⟩

instance : Add Point := ⟨fun a b => ⟨a.x + b.x, a.y + b.y⟩⟩
instance : Sub Point := ⟨fun a b => ⟨a.x - b.x, a.y - b.y⟩⟩
instance : Neg Point := ⟨fun a => ⟨-a.x, -a.y⟩⟩

/-- Both coordinates compare equal to zero (so `-0.0` counts as zero). -/
def isZero (p : Point) : Bool := p.x == 0 && p.y == 0

/-- Reflected in the horizontal axis: `y` changes sign. -/
def flipY (p : Point) : Point := ⟨p.x, -p.y⟩

theorem add_def (a b : Point) : a + b = ⟨a.x + b.x, a.y + b.y⟩ := rfl
theorem sub_def (a b : Point) : a - b = ⟨a.x - b.x, a.y - b.y⟩ := rfl

end Point

/-- A width and a height. -/
structure Size where
  w : Float
  h : Float
deriving Inhabited

/-- Why a size was refused. Both carry the dimensions as given. -/
inductive SizeError where
  | nonFinite (w h : Float)
  | negative (w h : Float)

/-- The text of a refusal: `non-finite size 1xNaN`, `negative size -1x2`. Dimensions are written
with the message layout (positional, shortest digits, whole numbers bare). -/
def SizeError.message : SizeError → String
  | .nonFinite w h =>
    "non-finite size " ++ Decimal.Layout.message.render w ++ "x" ++ Decimal.Layout.message.render h
  | .negative w h =>
    "negative size " ++ Decimal.Layout.message.render w ++ "x" ++ Decimal.Layout.message.render h

namespace Size

/-- Two sizes are equal when both dimensions compare equal as doubles. -/
instance : BEq Size := ⟨fun a b => a.w == b.w && a.h == b.h⟩

/-- A size from outside: both dimensions finite (checked first), then neither below zero. -/
def validate (w h : Float) : Except SizeError Size :=
  if !(w.isFinite && h.isFinite) then .error (.nonFinite w h)
  else if w < 0 || h < 0 then .error (.negative w h)
  else .ok ⟨w, h⟩

/-- A size with no area along one of its dimensions. -/
def isEmpty (s : Size) : Bool := s.w == 0 || s.h == 0

/-- Width over height, or zero for a size with no height. -/
def aspectRatio (s : Size) : Float := if s.h == 0 then 0 else s.w / s.h

/-- Both dimensions multiplied by `factor`. -/
def scale (s : Size) (factor : Float) : Size := ⟨s.w * factor, s.h * factor⟩

end Size

/-- A rectangle: its top-left corner in scene space and its extent. -/
structure Rect where
  origin : Point
  size : Size
deriving Inhabited

namespace Rect

/-- The rectangle of `size` whose centre is `c`: its corner is `(c.x - w/2, c.y + h/2)`. -/
def centered (c : Point) (size : Size) : Rect :=
  ⟨⟨c.x - size.w / 2, c.y + size.h / 2⟩, size⟩

def left (r : Rect) : Float := r.origin.x
def right (r : Rect) : Float := r.origin.x + r.size.w
def top (r : Rect) : Float := r.origin.y
def bottom (r : Rect) : Float := r.origin.y - r.size.h

/-- Edges included; any comparison with NaN fails, so a NaN point is never inside. -/
def contains (r : Rect) (p : Point) : Bool :=
  p.x ≥ r.left && p.x ≤ r.right && p.y ≤ r.top && p.y ≥ r.bottom

/-- The same rectangle moved by `by`. -/
def shift (r : Rect) (by_ : Point) : Rect := ⟨r.origin + by_, r.size⟩

end Rect

end Proscenium
