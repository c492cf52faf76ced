import Proscenium.Geometry.Basic

/-!
# Progress bar geometry

The parts of a progress bar for one outer size, all relative to the bar's centre. The interior
is the size less a margin of a twentieth of the width; its lower third holds the track, and the
bar runs along the middle third of the track's height, leaving a bar height of room at each end.
The label sits a sixth of the interior height above the centre, at a quarter of that height.

`bar v` is the filled part at `v` percent. It does not clamp: clamping is the widget's business.
-/

namespace Proscenium

/-- The parts of a progress bar for one outer size. -/
structure BarGeometry where
  frame : Rect
  interior : Size
  track : Rect
  /-- Left end of the bar, on its bottom edge. -/
  barOrigin : Point
  maxBarWidth : Float
  barHeight : Float
  labelPosition : Point
  fontSize : Float
deriving Inhabited

/-- The geometry of a bar that has no size yet: every part zero. -/
def BarGeometry.empty : BarGeometry :=
  ⟨⟨Point.zero, ⟨0, 0⟩⟩, ⟨0, 0⟩, ⟨Point.zero, ⟨0, 0⟩⟩, Point.zero, 0, 0, Point.zero, 0⟩

/-- Lay out the parts for an outer size. -/
def BarGeometry.forSize (size : Size) : BarGeometry :=
  let interior : Size := ⟨0.95 * size.w, size.h - 0.05 * size.w⟩
  let trackSize : Size := ⟨interior.w, interior.h / 3⟩
  let barHeight := trackSize.h / 3
  let maxBarWidth := interior.w - barHeight * 2
  let trackBottom := -interior.h * 1.5 / 3
  { frame := Rect.centered Point.zero size
    interior := interior
    track := ⟨⟨-interior.w / 2, trackBottom + trackSize.h⟩, trackSize⟩
    barOrigin := ⟨-maxBarWidth / 2, -(interior.h * 3.5 / 9)⟩
    maxBarWidth := maxBarWidth
    barHeight := barHeight
    labelPosition := ⟨0, interior.h / 6⟩
    fontSize := interior.h / 4 }

/-- The filled part of the track at `value` percent (not clamped). -/
def BarGeometry.bar (g : BarGeometry) (value : Int) : Rect :=
  let w := g.maxBarWidth * Float.ofInt value / 100
  ⟨⟨g.barOrigin.x, g.barOrigin.y + g.barHeight⟩, ⟨w, g.barHeight⟩⟩

end Proscenium
