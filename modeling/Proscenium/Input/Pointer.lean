import Proscenium.Geometry.Basic

/-!
# Pointer input and its coordinate spaces

Three spaces meet here. *Native* coordinates are what the platform reports, with the window
origin either top-left (`y` down) or bottom-left (`y` up). *Window* coordinates have the origin
top-left and `y` down; handlers see them as the global position. *Scene* coordinates have the
origin top-left and `y` up, so everything on screen has negative `y`.

A node's handlers also get a position *relative* to the node: the scene point minus the node's
scene origin, reflected so that `y` runs down into the node.
-/

namespace Proscenium

/-- Phase of a pointer gesture. -/
inductive PointerPhase where
  | down
  | move
  | up
  | cancel
deriving Repr, DecidableEq, Inhabited

/-- Where the platform puts the window origin. -/
inductive NativeOrigin where
  | topLeft
  | bottomLeft
deriving Repr, DecidableEq, Inhabited

/-- A pointer event as the platform reports it. -/
structure RawPointer where
  phase : PointerPhase
  x : Float
  y : Float

/-- A pointer event in window and scene space. -/
structure PointerInput where
  phase : PointerPhase
  /-- Window position: origin top-left, `y` down. -/
  global : Point
  /-- Scene position: origin top-left, `y` up. -/
  scene : Point

/-- The coordinates a drag callback receives. -/
structure DragEvent where
  global : Point
  /-- Position from the node's origin, `y` running down into the node. -/
  relative : Point

namespace PointerInput

/-- Translate a platform event. The window height is consulted only for a bottom-left origin,
where the window `y` is `windowHeight - y`. -/
def ofRaw (raw : RawPointer) (origin : NativeOrigin) (windowHeight : Float) : PointerInput :=
  let global : Point := match origin with
    | .topLeft => ⟨raw.x, raw.y⟩
    | .bottomLeft => ⟨raw.x, windowHeight - raw.y⟩
  ⟨raw.phase, global, global.flipY⟩

/-- Position relative to a node whose scene origin is `nodeOrigin`, `y` reflected. -/
def relativeTo (i : PointerInput) (nodeOrigin : Point) : Point := (i.scene - nodeOrigin).flipY

/-- The drag event a node with scene origin `nodeOrigin` receives. -/
def dragEvent (i : PointerInput) (nodeOrigin : Point) : DragEvent :=
  ⟨i.global, i.relativeTo nodeOrigin⟩

end PointerInput

end Proscenium
