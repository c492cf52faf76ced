import Proscenium.Failure
import Proscenium.Text.Quoted

/-!
# Textures

A texture is a rectangular region of a named image, measured in pixels from the image's top-left
corner. Nothing is decoded: only the geometry is kept. Two kinds of image source exist, and they
differ only in how a texture describes itself:

* a *stub* image: `StubTexture(name[left,top widthxheight])`, the name written as it is;
* a *memory* image:
  `MemoryTexture { image: "name", left: 0, top: 0, width: 10, height: 10 }`, the name quoted.

Pixel quantities are signed 64-bit words. Cutting a region adds the region's offset to the
texture's own; a sum outside the word range aborts.
-/

namespace Proscenium

/-- The kind of image a texture is cut from. -/
inductive ImageKind where
  | stub
  | memory
deriving Repr, DecidableEq, Inhabited

/-- A region of a named image. -/
structure Texture where
  kind : ImageKind
  image : String
  left : Int
  top : Int
  width : Int
  height : Int
deriving Repr, DecidableEq, Inhabited

namespace Texture

/-- A whole image. -/
def whole (kind : ImageKind) (image : String) (width height : Int) : Texture :=
  ⟨kind, image, 0, 0, width, height⟩

/-- The region at `(left, top)` of this texture, of the given size. Its offset is the sum of
this texture's offset and the region's, which must stay within the word range. -/
def region (t : Texture) (left top width height : Int) : Outcome Texture := do
  let l ← wordAdd t.left left
  let tp ← wordAdd t.top top
  pure ⟨t.kind, t.image, l, tp, width, height⟩

/-- Width over height, or zero for a texture with no height. -/
def aspectRatio (t : Texture) : Float :=
  if t.height = 0 then 0 else Float.ofInt t.width / Float.ofInt t.height

/-- How a texture describes itself. -/
def describe (t : Texture) : String :=
  match t.kind with
  | .stub =>
    "StubTexture(" ++ t.image ++ "[" ++ toString t.left ++ "," ++ toString t.top ++ " " ++
      toString t.width ++ "x" ++ toString t.height ++ "])"
  | .memory =>
    "MemoryTexture \x7b image: " ++ Text.quoted t.image ++ ", left: " ++ toString t.left ++
      ", top: " ++ toString t.top ++ ", width: " ++ toString t.width ++ ", height: " ++
      toString t.height ++ " \x7d"

end Texture

end Proscenium
