import Proscenium.Texture.Basic

/-!
# Cutting an atlas into tiles

An atlas is a texture divided into a grid of `columns × rows` cells, each `W / columns` by
`H / rows` pixels (division truncating toward zero). A tile names a rectangle of cells; cutting it
gives the region at `(left · tw, top · th)` of size `(width · tw, height · th)`.

The grid must have at least one column and one row. A tile is refused when it reaches past the
last column or row (`left + width > columns`, and only then `top + height > rows`); tiles starting
at negative cells are not refused. Word arithmetic that overflows aborts.

Progress is reported as fractions: `0` once the grid is accepted, then `(i+1)/n` after the `i`-th
of `n` tiles (`n` counted as at least one). A failure keeps the fractions reported before it.
-/

namespace Proscenium

/-- A named rectangle of atlas cells. -/
structure Tile where
  name : String
  left : Int
  top : Int
  width : Int
  height : Int
deriving Repr, DecidableEq, Inhabited

/-- A one-cell tile. -/
def Tile.unit (name : String) (left top : Int) : Tile := ⟨name, left, top, 1, 1⟩

/-- What cutting reported and produced. -/
structure Sliced where
  /-- The fractions reported, in order. -/
  progress : List Float
  /-- The named regions, or why cutting stopped. -/
  tiles : Outcome (List (String × Texture))

/-- Does the tile reach past the grid? The row test is made only when the column test passes. -/
def Tile.outside (t : Tile) (columns rows : Int) : Outcome Bool := do
  let right ← wordAdd t.left t.width
  if right > columns then pure true
  else
    let bottom ← wordAdd t.top t.height
    pure (bottom > rows)

/-- The region of one tile, for cells of `tw × th` pixels. -/
def Tile.cut (t : Tile) (atlas : Texture) (tw th : Int) : Outcome Texture := do
  let l ← wordMul t.left tw
  let tp ← wordMul t.top th
  let w ← wordMul t.width tw
  let h ← wordMul t.height th
  atlas.region l tp w h

/-- Cut the tiles from index `i` on; `total` is the divisor of the progress fractions. -/
def cutTiles (atlas : Texture) (columns rows tw th : Int) (total : Float) :
    Nat → List Tile → List Float × Outcome (List (String × Texture))
  | _, [] => ([], .ok [])
  | i, t :: ts =>
    let step : Outcome Texture := do
      if ← t.outside columns rows then
        throw (.fault (.geometry ("tile " ++ t.name ++ " falls outside the atlas")))
      t.cut atlas tw th
    match step with
    | .error e => ([], .error e)
    | .ok region =>
      let (progress, rest) := cutTiles atlas columns rows tw th total (i + 1) ts
      (Float.ofNat (i + 1) / total :: progress, rest.map ((t.name, region) :: ·))

/-- Cut `tiles` out of `atlas` divided into a `columns × rows` grid. -/
def sliceAtlas (atlas : Texture) (columns rows : Int) (tiles : List Tile) : Sliced :=
  if columns ≤ 0 ∨ rows ≤ 0 then
    ⟨[], .error (.fault (.geometry
      ("atlas grid must be positive, got " ++ toString columns ++ "x" ++ toString rows)))⟩
  else
    let tw := atlas.width.tdiv columns
    let th := atlas.height.tdiv rows
    let total := Float.ofNat (max tiles.length 1)
    let (progress, result) := cutTiles atlas columns rows tw th total 0 tiles
    ⟨0 :: progress, result⟩

end Proscenium
