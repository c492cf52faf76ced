import Proscenium.Texture.Atlas
import Proscenium.Texture.Loader

/-!
# The card textures

The card game needs two images: `Card.png`, whose one whole cell is the card background, and
`Symbols.png`, a 6 × 6 atlas of symbols of which the first 21 cells, row by row, are named.
Loading reports progress over both: the card atlas is the first half (fractions `p / 2`), the
symbol atlas the second (`1/2 + p / 2`). A missing image is fatal.
-/

namespace Proscenium

/-- Name of the card background image. -/
def cardImage : String := "Card.png"

/-- Name of the symbol atlas image. -/
def symbolImage : String := "Symbols.png"

/-- The symbols on the atlas, row by row. -/
def symbolTiles : List Tile :=
  [.unit "zero" 0 0, .unit "one" 1 0, .unit "two" 2 0, .unit "three" 3 0, .unit "four" 4 0,
   .unit "five" 5 0, .unit "six" 0 1, .unit "seven" 1 1, .unit "eight" 2 1, .unit "nine" 3 1,
   .unit "plus" 4 1, .unit "minus" 5 1, .unit "times" 0 2, .unit "divide" 1 2,
   .unit "power" 2 2, .unit "radical" 3 2, .unit "paren_l" 4 2, .unit "paren_r" 5 2,
   .unit "inverse" 0 3, .unit "factorial" 1 3, .unit "decimal" 2 3]

/-- Every texture the card game needs. -/
structure CardTextures where
  card : Texture
  /-- Symbols by name, in atlas order. -/
  symbols : List (String × Texture)
deriving Inhabited

/-- The symbol texture of a name. -/
def CardTextures.symbol? (t : CardTextures) (name : String) : Option Texture :=
  (t.symbols.find? (·.1 = name)).map (·.2)

/-- What loading reported and produced. -/
structure CardTexturesLoad where
  progress : List Float
  result : Outcome CardTextures

/-- Load both atlases through `loader` and cut them. -/
def CardTextures.load (loader : Loader) : CardTexturesLoad :=
  match loader.require cardImage with
  | .error e => ⟨[], .error e⟩
  | .ok cardAtlas =>
    let card := sliceAtlas cardAtlas 1 1 [.unit "card" 0 0]
    let cardProgress := card.progress.map (· / 2)
    match card.tiles with
    | .error e => ⟨cardProgress, .error e⟩
    | .ok cardTiles =>
      match loader.require symbolImage with
      | .error e => ⟨cardProgress, .error e⟩
      | .ok symbolAtlas =>
        let symbols := sliceAtlas symbolAtlas 6 6 symbolTiles
        let progress := cardProgress ++ symbols.progress.map (0.5 + · / 2)
        match symbols.tiles, cardTiles.getLast? with
        | .error e, _ => ⟨progress, .error e⟩
        | .ok _, none => ⟨progress, .error (.fault (.internal "card atlas produced no tiles"))⟩
        | .ok named, some (_, card) => ⟨progress, .ok ⟨card, named⟩⟩

end Proscenium
