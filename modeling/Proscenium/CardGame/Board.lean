import Proscenium.Scene.Views

/-!
# The card table

Dealing puts one card per face on a game view: each card is two sprites, its back (the card
texture) and its symbol, created in that order so each takes the next stacking index. A face
with no symbol is a broken precondition, `no symbol for card face X`; the cards dealt before it
keep their sprites.

Placing a card queues four sprite changes: the back's size and location, then the symbol's
size (60% of the card's width, at the symbol's aspect ratio) and location (centred on the card).
Locations are window coordinates, `y` down.

Laying out drops any grab and places the cards in a row (`rowLayout`), as far as the row
reaches. Grabbing takes the last card containing the point, remembering where it was taken, or
drops the grab when there is none; dragging moves the grabbed card by the same offset.
-/

namespace Proscenium

/-- Deal `faces` onto game view `v` with `textures`; answers the new table. -/
def dealBoard (v : Nat) (textures : CardTextures) (faces : List String) : Act Nat := do
  let cards ← faces.mapM fun face => do
    match textures.symbol? face with
    | none => throw (Failure.violation ("no symbol for card face " ++ face))
    | some symbolTexture =>
      let (back, _) ← createSprite v
      spriteSetTexture back textures.card
      let (symbol, _) ← createSprite v
      spriteSetTexture symbol symbolTexture
      pure (Card.mk face back symbol symbolTexture.aspectRatio ⟨0, 0, 0, 0⟩)
  modifyGet fun w =>
    (w.boards.length, { w with boards := w.boards ++ [⟨cards, textures.card.aspectRatio, none⟩] })

/-- Share of a card's width its symbol takes. -/
def symbolWidthFraction : Float := 0.6

/-- Queue the sprite changes that put a card at `place`. -/
def placeSprites (card : Card) (place : Place) : Act Unit := do
  spriteSetSize card.back ⟨place.width, place.height⟩ 0
  spriteSetLocation card.back place.left place.top 0
  let w := place.width * symbolWidthFraction
  let h := w / card.symbolAspect
  spriteSetSize card.symbol ⟨w, h⟩ 0
  spriteSetLocation card.symbol (place.left + place.width / 2 - w / 2)
    (place.top + place.height / 2 - h / 2) 0

/-- Move card `i` of table `t` to `place`. -/
def placeCard (t i : Nat) (place : Place) : Act Unit := do
  let card ← Act.lookup (← boardAt t).cards i "card"
  modifyBoard t fun b => { b with cards := b.cards.modify i fun c => { c with place := place } }
  placeSprites card place

/-- Lay table `t` out for a window of `width × height`. -/
def layoutBoard (t : Nat) (width height : Int) : Act Unit := do
  let size : Size := ⟨Float.ofInt width, Float.ofInt height⟩
  modifyBoard t fun b => { b with grab := none }
  let b ← boardAt t
  let places := rowLayout size b.cards.length b.cardAspect
  (List.range places.length).zip places |>.forM fun (i, place) => placeCard t i place

/-- The index of the last card containing `p`. -/
def lastContaining (cards : List Card) (p : Point) : Option Nat :=
  ((List.range cards.length).zip cards).foldl
    (fun found (i, c) => if c.place.contains p then some i else found) none

/-- Grab the topmost card under `p`; answers whether there was one. -/
def grabCard (t : Nat) (p : Point) : Act Bool := do
  let b ← boardAt t
  let hit := lastContaining b.cards p
  let grab := hit.bind fun i =>
    (b.cards[i]?).map fun c => Grab.mk i (p - ⟨c.place.left, c.place.top⟩)
  modifyBoard t fun b => { b with grab := grab }
  pure hit.isSome

/-- Move the grabbed card, if any, so that the grab point is at `p`. -/
def dragCard (t : Nat) (p : Point) : Act Unit := do
  match (← boardAt t).grab with
  | none => pure ()
  | some g =>
    let card ← Act.lookup (← boardAt t).cards g.card "card"
    placeCard t g.card { card.place with left := p.x - g.offset.x, top := p.y - g.offset.y }

/-- Drop the grabbed card. -/
def releaseCard (t : Nat) : Act Unit := modifyBoard t fun b => { b with grab := none }

end Proscenium
