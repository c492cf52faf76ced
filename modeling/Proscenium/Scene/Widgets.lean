import Proscenium.Scene.Graph

/-!
# Widgets

Three widgets sit in the scene graph.

* A *progress bar* is interactive but takes no input, and its hit area is centred on its
  origin. Setting its size lays out its geometry at once; its value (clamped to `0..=100`) and
  its text are queued.
* A *button* is interactive with a centred hit area. Setting a size that differs from the
  current one (by `==` on both sides, so a `NaN` side always differs) re-centres its shape,
  sets the font to a quarter of the height and the text colour to dark grey; the same size again
  changes nothing. Its text is queued.
* A *sprite* hangs below and to the right of its origin and turns interactive when it gets a
  handler. Its texture, size, location and visibility are all queued; a texture brings its size
  along, and a location `(left, top)` puts the sprite at `(left, -top)`.

Queued changes are `SceneTask`s; `applyWidgetTask` is what running one does.
-/

namespace Proscenium

section Bars

/-- A new progress bar called `name`; answers its index. -/
def addBar (name : String) : Act Nat := do
  let node ← addNode (NodeState.fresh name .centered true none)
  modifyGet fun w =>
    (w.bars.length,
      { w with bars := w.bars ++ [⟨node, BarGeometry.empty, 0, ⟨Point.zero, ⟨0, 0⟩⟩, ""⟩] })

/-- Size the bar and lay out its geometry for the size, at once. -/
def barSetSize (bar : Nat) (size : Size) : Act Unit := do
  let b ← barAt bar
  modifyNode b.node fun n => { n with size := size }
  modifyBar bar fun st =>
    let g := BarGeometry.forSize size
    { st with geometry := g, bar := g.bar st.value }

/-- Move the bar, at once. -/
def barSetPosition (bar : Nat) (p : Point) : Act Unit := do
  modifyNode (← barAt bar).node fun n => { n with position := p }

/-- Queue a new value, clamped to `0..=100`. -/
def barSetValue (bar : Nat) (value : Int) : Act Unit :=
  post (.barValue bar (max 0 (min 100 value)))

/-- Queue a new text. -/
def barSetText (bar : Nat) (text : String) : Act Unit := post (.barText bar text)

end Bars

section Buttons

/-- A new button called `name`, filled clear; answers its index. -/
def addButton (name : String) : Act Nat := do
  let interaction ← addInteraction
  let node ← addNode (NodeState.fresh name .centered true (some interaction))
  modifyGet fun w =>
    (w.buttons.length,
      { w with buttons := w.buttons ++
        [⟨node, "", 0, .darkGrey, .clear, ⟨Point.zero, ⟨0, 0⟩⟩, interaction⟩] })

/-- Size the button, at once; only a changed size touches its look. -/
def buttonSetSize (button : Nat) (size : Size) : Act Unit := do
  let b ← buttonAt button
  let changed := !((← nodeAt b.node).size == size)
  modifyNode b.node fun n => { n with size := size }
  if changed then
    modifyButton button fun st =>
      { st with shape := Rect.centered Point.zero size, fontSize := size.h / 4, textColor := .darkGrey }

/-- Move the button, at once. -/
def buttonSetPosition (button : Nat) (p : Point) : Act Unit := do
  modifyNode (← buttonAt button).node fun n => { n with position := p }

/-- Change the fill, at once. -/
def buttonSetFill (button : Nat) (c : Color) : Act Unit :=
  modifyButton button fun st => { st with fill := c }

/-- Queue a new text. -/
def buttonSetText (button : Nat) (text : String) : Act Unit := post (.buttonText button text)

end Buttons

section Sprites

/-- A new sprite; answers its index. -/
def addSprite : Act Nat := do
  let interaction ← addInteraction
  let node ← addNode (NodeState.fresh "sprite" .hanging false (some interaction))
  modifyGet fun w =>
    (w.sprites.length, { w with sprites := w.sprites ++ [⟨node, none, none, interaction⟩] })

/-- Queue a texture. -/
def spriteSetTexture (sprite : Nat) (t : Texture) : Act Unit := post (.spriteTexture sprite t)

/-- Queue a size, animated over `ms` milliseconds. -/
def spriteSetSize (sprite : Nat) (size : Size) (ms : Nat) : Act Unit :=
  post (.spriteSize sprite size ms)

/-- Queue a move to `(left, -top)`, animated over `ms` milliseconds. -/
def spriteSetLocation (sprite : Nat) (left top : Float) (ms : Nat) : Act Unit :=
  post (.spriteMove sprite ⟨left, -top⟩ ms)

/-- Queue a change of visibility. -/
def spriteSetVisible (sprite : Nat) (visible : Bool) : Act Unit := post (.spriteVisible sprite visible)

end Sprites

/-- Set or clear an interaction's sink. -/
def setSink (interaction : Nat) (sink : Option Sink) : Act Unit :=
  modifyInteraction interaction fun i => { i with sink := sink }

/-- Run a queued widget change. (Presenting a view is not a widget change; it does nothing
here.) -/
def applyWidgetTask : SceneTask → Act Unit
  | .present _ => pure ()
  | .barValue bar value => modifyBar bar fun st => { st with value := value, bar := st.geometry.bar value }
  | .barText bar text => modifyBar bar fun st => { st with text := text }
  | .buttonText button text => modifyButton button fun st => { st with text := text }
  | .spriteTexture sprite t => do
    let s ← spriteAt sprite
    modifySprite sprite fun st => { st with texture := some t }
    modifyNode s.node fun n => { n with size := ⟨Float.ofInt t.width, Float.ofInt t.height⟩ }
  | .spriteSize sprite size ms => do
    let s ← spriteAt sprite
    modifyNode s.node fun n => { n with size := size }
    modifySprite sprite fun st => { st with motion := some (.resize size ms) }
  | .spriteMove sprite target ms => do
    let s ← spriteAt sprite
    modifyNode s.node fun n => { n with position := target }
    modifySprite sprite fun st => { st with motion := some (.move target ms) }
  | .spriteVisible sprite visible => do
    modifyNode (← spriteAt sprite).node fun n => { n with visible := visible }

end Proscenium
