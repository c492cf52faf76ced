import Proscenium.CardGame.Presenters
import Proscenium.Decimal.Shortest

/-!
# Dispatch, layout and hosting

A registry is dispatched with a *signal*: a click, one of the three drag callbacks with its
event, or a layout with the new size in whole units. Dispatch calls the members as they stood
when it began, in registration order, and answers how many it called; handlers may add and
remove members meanwhile without changing who is called. A handler ignores signals it has no
callback for. The card table's handlers log a failed layout or drag and carry on (faults are
passed over); aborts still stop the dispatch.

A screen's single control (the progress bar, the start button) takes a fifth of the viewport
width, is a golden rectangle (width over height 1.618), and is centred in the viewport. Scene `y`
runs up, so the centre of a viewport of height `h` is at `y = -h/2`.

Laying a view out at a size records the size as the view's last layout and as its node's size,
then lets the screen arrange itself: the loading screen sizes and centres its progress bar, the
main menu its start button (both through `centeredControl`), and the game screen calls its
layout handlers with the size cut to whole units (saturating, `NaN` to 0).

Presenting a view detaches everything under the root, attaches the view, makes it the hosted
view, clears any capture, and lays it out at the last known window size, if any; a layout
fault is passed over. Resizing records the new size on the root and the host, then lays out the
hosted view, if any.
-/

namespace Proscenium

/-! ## Calling handlers -/

/-- What a registry is dispatched with. -/
inductive Signal where
  | click
  | drag (stage : DragStage) (e : DragEvent)
  | layout (w h : Int)

/-- Call one handler. -/
def Handler.run : Handler → Signal → Act Unit
  | .logClick r, .click => record (.click r)
  | .logDrag r, .drag stage e => record (.drag r stage e)
  | .logLayout r, .layout w h => record (.layout r w h)
  | .startGame menu, .click => Proscenium.startGame menu
  | .cardLayout t, .layout w h => Act.ignoreFaults (layoutBoard t w h)
  | .cardDrag t, .drag .start e => do let _ ← grabCard t e.relative
  | .cardDrag t, .drag .move e => Act.ignoreFaults (dragCard t e.relative)
  | .cardDrag t, .drag .finish _ => releaseCard t
  | _, _ => pure ()

/-- Call every member of a registry, as it stands now, with `signal`; answers how many were
called. -/
def dispatch (registry : Nat) (signal : Signal) : Act Nat := do
  let members := (← registryAt registry).snapshot
  members.forM fun h => h.run signal
  pure members.length

/-! ## Centred controls -/

/-- Width over height of a centred control. -/
def goldenRatio : Float := 1.618

/-- Size and centre of the control for a viewport of `size`. -/
def centeredControl (size : Size) : Size × Point :=
  let w := size.w * (1 / 5)
  (⟨w, w / goldenRatio⟩, ⟨size.w / 2, -size.h / 2⟩)

/-! ## Laying out and presenting views -/

/-- Lay view `v` out at `size`. -/
def layoutView (v : Nat) (size : Size) : Act Unit := do
  let view ← viewAt v
  modifyView v fun st => { st with laidOut := some size }
  modifyNode view.node fun n => { n with size := size }
  let (control, at_) := centeredControl size
  match view.screen with
  | .loading bar =>
    barSetSize bar control
    barSetPosition bar at_
  | .mainMenu button =>
    buttonSetSize button control
    buttonSetPosition button at_
  | .game _ layouts =>
    let _ ← dispatch layouts
      (.layout (Decimal.truncInto wordMin wordMax size.w) (Decimal.truncInto wordMin wordMax size.h))

/-- Make view `v` the hosted view. -/
def presentView (v : Nat) : Act Unit := do
  let _ ← detachAll 0
  attach 0 (← viewAt v).node
  modifyHost fun h => { h with current := some v, captured := none }
  match (← get).host.size with
  | some size => Act.ignoreFaults (layoutView v size)
  | none => pure ()

/-- Record a new window size and lay out the hosted view. -/
def resizeHost (size : Size) : Act Unit := do
  modifyNode 0 fun n => { n with size := size }
  modifyHost fun h => { h with size := some size }
  match (← get).host.current with
  | some v => layoutView v size
  | none => pure ()

end Proscenium
