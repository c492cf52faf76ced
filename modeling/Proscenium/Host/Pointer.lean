import Proscenium.Host.Layout

/-!
# Pointer routing

An interaction receiving input first forwards it to its sink, if the sink is alive, and then
calls its own handlers with positions relative to its node: *down* starts a drag, *move* moves
it, *up* ends it and then clicks, and *cancel* ends it without a click.

The host routes a platform event as follows. With a bottom-left origin and no window size yet
the event is dropped (answer `false`); otherwise the window height is the known one, or 0. A
*down* hit-tests from the root and captures what it hit (possibly nothing); other phases go to
the captured node, and *up* or *cancel* end the capture before delivery. A node that was found
takes the event (answer `true`), delivering it to its interaction if it has one.

Sinks can forward to sinks; the chain followed is at most as long as there are interactions, so
a sink chain that loops back is cut off.
-/

namespace Proscenium

/-- Call interaction `it`'s own handlers with `input`, at a node whose scene origin is
`origin`. -/
def deliverOwn (it : Interaction) (input : PointerInput) (origin : Point) : Act Unit := do
  let e := input.dragEvent origin
  match input.phase with
  | .down => let _ ← dispatch it.drags (.drag .start e)
  | .move => let _ ← dispatch it.drags (.drag .move e)
  | .up =>
    let _ ← dispatch it.drags (.drag .finish e)
    let _ ← dispatch it.clicks .click
  | .cancel => let _ ← dispatch it.drags (.drag .finish e)

/-- Deliver `input` to interaction `i`, whose node has scene origin `origin`; `fuel` bounds the
sink chain: with none left, a view sink is not followed. -/
def deliver : Nat → Nat → PointerInput → Point → Act Unit
  | 0, i, input, origin => do
    let it ← interactionAt i
    match it.sink with
    | some (.log name) => record (.sink name input)
    | _ => pure ()
    deliverOwn it input origin
  | fuel + 1, i, input, origin => do
    let it ← interactionAt i
    match it.sink with
    | some (.view (some j) node) => deliver fuel j input (← sceneOriginOf node)
    | some (.log name) => record (.sink name input)
    | _ => pure ()
    deliverOwn it input origin

/-- Node `node` handles `input`: its interaction, if it has one, gets the event at the node's
scene origin. -/
def handleInput (node : Nat) (input : PointerInput) : Act Unit := do
  match (← nodeAt node).target with
  | some i => deliver (← get).interactions.length i input (← sceneOriginOf node)
  | none => pure ()

/-- The window height pointer events are translated with: the known one, or 0 with a top-left
origin; with a bottom-left origin and no window size yet there is none, and events are
dropped. -/
def World.pointerHeight (w : World) : Option Float :=
  match w.origin, w.host.size with
  | .bottomLeft, none => none
  | _, some s => some s.h
  | _, none => some 0

/-- Route one platform event; answers whether a node took it. -/
def routePointer (raw : RawPointer) : Act Bool := do
  let w ← get
  match w.pointerHeight with
  | none => pure false
  | some height =>
    let input := PointerInput.ofRaw raw w.origin height
    let target ← match raw.phase with
      | .down =>
        let hit := w.hitAt input.scene
        modifyHost fun h => { h with captured := hit }
        pure hit
      | _ => pure w.host.captured
    match raw.phase with
    | .up | .cancel => modifyHost fun h => { h with captured := none }
    | _ => pure ()
    match target with
    | none => pure false
    | some node =>
      handleInput node input
      pure true

end Proscenium
