import Proscenium.Scene.World

/-!
# Acting on the world

`Act α` is a step that reads and changes the world and either answers an `α` or stops with a
failure. A failure keeps the world as it was when the failure struck: work done before an
abort stays done, as it does when a thread unwinds.

This module holds the plumbing every other part uses: arena access by index, fresh entries,
queuing work, stacking indices, recording events, and adding and removing handlers. Queuing
fails with a returned fault once the loop's owner has dropped the loop.
-/

namespace Proscenium

/-- A step on the world that may fail, keeping the world reached. -/
abbrev Act (α : Type) := EStateM Failure World α

namespace Act

/-- Entry `i` of an arena. A missing entry means the world was built wrongly; it is reported
as an abort naming the arena. -/
def lookup {α : Type} (xs : List α) (i : Nat) (what : String) : Act α :=
  match xs[i]? with
  | some x => pure x
  | none => throw (.abort ("dangling " ++ what ++ " " ++ toString i))

/-- Run `x`, carrying on past a returned fault (aborts still stop). -/
def ignoreFaults (x : Act Unit) : Act Unit := fun w =>
  match x w with
  | .ok _ w' => .ok () w'
  | .error (.fault _) w' => .ok () w'
  | .error e w' => .error e w'

end Act

section Arenas

open Act

/-- A node. -/
def nodeAt (id : Nat) : Act NodeState := do lookup (← get).nodes id "node"

/-- Change a node. -/
def modifyNode (id : Nat) (f : NodeState → NodeState) : Act Unit :=
  modify fun w => { w with nodes := w.nodes.modify id f }

/-- Add a node; answer its index. -/
def addNode (n : NodeState) : Act Nat :=
  modifyGet fun w => (w.nodes.length, { w with nodes := w.nodes ++ [n] })

/-- An interaction. -/
def interactionAt (id : Nat) : Act Interaction := do lookup (← get).interactions id "interaction"

/-- Change an interaction. -/
def modifyInteraction (id : Nat) (f : Interaction → Interaction) : Act Unit :=
  modify fun w => { w with interactions := w.interactions.modify id f }

/-- A registry. -/
def registryAt (id : Nat) : Act (Registry Handler) := do lookup (← get).registries id "registry"

/-- Change a registry. -/
def modifyRegistry (id : Nat) (f : Registry Handler → Registry Handler) : Act Unit :=
  modify fun w => { w with registries := w.registries.modify id f }

/-- A new, empty registry. -/
def addRegistry : Act Nat :=
  modifyGet fun w => (w.registries.length, { w with registries := w.registries ++ [Registry.empty] })

/-- A new interaction with empty registries and no sink. -/
def addInteraction : Act Nat := do
  let clicks ← addRegistry
  let drags ← addRegistry
  modifyGet fun w =>
    (w.interactions.length, { w with interactions := w.interactions ++ [⟨clicks, drags, none⟩] })

/-- A progress bar. -/
def barAt (id : Nat) : Act ProgressState := do lookup (← get).bars id "progress bar"

/-- Change a progress bar. -/
def modifyBar (id : Nat) (f : ProgressState → ProgressState) : Act Unit :=
  modify fun w => { w with bars := w.bars.modify id f }

/-- A button. -/
def buttonAt (id : Nat) : Act ButtonState := do lookup (← get).buttons id "button"

/-- Change a button. -/
def modifyButton (id : Nat) (f : ButtonState → ButtonState) : Act Unit :=
  modify fun w => { w with buttons := w.buttons.modify id f }

/-- A sprite. -/
def spriteAt (id : Nat) : Act SpriteState := do lookup (← get).sprites id "sprite"

/-- Change a sprite. -/
def modifySprite (id : Nat) (f : SpriteState → SpriteState) : Act Unit :=
  modify fun w => { w with sprites := w.sprites.modify id f }

/-- A view. -/
def viewAt (id : Nat) : Act ViewState := do lookup (← get).views id "view"

/-- Change a view. -/
def modifyView (id : Nat) (f : ViewState → ViewState) : Act Unit :=
  modify fun w => { w with views := w.views.modify id f }

/-- A card table. -/
def boardAt (id : Nat) : Act Board := do lookup (← get).boards id "table"

/-- Change a card table. -/
def modifyBoard (id : Nat) (f : Board → Board) : Act Unit :=
  modify fun w => { w with boards := w.boards.modify id f }

/-- Change the host state. -/
def modifyHost (f : Host → Host) : Act Unit := modify fun w => { w with host := f w.host }

/-- Change what the application keeps. -/
def modifyApp (f : AppState → AppState) : Act Unit := modify fun w => { w with appState := f w.appState }

end Arenas

/-- The fault of queuing work on a loop that was dropped. -/
def loopDroppedFault : Fault := .runLoop "ui loop has shut down"

/-- Queue work for the owning thread; once the loop is dropped, queuing fails. -/
def post (t : SceneTask) : Act Unit := do
  if (← get).loopDropped then throw (.fault loopDroppedFault)
  else modify fun w => { w with loop := w.loop.post t }

/-- The next stacking index. -/
def nextZ : Act Int := modifyGet fun w =>
  let (z, l) := w.loop.allocateZ
  (z, { w with loop := l })

/-- Record an event. -/
def record (e : SceneEvent) : Act Unit := modify fun w => { w with events := w.events ++ [e] }

/-- Hand out a new transition service. -/
def mintService : Act Nat := modifyGet fun w => (w.services, { w with services := w.services + 1 })

/-- Add a handler to a registry; answer the registration that removes it. -/
def addHandler (registry : Nat) (h : Handler) : Act (Registration Nat) := do
  let r ← registryAt registry
  let (token, r') := r.add h
  modifyRegistry registry fun _ => r'
  pure (.entry registry token)

/-- Carry out a registration's removal. Removing twice removes nothing the second time. -/
def deregister : Registration Nat → Act Unit
  | .entry registry token => modifyRegistry registry fun r => (r.remove token).2
  | .nothing => pure ()
  | .failing f => throw (.fault f)

/-- Deregister each of a list in order, carrying on past faults. -/
def deregisterQuietly (rs : List (Registration Nat)) : Act Unit :=
  rs.forM fun r => Act.ignoreFaults (deregister r)

/-- Drop a presenter: the card game's presenters deregister their scoped handlers. -/
def dropPresenter : Presenter → Act Unit
  | .named _ => pure ()
  | .loader => pure ()
  | .menu regs => if regs.removeOnDrop then deregisterQuietly regs.items else pure ()
  | .game _ regs => if regs.removeOnDrop then deregisterQuietly regs.items else pure ()

end Proscenium
