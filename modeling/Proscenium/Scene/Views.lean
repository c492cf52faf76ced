import Proscenium.Scene.Widgets

/-!
# Views

A view is a full-screen node over one of three screens. Its life runs: created, bound,
attached, used, retired.

* Creating a view builds its screen's widgets and attaches them: the loading screen's progress
  bar, the main menu's start button (filled cyan), or nothing for the game screen, which owns an
  interaction and a registry of layout handlers instead.
* A view is bound exactly once, to an application and a transition service; binding again is a
  broken precondition, `<screen> view is already bound`.
* Its presenter slot is vacant, holds a presenter, or is retired. Setting a presenter on a
  retired view drops the presenter at once; replacing or clearing one drops the old one.
* `transitionTo v next` binds `next` with `v`'s binding, queues the swap to `next`, and retires
  `v`, dropping its presenter before the swap has run. An unbound `v` is a broken precondition,
  `<screen> view is not bound`.
-/

namespace Proscenium

/-- The broken precondition named for a view's screen. -/
def viewViolation (v : ViewState) (what : String) : Failure :=
  Failure.violation (v.screen.kind.name ++ " view " ++ what)

/-- Create an unbound view of a screen; answers its index. -/
def addView (kind : ScreenKind) : Act Nat := do
  let (screen, children) ← match kind with
    | .loading => do
      let bar ← addBar "progress"
      pure (Screen.loading bar, [(← barAt bar).node])
    | .mainMenu => do
      let button ← addButton "start_new_game"
      buttonSetFill button .cyan
      pure (Screen.mainMenu button, [(← buttonAt button).node])
    | .game => do
      let interaction ← addInteraction
      let layouts ← addRegistry
      pure (Screen.game interaction layouts, [])
  let target := match screen with
    | .game interaction _ => some interaction
    | _ => none
  let node ← addNode (NodeState.fresh kind.name .hanging false target)
  children.forM (attach node)
  modifyGet fun w =>
    (w.views.length, { w with views := w.views ++ [⟨node, screen, none, .vacant, none⟩] })

/-- Bind a view. -/
def bindView (v : Nat) (b : Binding) : Act Unit := do
  let view ← viewAt v
  if view.binding.isSome then throw (viewViolation view "is already bound")
  modifyView v fun st => { st with binding := some b }

/-- What a view was bound with. -/
def bindingOf (v : Nat) : Act Binding := do
  let view ← viewAt v
  match view.binding with
  | some s => pure s
  | none => throw (viewViolation view "is not bound")

/-- Hand a view its presenter. -/
def setPresenter (v : Nat) (p : Presenter) : Act Unit := do
  match (← viewAt v).slot with
  | .retired => dropPresenter p
  | .held old =>
    modifyView v fun st => { st with slot := .held p }
    dropPresenter old
  | .vacant => modifyView v fun st => { st with slot := .held p }

/-- Drop a view's presenter, if it holds one. -/
def clearPresenter (v : Nat) : Act Unit := do
  match (← viewAt v).slot with
  | .held old =>
    modifyView v fun st => { st with slot := .vacant }
    dropPresenter old
  | _ => pure ()

/-- Mark a view superseded, dropping its presenter. -/
def retire (v : Nat) : Act Unit := do
  let old := (← viewAt v).slot
  modifyView v fun st => { st with slot := .retired }
  match old with
  | .held p => dropPresenter p
  | _ => pure ()

/-- Supersede view `v` with view `next`. -/
def transitionTo (v next : Nat) : Act Unit := do
  bindView next (← bindingOf v)
  post (.present next)
  retire v

/-- A view's game screen: its interaction and layout registry. -/
def gameScreen (v : Nat) : Act (Nat × Nat) := do
  match (← viewAt v).screen with
  | .game interaction layouts => pure (interaction, layouts)
  | _ => throw (.abort "not a game view")

/-- Create a sprite on a game view: it takes the next stacking index and becomes the view's last
child. Answers the sprite and its stacking index. -/
def createSprite (v : Nat) : Act (Nat × Int) := do
  let sprite ← addSprite
  let node := (← spriteAt sprite).node
  let z ← nextZ
  modifyNode node fun n => { n with z := z }
  attach (← viewAt v).node node
  pure (sprite, z)

/-- Add a drag handler to a game view, which makes the view interactive. -/
def gameAddDrag (v : Nat) (h : Handler) : Act (Registration Nat) := do
  modifyNode (← viewAt v).node fun n => { n with interactive := true }
  let (interaction, _) ← gameScreen v
  addHandler (← interactionAt interaction).drags h

/-- Add a layout handler to a game view. -/
def gameAddLayout (v : Nat) (h : Handler) : Act (Registration Nat) := do
  let (_, layouts) ← gameScreen v
  addHandler layouts h

/-- Add a click handler to a sprite, which makes it interactive. -/
def spriteAddClick (sprite : Nat) (h : Handler) : Act (Registration Nat) := do
  let s ← spriteAt sprite
  modifyNode s.node fun n => { n with interactive := true }
  addHandler (← interactionAt s.interaction).clicks h

/-- Add a drag handler to a sprite, which makes it interactive. -/
def spriteAddDrag (sprite : Nat) (h : Handler) : Act (Registration Nat) := do
  let s ← spriteAt sprite
  modifyNode s.node fun n => { n with interactive := true }
  addHandler (← interactionAt s.interaction).drags h

/-- Add a click handler to a button. -/
def buttonAddClick (button : Nat) (h : Handler) : Act (Registration Nat) := do
  addHandler (← interactionAt (← buttonAt button).interaction).clicks h

/-- The sink that stands for a view's input: a game view's interaction at its node; other views
take no input. -/
def viewSink (v : Nat) : Act Sink := do
  let view ← viewAt v
  match view.screen with
  | .game interaction _ => pure (.view (some interaction) view.node)
  | _ => pure (.view none view.node)

end Proscenium
