import Proscenium.CardGame.Board

/-!
# Binding views to the application

Each new view gets its presenter, by screen, from the application it is bound to.

* The *recorder* notes the screen's name and hands out a presenter of that name.
* The *card game* gives the loading screen a presenter that labels the bar `Loading...` (a label
  that cannot be queued is passed over; the loading itself is driven from outside); gives the main menu a presenter that labels the start
  button `New Game` and, on a click, moves to a new game; and gives the game screen a presenter
  that deals the hand and keeps scoped registrations of a layout handler and a drag handler for
  the table. A game screen bound before the textures were loaded is a broken precondition.

Moving on: `toMainMenu` (from a loading view) and `toGame` (from a main menu view) create the
next view, transition to it, and then hand it its presenter. `launch` creates, binds and queues
the first, loading, view.
-/

namespace Proscenium

/-- Run `x`, turning a returned fault into a fatal abort (after rewording it with `wrap`). -/
def faultsAreFatal {α : Type} (wrap : Fault → Fault) (x : Act α) : Act α := fun w =>
  match x w with
  | .error (.fault f) w' => .error (Failure.fatal (wrap f)) w'
  | r => r

/-- The recorder's presenter for a screen, noting the screen. -/
def recordBinding (kind : ScreenKind) : Act Presenter := do
  modifyApp fun a => { a with bound := a.bound ++ [kind.name] }
  pure (.named kind.name)

/-- The game presenter: deal `hand` on game view `v` and register the table's handlers. -/
def startGamePresenter (v : Nat) (textures : CardTextures) (hand : List String) : Act Presenter := do
  let t ← dealBoard v textures hand
  let layout ← gameAddLayout v (.cardLayout t)
  let drag ← gameAddDrag v (.cardDrag t)
  pure (.game t ⟨[layout, drag], true⟩)

/-- The card game's set-up; a scene without one has no view bound to the card game. -/
def gameSetup : Act GameSetup := do
  match (← get).game with
  | some g => pure g
  | none => throw (.abort "no card game")

/-- The presenter for a new loading view. -/
def bindToLoading (v : Nat) : Act Presenter := do
  match (← bindingOf v).app with
  | .recorder => recordBinding .loading
  | .cardGame =>
    match (← viewAt v).screen with
    | .loading bar =>
      Act.ignoreFaults (barSetText bar "Loading...")
      pure .loader
    | _ => throw (.abort "not a loading view")

/-- The presenter for a new main menu view. -/
def bindToMainMenu (v : Nat) : Act Presenter := do
  match (← bindingOf v).app with
  | .recorder => recordBinding .mainMenu
  | .cardGame =>
    faultsAreFatal id do
      match (← viewAt v).screen with
      | .mainMenu button =>
        buttonSetText button "New Game"
        let click ← buttonAddClick button (.startGame v)
        pure (.menu ⟨[click], true⟩)
      | _ => throw (.abort "not a main menu view")

/-- The presenter for a new game view. -/
def bindToGame (v : Nat) : Act Presenter := do
  match (← bindingOf v).app with
  | .recorder => recordBinding .game
  | .cardGame =>
    let hand := (← gameSetup).hand
    match (← get).appState.textures with
    | none => throw (Failure.violation "game view bound before textures were loaded")
    | some textures =>
      let p ← faultsAreFatal (fun f => .internal ("dealing: " ++ f.message))
        (startGamePresenter v textures hand)
      match p with
      | .game t _ => modifyApp fun a => { a with table := some t }
      | _ => pure ()
      pure p

/-- Leave loading view `v` for a new main menu; answers the new view. -/
def toMainMenu (v : Nat) : Act Nat := do
  let next ← addView .mainMenu
  transitionTo v next
  setPresenter next (← bindToMainMenu next)
  pure next

/-- Leave main menu view `v` for a new game; answers the new view. -/
def toGame (v : Nat) : Act Nat := do
  let next ← addView .game
  transitionTo v next
  setPresenter next (← bindToGame next)
  pure next

/-- Create the loading view, bind it to `app` with a new transition service, queue its
presentation and hand it its presenter; answers the view. -/
def launch (app : Application) : Act Nat := do
  let v ← addView .loading
  bindView v ⟨app, ← mintService⟩
  post (.present v)
  setPresenter v (← bindToLoading v)
  pure v

/-- The start button's click: move to a game and, if that went through, to the game stage. A
returned fault is passed over. -/
def startGame (menu : Nat) : Act Unit := fun w =>
  match toGame menu w with
  | .ok _ w' => .ok () { w' with appState := { w'.appState with stage := .game } }
  | .error (.fault _) w' => .ok () w'
  | .error e w' => .error e w'

end Proscenium
