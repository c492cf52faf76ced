import Proscenium.Host.Tasks

/-!
# Starting the card game

The card game starts like any application: `launch` creates and binds the loading view and
queues it. Its loading presenter then has the textures loaded in the background. The loading
work reports each progress fraction `p` to the bar as `round(p · 100)` (halves away from zero,
saturating; a report that cannot be queued is passed over), stores the textures unless some were stored already, moves to the main menu and
advances the stage. A returned fault while moving on is passed over; an abort (such as the
fatal abort for a missing image) ends the loading work, and its text is what is reported.

Starting answers the loading view and, if the loading work ended early, its abort text. Every
piece of work it queued has run by then: the loop is drained once the loading work is over.
-/

namespace Proscenium

/-- The hand the card game deals when it is given none: four fours. -/
def defaultHand : List String := ["four", "four", "four", "four"]

/-- The loading work for loading view `v`, reading images from `loader`. -/
def loadGame (v : Nat) (loader : Loader) : Act Unit := do
  let bar ← match (← viewAt v).screen with
    | .loading bar => pure bar
    | _ => throw (.abort "not a loading view")
  let load := CardTextures.load loader
  load.progress.forM fun p => Act.ignoreFaults (barSetValue bar (Decimal.roundInto wordMin wordMax (p * 100)))
  match load.result with
  | .error f => throw f
  | .ok textures =>
    modifyApp fun a => if a.textures.isSome then a else { a with textures := some textures }
    let moved : Act Bool := fun w =>
      match toMainMenu v w with
      | .ok _ w' => .ok true w'
      | .error (.fault _) w' => .ok false w'
      | .error e w' => .error e w'
    if ← moved then modifyApp fun a => { a with stage := .mainMenu }

/-- Launch the card game with images from `loader`, run the loading work and drain the loop.
Answers the loading view and the abort text of loading work that ended early. -/
def launchGame (loader : Loader) : Act (Nat × Option String) := do
  let v ← launch .cardGame
  let ended : Act (Option String) := fun w =>
    match loadGame v loader w with
    | .ok _ w' => .ok none w'
    | .error e w' => .ok (some e.message) w'
  let died ← ended
  let _ ← drain
  pure (v, died)

end Proscenium
