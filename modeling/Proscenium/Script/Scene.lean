import Proscenium.CardGame.Launch

/-!
# Driving a scene by script

A session drives one scene from its owning thread. It numbers what the script creates, from 0
in creation order: views `v`, sprites `s`, card tables `t` and handler registrations `r`. Views,
sprites and tables made by the application itself (a menu's successor, a dealt card's sprites)
get no number.

Handlers that the script adds record their calls under their registration's number, and sinks
that the script sets up record what reaches them. Each command answers a value and reports the
events recorded while it ran.

A number the session never handed out is refused (`no view 3`), and so is a view of the wrong
screen for the command (`view is game, not loading`). Most commands on a view or a sprite look
it up, and check its screen, before they read the rest of their arguments, and so do the
commands on a card table; those arguments come
as `Field`s, read only when the command gets to them, so that an unknown view is reported before
a malformed argument.

The script binds views to its own application, the recorder. A session that runs the card game
also has the card game's own views, bound to the card game by its launch, and answers questions
about the game's progress; a session without the game refuses them.
-/

namespace Proscenium

/-- Where a script points an event sink. -/
inductive SinkChoice where
  | none
  | view (v : Nat)
  | log (name : String)
  /-- A recording sink that is gone before any event reaches it. -/
  | dropped (name : String)

/-- The commands a scene session takes. -/
inductive SceneCommand where
  | launch
  | resize (w h : Float)
  | setSize (w h : Float)
  | drain
  | pointer (phase : PointerPhase) (x y : Float)
  | click (x y : Float)
  | drag (start finish : Point) (steps : Nat)
  | scene
  | ctxBound
  | newView (kind : ScreenKind)
  | bind (v : Nat)
  | transition (v : Nat) (next : Field Nat)
  | toMainMenu (v : Nat)
  | toGame (v : Nat)
  | setPresenter (v : Nat) (name : Field String)
  | clearPresenter (v : Nat)
  | view (v : Nat)
  | viewSize (v : Nat)
  | viewSetSize (v : Nat) (size : Field Size)
  | sameBinding (v : Nat) (w : Field Nat)
  | bar (v : Nat)
  | barSetValue (v : Nat) (value : Field Int)
  | barSetText (v : Nat) (text : Field String)
  | barSetSize (v : Nat) (w h : Float)
  | barSetPosition (v : Nat) (x y : Float)
  | button (v : Nat)
  | buttonSetSize (v : Nat) (w h : Float)
  | buttonSetPosition (v : Nat) (x y : Float)
  | buttonSetFill (v : Nat) (c : Color)
  | buttonSetText (v : Nat) (text : Field String)
  | buttonAddClick (v : Nat)
  | buttonSetSink (v : Nat) (sink : Field SinkChoice)
  | createSprite (v : Nat)
  | gameAddDrag (v : Nat)
  | gameAddLayout (v : Nat)
  | gameSetSink (v : Nat) (sink : Field SinkChoice)
  | layoutHandlers (v : Nat)
  | sprite (s : Nat)
  | spriteSetTexture (s : Nat) (texture : Field (String × Int × Int))
  | spriteSetLocation (s : Nat) (place : Field (Float × Float × Nat))
  | spriteSetSize (s : Nat) (change : Field (Size × Nat))
  | spriteSetVisible (s : Nat) (visible : Field Bool)
  | spriteAddClick (s : Nat)
  | spriteAddDrag (s : Nat)
  | spriteSetSink (s : Nat) (sink : Field SinkChoice)
  | deregister (r : Nat)
  | deal (v : Nat) (faces : Field (List String)) (images : Field Loader)
  | table (t : Nat)
  | tableLayout (t : Nat) (size : Field (Int × Int))
  | tableGrab (t : Nat) (at_ : Field Point)
  | tableDrag (t : Nat) (at_ : Field Point)
  | tableRelease (t : Nat)
  | stage
  | app

/-- A node as a report shows it. -/
structure NodeReport where
  name : String
  size : Size
  position : Point
  z : Int
  visible : Bool
  interactive : Bool
  children : Nat
  hasParent : Bool

/-- A view as a report shows it; `presenter` names a named presenter. -/
structure ViewReport where
  kind : ScreenKind
  bound : Bool
  hasPresenter : Bool
  retired : Bool
  presenter : Option String
  node : NodeReport

/-- The host as a report shows it. -/
structure HostReport where
  current : Option String
  rootChildren : Nat
  capture : Bool
  size : Option Size

/-- A progress bar as a report shows it. -/
structure BarReport where
  value : Int
  text : String
  bar : Rect
  position : Point
  size : Size
  geometry : BarGeometry

/-- A button as a report shows it. -/
structure ButtonReport where
  text : String
  fontSize : Float
  fill : Color
  textColor : Color
  shape : Rect
  position : Point
  size : Size

/-- A sprite as a report shows it; the texture is its own description. -/
structure SpriteReport where
  z : Int
  position : Point
  size : Size
  visible : Bool
  texture : Option String
  motion : Option Motion
  interactive : Bool
  hasParent : Bool

/-- A card table as a report shows it. -/
structure TableReport where
  cards : List (String × Place)
  dragging : Bool

/-- The card game as a report shows it. -/
structure AppReport where
  stage : GameStage
  texturesLoaded : Bool
  table : Option TableReport

/-- Whether two views are bound to the same application and the same transition service, and
whether the first is bound to the script's own application. -/
structure BindingReport where
  context : Bool
  transitions : Bool
  scriptContext : Bool

/-- What a scene command answers. -/
inductive SceneAnswer where
  | none
  | index (n : Nat)
  | flag (b : Bool)
  | count (n : Nat)
  | host (r : HostReport)
  | names (l : List String)
  | view (r : ViewReport)
  | size (s : Size)
  | binding (r : BindingReport)
  | bar (r : BarReport)
  | button (r : ButtonReport)
  | created (s : Nat) (z : Int)
  | registrySize (n : Nat)
  | sprite (r : SpriteReport)
  | dealt (t : Nat) (handlers : Nat)
  | table (r : TableReport)
  | stage (s : GameStage)
  | app (r : AppReport)

/-- A scene and the script's numbering of what it created. -/
structure SceneSession where
  world : World
  views : List Nat
  sprites : List Nat
  tables : List Nat
  regs : List (Registration Nat)
deriving Inhabited

/-- A session step on the scene and the numbering; failures keep what was reached. -/
abbrev Play (α : Type) := EStateM Failure SceneSession α

namespace SceneSession

/-- A fresh session over a fresh scene. -/
def fresh (origin : NativeOrigin) (game : Option GameSetup) : SceneSession :=
  ⟨World.fresh origin game, [], [], [], []⟩

/-- Run a step on the scene within a session step. -/
def onWorld {α : Type} (x : Act α) : Play α := fun s =>
  match x s.world with
  | .ok a w => .ok a { s with world := w }
  | .error e w => .error e { s with world := w }

/-- Number a view. -/
def numberView (i : Nat) : Play Nat :=
  modifyGet fun s => (s.views.length, { s with views := s.views ++ [i] })

/-- Number a sprite. -/
def numberSprite (i : Nat) : Play Nat :=
  modifyGet fun s => (s.sprites.length, { s with sprites := s.sprites ++ [i] })

/-- Number a table. -/
def numberTable (i : Nat) : Play Nat :=
  modifyGet fun s => (s.tables.length, { s with tables := s.tables ++ [i] })

/-- The number the next registration will get. -/
def nextReg : Play Nat := do pure (← get).regs.length

/-- Number a registration. -/
def numberReg (r : Registration Nat) : Play Nat :=
  modifyGet fun s => (s.regs.length, { s with regs := s.regs ++ [r] })

/-- The view numbered `v`. -/
def viewOf (v : Nat) : Play Nat := do
  match (← get).views[v]? with
  | some i => pure i
  | none => throw (.request ("no view " ++ toString v))

/-- The sprite numbered `s`. -/
def spriteOf (s : Nat) : Play Nat := do
  match (← get).sprites[s]? with
  | some i => pure i
  | none => throw (.request ("no sprite " ++ toString s))

/-- The table numbered `t`. -/
def tableOf (t : Nat) : Play Nat := do
  match (← get).tables[t]? with
  | some i => pure i
  | none => throw (.request ("no table " ++ toString t))

/-- The view numbered `v` and its screen. -/
def screenOf (v : Nat) : Play (Nat × Screen) := do
  let i ← viewOf v
  pure (i, (← onWorld (viewAt i)).screen)

/-- Refusal of a view of screen `actual` where one of screen `kind` was wanted. -/
def wrongScreen (actual kind : ScreenKind) : Failure :=
  .request ("view is " ++ actual.name ++ ", not " ++ kind.name)

/-- Read an argument. -/
def need {α : Type} (f : Field α) : Play α :=
  match f with
  | .ok a => pure a
  | .error m => throw (.request m)

/-- Refuse a question about the card game in a session that does not run it. -/
def cardGameOnly : Play Unit := do
  if (← get).world.game.isNone then throw (.request "not a demo_app script")

/-- The progress bar of loading view `v`. -/
def loadingBar (v : Nat) : Play Nat := do
  match ← screenOf v with
  | (_, .loading bar) => pure bar
  | (_, screen) => throw (wrongScreen screen.kind .loading)

/-- The start button of main menu view `v`. -/
def menuButton (v : Nat) : Play Nat := do
  match ← screenOf v with
  | (_, .mainMenu button) => pure button
  | (_, screen) => throw (wrongScreen screen.kind .mainMenu)

/-- Game view `v`: the view, its interaction and its layout registry. -/
def gameView (v : Nat) : Play (Nat × Nat × Nat) := do
  match ← screenOf v with
  | (i, .game interaction layouts) => pure (i, interaction, layouts)
  | (_, screen) => throw (wrongScreen screen.kind .game)

/-- The sink a choice stands for. -/
def sinkOf : SinkChoice → Play (Option Sink)
  | .none => pure none
  | .view v => do
    let i ← viewOf v
    pure (some (← onWorld (viewSink i)))
  | .log name => pure (some (.log name))
  | .dropped _ => pure (some .dead)

/-- A node's report. -/
def nodeReport (n : NodeState) : NodeReport :=
  ⟨n.name, n.size, n.position, n.z, n.visible, n.interactive, n.children.length, n.parent.isSome⟩

/-- A view's report. -/
def viewReport (w : World) (view : ViewState) : ViewReport :=
  let (held, retired, presenter) := match view.slot with
    | .held (.named n) => (true, false, some n)
    | .held _ => (true, false, none)
    | .retired => (false, true, none)
    | .vacant => (false, false, none)
  ⟨view.screen.kind, view.binding.isSome, held, retired, presenter,
    nodeReport (w.nodes.getD view.node default)⟩

/-- The host's report. -/
def hostReport (w : World) : HostReport :=
  ⟨w.host.current.map fun v => (w.views.getD v default).screen.kind.name,
    (w.nodes.getD 0 default).children.length, w.host.captured.isSome, w.host.size⟩

/-- A table's report. -/
def tableReport (b : Board) : TableReport :=
  ⟨b.cards.map fun c => (c.face, c.place), b.grab.isSome⟩

/-- A sprite's report. -/
def spriteReport (w : World) (s : SpriteState) : SpriteReport :=
  let n := w.nodes.getD s.node default
  ⟨n.z, n.position, n.size, n.visible, s.texture.map Texture.describe, s.motion, n.interactive,
    n.parent.isSome⟩

/-- Route a pointer event at `(x, y)`. -/
def pointerAt (phase : PointerPhase) (x y : Float) : Play Bool :=
  onWorld (routePointer ⟨phase, x, y⟩)

/-- Run one command. -/
def run : SceneCommand → Play SceneAnswer
  | .launch => do
    match (← get).world.game with
    | none => do
      let i ← onWorld (launch .recorder)
      pure (.index (← numberView i))
    | some ⟨_, loader⟩ => do
      let (i, died) ← onWorld (launchGame loader)
      let _ ← numberView i
      match died with
      | some text => throw (.fault (.internal ("loader thread died: " ++ text)))
      | none => pure (.stage (← get).world.appState.stage)
  | .resize w h => do
    match Size.validate w h with
    | .error e => throw (.fault (Fault.ofSizeError e))
    | .ok size => onWorld (resizeHost size); pure .none
  | .setSize w h => do onWorld (resizeHost ⟨w, h⟩); pure .none
  | .drain => do pure (.count (← onWorld Proscenium.drain))
  | .pointer phase x y => do pure (.flag (← pointerAt phase x y))
  | .click x y => do
    let hit ← pointerAt .down x y
    let _ ← pointerAt .up x y
    let _ ← onWorld Proscenium.drain
    pure (.flag hit)
  | .drag a b steps => do
    let hit ← pointerAt .down a.x a.y
    (List.range' 1 steps).forM fun i => do
      let t := Float.ofNat i / Float.ofNat steps
      let _ ← pointerAt .move (a.x + (b.x - a.x) * t) (a.y + (b.y - a.y) * t)
    let _ ← pointerAt .up b.x b.y
    let _ ← onWorld Proscenium.drain
    pure (.flag hit)
  | .scene => do pure (.host (hostReport (← get).world))
  | .ctxBound => do pure (.names (← get).world.appState.bound)
  | .newView kind => do
    let i ← onWorld (addView kind)
    pure (.index (← numberView i))
  | .bind v => do
    let i ← viewOf v
    onWorld (do bindView i ⟨.recorder, ← mintService⟩)
    pure .none
  | .transition v next => do
    let i ← viewOf v
    let j ← viewOf (← need next)
    onWorld (transitionTo i j)
    pure .none
  | .toMainMenu v => do
    let (i, screen) ← screenOf v
    match screen with
    | .loading _ => pure (.index (← numberView (← onWorld (toMainMenu i))))
    | screen => throw (wrongScreen screen.kind .loading)
  | .toGame v => do
    let (i, screen) ← screenOf v
    match screen with
    | .mainMenu _ => pure (.index (← numberView (← onWorld (toGame i))))
    | screen => throw (wrongScreen screen.kind .mainMenu)
  | .setPresenter v name => do
    let i ← viewOf v
    onWorld (setPresenter i (.named (← need name)))
    pure .none
  | .clearPresenter v => do
    let i ← viewOf v
    onWorld (clearPresenter i)
    pure .none
  | .view v => do
    let i ← viewOf v
    let w := (← get).world
    pure (.view (viewReport w (← onWorld (viewAt i))))
  | .viewSize v => do
    let view ← onWorld (viewAt (← viewOf v))
    match view.laidOut with
    | some size => pure (.size size)
    | none => throw (viewViolation view "has not been laid out")
  | .viewSetSize v size => do
    let i ← viewOf v
    onWorld (layoutView i (← need size))
    pure .none
  | .sameBinding v w => do
    let i ← viewOf v
    let j ← viewOf (← need w)
    let a ← onWorld (bindingOf i)
    let b ← onWorld (bindingOf j)
    pure (.binding ⟨a.app == b.app, a.service == b.service, a.app == .recorder⟩)
  | .bar v => do
    let st ← onWorld (barAt (← loadingBar v))
    let n ← onWorld (nodeAt st.node)
    pure (.bar ⟨st.value, st.text, st.bar, n.position, n.size, st.geometry⟩)
  | .barSetValue v value => do
    let bar ← loadingBar v
    onWorld (barSetValue bar (← need value)); pure .none
  | .barSetText v text => do
    let bar ← loadingBar v
    onWorld (barSetText bar (← need text)); pure .none
  | .barSetSize v w h => do onWorld (barSetSize (← loadingBar v) ⟨w, h⟩); pure .none
  | .barSetPosition v x y => do onWorld (barSetPosition (← loadingBar v) ⟨x, y⟩); pure .none
  | .button v => do
    let st ← onWorld (buttonAt (← menuButton v))
    let n ← onWorld (nodeAt st.node)
    pure (.button ⟨st.text, st.fontSize, st.fill, st.textColor, st.shape, n.position, n.size⟩)
  | .buttonSetSize v w h => do onWorld (buttonSetSize (← menuButton v) ⟨w, h⟩); pure .none
  | .buttonSetPosition v x y => do
    onWorld (buttonSetPosition (← menuButton v) ⟨x, y⟩); pure .none
  | .buttonSetFill v c => do onWorld (buttonSetFill (← menuButton v) c); pure .none
  | .buttonSetText v text => do
    let button ← menuButton v
    onWorld (buttonSetText button (← need text)); pure .none
  | .buttonAddClick v => do
    let button ← menuButton v
    let reg ← onWorld (buttonAddClick button (.logClick (← nextReg)))
    pure (.index (← numberReg reg))
  | .buttonSetSink v sink => do
    let button ← menuButton v
    let target ← sinkOf (← need sink)
    onWorld (do setSink (← buttonAt button).interaction target)
    pure .none
  | .createSprite v => do
    let (i, _, _) ← gameView v
    let (sprite, z) ← onWorld (createSprite i)
    pure (.created (← numberSprite sprite) z)
  | .gameAddDrag v => do
    let (i, _, _) ← gameView v
    let reg ← onWorld (gameAddDrag i (.logDrag (← nextReg)))
    pure (.index (← numberReg reg))
  | .gameAddLayout v => do
    let (i, _, _) ← gameView v
    let reg ← onWorld (gameAddLayout i (.logLayout (← nextReg)))
    pure (.index (← numberReg reg))
  | .gameSetSink v sink => do
    let (_, interaction, _) ← gameView v
    let target ← sinkOf (← need sink)
    onWorld (setSink interaction target)
    pure .none
  | .layoutHandlers v => do
    let (_, _, layouts) ← gameView v
    pure (.registrySize (← onWorld (registryAt layouts)).size)
  | .sprite s => do
    let st ← onWorld (spriteAt (← spriteOf s))
    pure (.sprite (spriteReport (← get).world st))
  | .spriteSetTexture s texture => do
    let sprite ← spriteOf s
    let (name, w, h) ← need texture
    onWorld (spriteSetTexture sprite (Texture.whole .stub name w h)); pure .none
  | .spriteSetLocation s place => do
    let sprite ← spriteOf s
    let (left, top, ms) ← need place
    onWorld (spriteSetLocation sprite left top ms); pure .none
  | .spriteSetSize s change => do
    let sprite ← spriteOf s
    let (size, ms) ← need change
    onWorld (spriteSetSize sprite size ms); pure .none
  | .spriteSetVisible s b => do
    let sprite ← spriteOf s
    onWorld (spriteSetVisible sprite (← need b)); pure .none
  | .spriteAddClick s => do
    let sprite ← spriteOf s
    let reg ← onWorld (spriteAddClick sprite (.logClick (← nextReg)))
    pure (.index (← numberReg reg))
  | .spriteAddDrag s => do
    let sprite ← spriteOf s
    let reg ← onWorld (spriteAddDrag sprite (.logDrag (← nextReg)))
    pure (.index (← numberReg reg))
  | .spriteSetSink s sink => do
    let sprite ← spriteOf s
    let target ← sinkOf (← need sink)
    onWorld (do setSink (← spriteAt sprite).interaction target)
    pure .none
  | .deregister r => do
    match (← get).regs[r]? with
    | some reg => onWorld (Proscenium.deregister reg); pure .none
    | none => throw (.request "no such registration")
  | .deal v faces images => do
    let (i, _, _) ← gameView v
    match (CardTextures.load (← need images)).result with
    | .error e => throw e
    | .ok textures =>
      let p ← onWorld (startGamePresenter i textures (← need faces))
      let (t, handlers) := match p with
        | .game t regs => (t, regs.items.length)
        | _ => (0, 0)
      onWorld (setPresenter i p)
      pure (.dealt (← numberTable t) handlers)
  | .table t => do pure (.table (tableReport (← onWorld (boardAt (← tableOf t)))))
  | .tableLayout t size => do
    let board ← tableOf t
    let (w, h) ← need size
    onWorld (layoutBoard board w h); pure .none
  | .tableGrab t at_ => do
    let board ← tableOf t
    pure (.flag (← onWorld (grabCard board (← need at_))))
  | .tableDrag t at_ => do
    let board ← tableOf t
    onWorld (dragCard board (← need at_)); pure .none
  | .tableRelease t => do onWorld (releaseCard (← tableOf t)); pure .none
  | .stage => do
    cardGameOnly
    pure (.stage (← get).world.appState.stage)
  | .app => do
    cardGameOnly
    let w := (← get).world
    let table := w.appState.table.bind fun t => (w.boards[t]?).map tableReport
    pure (.app ⟨w.appState.stage, w.appState.textures.isSome, table⟩)

/-- Run one command; answers the step with the events recorded while it ran. -/
def step (s : SceneSession) (c : SceneCommand) : Step SceneSession SceneEvent SceneAnswer :=
  let s := { s with world := { s.world with events := [] } }
  match run c s with
  | .ok a s' => ⟨{ s' with world := { s'.world with events := [] } }, .ok a, s'.world.events⟩
  | .error e s' => ⟨{ s' with world := { s'.world with events := [] } }, .error e, s'.world.events⟩

end SceneSession

end Proscenium
