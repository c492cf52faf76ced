import Proscenium.Handler.Registry
import Proscenium.Handler.Registration
import Proscenium.Loop.TaskLoop
import Proscenium.Input.Pointer
import Proscenium.Style.Color
import Proscenium.Widget.BarGeometry
import Proscenium.Table.Place
import Proscenium.Table.CardTextures

/-!
# The scene world

Everything the host, its views and widgets, and the application hold, as one value. Shared
objects live in arenas (lists indexed from 0, only ever appended to) and refer to each other by
index:

* *nodes* form the scene graph; node 0 is the root. A node knows its parent and its children in
  attach order, the shape of its hit area and the interaction (if any) that takes its pointer
  input;
* *interactions* hold a click registry, a drag registry and an optional event sink;
* *registries* hold handlers, which are data (`Handler`);
* progress bars, buttons, sprites, views and card tables each have their own arena.

Work queued for the owning thread is data too (`SceneTask`), and so is what handlers and sinks
record (`SceneEvent`).
-/

namespace Proscenium

/-- How a node's hit area sits around its origin. -/
inductive HitShape where
  /-- Below and to the right of the origin: `Rect.mk 0 size`. -/
  | hanging
  /-- Centred on the origin. -/
  | centered
deriving Repr, DecidableEq, Inhabited

/-- One node of the scene graph. Positions are relative to the parent's origin, `y` up. -/
structure NodeState where
  name : String
  position : Point
  size : Size
  z : Int
  visible : Bool
  interactive : Bool
  parent : Option Nat
  children : List Nat
  shape : HitShape
  /-- The interaction that takes pointer input aimed at this node. -/
  target : Option Nat
deriving Inhabited

/-- A detached, visible node at the origin with no size. -/
def NodeState.fresh (name : String) (shape : HitShape) (interactive : Bool) (target : Option Nat) :
    NodeState :=
  ⟨name, Point.zero, ⟨0, 0⟩, 0, true, interactive, none, [], shape, target⟩

/-- The hit area relative to the node's origin. -/
def NodeState.area (n : NodeState) : Rect :=
  match n.shape with
  | .hanging => ⟨Point.zero, n.size⟩
  | .centered => Rect.centered Point.zero n.size

/-- Where an interaction forwards input before its own handlers see it. The link does not keep
its target alive. -/
inductive Sink where
  /-- A view's input: only a view with an interaction (`some i`) reacts, relative to the view's
  node. -/
  | view (interaction : Option Nat) (node : Nat)
  /-- A sink that records every event under a name. -/
  | log (name : String)
  /-- A sink that is gone. -/
  | dead
deriving Inhabited

/-- Pointer handling for one node: its click and drag registries, and its sink. -/
structure Interaction where
  clicks : Nat
  drags : Nat
  sink : Option Sink
deriving Inhabited

/-- What a registered handler does. -/
inductive Handler where
  /-- Record a click under registration number `r`. -/
  | logClick (r : Nat)
  /-- Record drag callbacks under registration number `r`. -/
  | logDrag (r : Nat)
  /-- Record layouts under registration number `r`. -/
  | logLayout (r : Nat)
  /-- Leave the main menu (view `menu`) for a new game. -/
  | startGame (menu : Nat)
  /-- Lay out card table `t` for the new size. -/
  | cardLayout (t : Nat)
  /-- Pick up, move and drop the cards of table `t`. -/
  | cardDrag (t : Nat)
deriving Inhabited

/-- A progress bar's drawing state. -/
structure ProgressState where
  node : Nat
  geometry : BarGeometry
  value : Int
  bar : Rect
  text : String
deriving Inhabited

/-- A button's look and input. -/
structure ButtonState where
  node : Nat
  text : String
  fontSize : Float
  textColor : Color
  fill : Color
  shape : Rect
  interaction : Nat
deriving Inhabited

/-- The animation a sprite was last given. Durations are whole milliseconds. -/
inductive Motion where
  | resize (target : Size) (ms : Nat)
  | move (target : Point) (ms : Nat)
deriving Inhabited

/-- A textured sprite. -/
structure SpriteState where
  node : Nat
  texture : Option Texture
  motion : Option Motion
  interaction : Nat
deriving Inhabited

/-- The three screens. -/
inductive ScreenKind where
  | loading
  | mainMenu
  | game
deriving Repr, DecidableEq, Inhabited

/-- The screen's name, also its view node's name. -/
def ScreenKind.name : ScreenKind → String
  | .loading => "loading"
  | .mainMenu => "main_menu"
  | .game => "game"

/-- What a screen owns. -/
inductive Screen where
  /-- The loading screen's progress bar. -/
  | loading (bar : Nat)
  /-- The main menu's start button. -/
  | mainMenu (button : Nat)
  /-- The game screen's own interaction and its layout registry. -/
  | game (interaction : Nat) (layouts : Nat)
deriving Inhabited

/-- Which screen a screen's state belongs to. -/
def Screen.kind : Screen → ScreenKind
  | .loading _ => .loading
  | .mainMenu _ => .mainMenu
  | .game _ _ => .game

/-- The presenter a view owns. -/
inductive Presenter where
  /-- A presenter known only by name. -/
  | named (name : String)
  /-- The card game's loading presenter. -/
  | loader
  /-- The card game's main-menu presenter and its scoped registrations. -/
  | menu (regs : Bundle Nat)
  /-- The card game's game presenter: its table and its scoped registrations. -/
  | game (table : Nat) (regs : Bundle Nat)
deriving Inhabited

/-- Who owns a view right now. -/
inductive PresenterSlot where
  | vacant
  | held (p : Presenter)
  /-- Superseded: the view never holds a presenter again. -/
  | retired
deriving Inhabited

/-- The applications a view can be bound to. -/
inductive Application where
  /-- Records the screens it is bound to and hands out presenters named after them. -/
  | recorder
  /-- The card game. -/
  | cardGame
deriving Repr, DecidableEq, Inhabited

/-- What a view is bound with: the application that hands it presenters and the transition
service that swaps it for its successor. -/
structure Binding where
  app : Application
  service : Nat
deriving Repr, DecidableEq, Inhabited

/-- A full-screen view. -/
structure ViewState where
  node : Nat
  screen : Screen
  binding : Option Binding
  slot : PresenterSlot
  laidOut : Option Size
deriving Inhabited

/-- A card on the table: its face, the sprites of its back and symbol, the symbol's aspect
ratio and its place. -/
structure Card where
  face : String
  back : Nat
  symbol : Nat
  symbolAspect : Float
  place : Place
deriving Inhabited

/-- A card being dragged, and where it was taken relative to its top-left corner. -/
structure Grab where
  card : Nat
  offset : Point
deriving Inhabited

/-- A table of cards. -/
structure Board where
  cards : List Card
  cardAspect : Float
  grab : Option Grab
deriving Inhabited

/-- Work queued for the owning thread. -/
inductive SceneTask where
  /-- Make view `v` the hosted view. -/
  | present (v : Nat)
  | barValue (bar : Nat) (value : Int)
  | barText (bar : Nat) (text : String)
  | buttonText (button : Nat) (text : String)
  /-- Give a sprite a texture, and the texture's size. -/
  | spriteTexture (sprite : Nat) (texture : Texture)
  | spriteSize (sprite : Nat) (size : Size) (ms : Nat)
  | spriteMove (sprite : Nat) (target : Point) (ms : Nat)
  | spriteVisible (sprite : Nat) (visible : Bool)
deriving Inhabited

/-- The three drag callbacks. -/
inductive DragStage where
  | start
  | move
  | finish
deriving Repr, DecidableEq, Inhabited

/-- What handlers and sinks record. -/
inductive SceneEvent where
  | click (r : Nat)
  | drag (r : Nat) (stage : DragStage) (e : DragEvent)
  | layout (r : Nat) (w h : Int)
  | sink (name : String) (input : PointerInput)

/-- How far the card game has got. -/
inductive GameStage where
  | loading
  | mainMenu
  | game
deriving Repr, DecidableEq, Inhabited

/-- The card game's set-up: the hand it deals and where it reads its images. -/
structure GameSetup where
  hand : List String
  loader : Loader
deriving Inhabited

/-- What the applications keep: the screens bound so far (recorder), the textures once loaded,
the stage reached, and the table of the game dealt last (card game). -/
structure AppState where
  bound : List String
  textures : Option CardTextures
  stage : GameStage
  table : Option Nat
deriving Inhabited

/-- The host: the last window size reported, the hosted view, and the node capturing the
current gesture. -/
structure Host where
  size : Option Size
  current : Option Nat
  captured : Option Nat
deriving Inhabited

/-- The whole scene. -/
structure World where
  origin : NativeOrigin
  /-- The card game, when the scene runs one. -/
  game : Option GameSetup
  appState : AppState
  loop : TaskLoop SceneTask
  /-- The loop's owner has dropped it: nothing more can be queued. -/
  loopDropped : Bool
  nodes : List NodeState
  interactions : List Interaction
  registries : List (Registry Handler)
  bars : List ProgressState
  buttons : List ButtonState
  sprites : List SpriteState
  views : List ViewState
  boards : List Board
  /-- Transition services handed out so far. -/
  services : Nat
  host : Host
  events : List SceneEvent
deriving Inhabited

/-- An empty scene: only the root node, nothing queued. -/
def World.fresh (origin : NativeOrigin) (game : Option GameSetup) : World where
  origin := origin
  game := game
  appState := ⟨[], none, .loading, none⟩
  loop := TaskLoop.fresh
  loopDropped := false
  nodes := [NodeState.fresh "root" .hanging false none]
  interactions := []
  registries := []
  bars := []
  buttons := []
  sprites := []
  views := []
  boards := []
  services := 0
  host := ⟨none, none, none⟩
  events := []

end Proscenium
