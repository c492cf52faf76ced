import Proscenium.CardGame.Board
import Proscenium.CardGame.Launch
import Proscenium.CardGame.Presenters
import Proscenium.Decimal.Layout
import Proscenium.Decimal.Read
import Proscenium.Decimal.Shortest
import Proscenium.Failure
import Proscenium.Geometry.Basic
import Proscenium.Handler.Registration
import Proscenium.Handler.Registry
import Proscenium.Handler.TaggedRegistry
import Proscenium.Host.Layout
import Proscenium.Host.Pointer
import Proscenium.Host.Tasks
import Proscenium.Input.Pointer
import Proscenium.Loop.TaggedTasks
import Proscenium.Loop.TaskLoop
import Proscenium.Node.HitTest
import Proscenium.Node.Tree
import Proscenium.Proofs.Handler.Deregistering
import Proscenium.Proofs.Handler.History
import Proscenium.Proofs.Handler.Session
import Proscenium.Proofs.Handler.Tokens
import Proscenium.Proofs.Host.Calls
import Proscenium.Proofs.Host.Delivery
import Proscenium.Proofs.Host.Frame
import Proscenium.Proofs.Host.Gesture
import Proscenium.Proofs.Host.Growth
import Proscenium.Proofs.Host.Hosting
import Proscenium.Proofs.Host.Sinks
import Proscenium.Proofs.Host.Stacking
import Proscenium.Proofs.Loop.Drain
import Proscenium.Proofs.Loop.Session
import Proscenium.Proofs.Node.Candidates
import Proscenium.Proofs.Scene.Answers
import Proscenium.Proofs.Views.Slot
import Proscenium.Proofs.Views.Teardown
import Proscenium.Proofs.Views.Transition
import Proscenium.Scene.Act
import Proscenium.Scene.Graph
import Proscenium.Scene.Views
import Proscenium.Scene.Widgets
import Proscenium.Scene.World
import Proscenium.Script.Scene
import Proscenium.Style.Color
import Proscenium.Table.CardTextures
import Proscenium.Table.Place
import Proscenium.Text.Quoted
import Proscenium.Texture.Atlas
import Proscenium.Texture.Basic
import Proscenium.Texture.Loader
import Proscenium.Widget.BarGeometry
import Proscenium.Proofs.CardGame.Looks
import Proscenium.Proofs.CardGame.Table
import Proscenium.Proofs.CardGame.Deal
import Proscenium.Proofs.CardGame.Start
import Proscenium.Proofs.CardGame.Grip
import Proscenium.Proofs.Double.Bits
import Proscenium.Proofs.Double.Zero
import Proscenium.Proofs.Host.DragOffsets
import Proscenium.Proofs.Node.Origins
import Proscenium.Proofs.Double.Rounding
import Proscenium.Proofs.Double.Canonical
import Proscenium.Proofs.Double.Fractions
import Proscenium.Proofs.Texture.Slicing
import Proscenium.Proofs.Style.Hex
import Proscenium.Proofs.Widget.ProgressBar
import Proscenium.Proofs.Table.Row
import Proscenium.Proofs.Widget.Button
