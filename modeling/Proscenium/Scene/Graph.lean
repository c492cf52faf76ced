import Proscenium.Scene.Act
import Proscenium.Node.HitTest

/-!
# The scene graph

Attaching a child links it to its parent and appends it to the parent's children. Detaching
every child of a node clears the list and each child's parent link.

A node's scene origin walks the parent chain, adding each ancestor's position. Hit testing
reads the graph under the root as a forest of `Tree`s and asks `hitTest`. Both walks are bounded
by the number of nodes, which bounds the depth of any parent chain in a graph without cycles.
-/

namespace Proscenium

/-- Attach `child` as the last child of `parent`. -/
def attach (parent child : Nat) : Act Unit := do
  modifyNode child fun n => { n with parent := some parent }
  modifyNode parent fun n => { n with children := n.children ++ [child] }

/-- Detach every child of `parent`; answer them. -/
def detachAll (parent : Nat) : Act (List Nat) := do
  let children := (← nodeAt parent).children
  modifyNode parent fun n => { n with children := [] }
  children.forM fun c => modifyNode c fun n => { n with parent := none }
  pure children

namespace World

/-- Add the positions of the ancestors from `parent` upward to `acc`, for at most `fuel`
ancestors. -/
def originAbove (w : World) : Nat → Point → Option Nat → Point
  | 0, acc, _ => acc
  | _ + 1, acc, none => acc
  | fuel + 1, acc, some p =>
    match w.nodes[p]? with
    | some n => w.originAbove fuel (acc + n.position) n.parent
    | none => acc

/-- The position of a node's origin in scene coordinates. -/
def sceneOrigin (w : World) (id : Nat) : Point :=
  match w.nodes[id]? with
  | some n => w.originAbove w.nodes.length n.position n.parent
  | none => Point.zero

/-- What hit testing sees of a node. -/
def faceOf (w : World) (id : Nat) : NodeFace Nat :=
  let n := w.nodes.getD id default
  ⟨id, n.position, n.z, n.visible, n.interactive, n.area⟩

/-- The subtree under a node, `fuel` levels deep. -/
def treeOf (w : World) : Nat → Nat → Tree Nat
  | 0, id => .node (w.faceOf id) []
  | fuel + 1, id => .node (w.faceOf id) ((w.nodes.getD id default).children.map (w.treeOf fuel))

/-- The topmost interactive node under scene point `p`, searching below the root. -/
def hitAt (w : World) (p : Point) : Option Nat :=
  hitTest ((w.nodes.getD 0 default).children.map (w.treeOf w.nodes.length)) Point.zero p

end World

/-- The scene origin of a node, now. -/
def sceneOriginOf (id : Nat) : Act Point := do pure ((← get).sceneOrigin id)

end Proscenium
