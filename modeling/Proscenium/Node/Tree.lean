import Proscenium.Geometry.Basic

/-!
# Node trees

A scene is a forest of nodes. Each node sits at a position relative to its parent's origin, has a
stacking index `z` among its siblings, may be hidden (taking its whole subtree out of input), may
accept pointer input, and has a hit area relative to its own origin.

A node's *scene origin* is its position plus the positions of all its ancestors, summed from the
node upward: `((p_n + p_parent) + p_grandparent) + …`.
-/

namespace Proscenium

/-- What hit testing and scene origins need to know of one node. -/
structure NodeFace (α : Type) where
  /-- Which node this is. -/
  label : α
  position : Point
  z : Int
  visible : Bool
  interactive : Bool
  /-- The area that takes pointer input, relative to the node's origin. -/
  area : Rect

/-- A node with its children in attach order. -/
inductive Tree (α : Type) where
  | node (face : NodeFace α) (children : List (Tree α))

namespace Tree

/-- The node at the top of a tree. -/
def face : Tree α → NodeFace α
  | .node f _ => f

/-- Its children. -/
def children : Tree α → List (Tree α)
  | .node _ cs => cs

mutual

/-- Every node of a tree in pre-order, each with its scene origin; `above` lists the positions of
the tree's ancestors, nearest first. -/
def originsFrom (above : List Point) : Tree α → List (α × Point)
  | .node f cs =>
    (f.label, above.foldl (· + ·) f.position) :: originsListFrom (f.position :: above) cs

/-- `originsFrom` over a list of sibling trees, in order. -/
def originsListFrom (above : List Point) : List (Tree α) → List (α × Point)
  | [] => []
  | t :: ts => originsFrom above t ++ originsListFrom above ts

end

/-- Every node of a forest of top-level trees in pre-order, with its scene origin. -/
def sceneOrigins (forest : List (Tree α)) : List (α × Point) := originsListFrom [] forest

end Tree

end Proscenium
