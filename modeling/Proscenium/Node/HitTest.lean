import Proscenium.Node.Tree

/-!
# Hit testing

The topmost interactive node under a point. Among siblings, a higher stacking index comes first,
and of two equal indices the later sibling. A hidden node is skipped together with its subtree. A
node's children are tried before the node itself. A node is hit when it is interactive and its
hit area, moved to the node's scene origin, contains the point (edges included).

Siblings are not sorted: every sibling's answer is computed, and the answer of the highest
`(z, index)` that has one wins. Since no two siblings share an index, that is the first answer in
the sorted order.
-/

namespace Proscenium

/-- `(z, index)` ordered lexicographically, higher first. -/
def ranksAbove (a b : Int × Nat) : Bool := a.1 > b.1 || (a.1 == b.1 && a.2 > b.2)

/-- Of answers ranked by `(z, index)`, the one of highest rank. -/
def bestRanked : List ((Int × Nat) × α) → Option α
  | [] => none
  | (r, a) :: rest =>
    match bestRankedWith r a rest with
    | (_, best) => some best
where
  /-- Keep the higher-ranked of the current best and each later answer. -/
  bestRankedWith (r : Int × Nat) (a : α) : List ((Int × Nat) × α) → (Int × Nat) × α
    | [] => (r, a)
    | (r', a') :: rest =>
      if ranksAbove r' r then bestRankedWith r' a' rest else bestRankedWith r a rest

namespace Tree

mutual

/-- The hit among a tree and its descendants, for a tree whose parent's scene origin is `origin`. -/
def hit (origin p : Point) : Tree α → Option α
  | .node f cs =>
    if !f.visible then none
    else
      let here := origin + f.position
      match bestRanked (ranked here p cs 0) with
      | some h => some h
      | none => if f.interactive && (f.area.shift here).contains p then some f.label else none

/-- Each sibling's hit, if any, with its rank `(z, index)`. -/
def ranked (origin p : Point) : List (Tree α) → Nat → List ((Int × Nat) × α)
  | [], _ => []
  | t :: ts, i =>
    match hit origin p t with
    | some h => ((t.face.z, i), h) :: ranked origin p ts (i + 1)
    | none => ranked origin p ts (i + 1)

end

/-- The hit among siblings, chosen by rank. -/
def hitAmong (origin p : Point) (ts : List (Tree α)) : Option α := bestRanked (ranked origin p ts 0)

end Tree

/-- The topmost interactive node under `p` in a forest whose parent's scene origin is
`origin`. -/
def hitTest (forest : List (Tree α)) (origin p : Point) : Option α :=
  Tree.hitAmong origin p forest

end Proscenium
