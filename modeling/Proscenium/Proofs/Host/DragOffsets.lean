import Proscenium.Proofs.Host.Gesture
import Proscenium.Proofs.Double.Zero

/-!
# Where a drag starts

A platform point reaches a node's drag handlers through three changes of axes: the platform's
origin (top-left, or bottom-left with `y` up) becomes the window's (`PointerInput.ofRaw`), the
window point is reflected into the scene (`y` up), and the scene point less the node's scene
origin is reflected back (`PointerInput.relativeTo`). A sprite is placed at `(left, -top)`
(`spriteSetLocation`), under the game view's node, under the root.

With the view and the root at the origin, the two reflections cancel and the sprite's drag
handlers see the window point less `(left, top)`: exactly so, but for the sign of a zero
component, since adding the view's and the root's `+0` turns a `-0` into `+0`
(`Double.Alike`). The view's own handlers see the window point itself, exactly
(`drag_start_is_offset_from_sprite_location`).
-/

namespace Proscenium

open Double

namespace World

variable {w : World}

theorem originAbove_none (w : World) (fuel : Nat) (acc : Point) : w.originAbove fuel acc none = acc := by
  cases fuel <;> rfl

theorem originAbove_some {p : Nat} {pn : NodeState} (hp : w.nodes[p]? = some pn) (fuel : Nat) (acc : Point) :
    w.originAbove (fuel + 1) acc (some p) = w.originAbove fuel (acc + pn.position) pn.parent := by
  rw [originAbove, hp]

section Chain

variable {vn : Nat} {vnode root : NodeState}
  (hv : w.nodes[vn]? = some vnode) (hvr : vnode.parent = some 0)
  (hr : w.nodes[0]? = some root) (hrr : root.parent = none)

include hv hvr hr hrr in
/-- A node hanging from the root is not the root, so there are two nodes at least. -/
theorem two_le_length_of_child_of_root : 2 ≤ w.nodes.length := by
  have hlt : vn < w.nodes.length := (List.getElem?_eq_some_iff.mp hv).1
  have hne : vn ≠ 0 := by
    rintro rfl
    rw [hr] at hv
    cases hv
    rw [hrr] at hvr
    cases hvr
  omega

include hv hvr hr hrr in
/-- The scene origin of a node hanging from the root: its position plus the root's. -/
theorem sceneOrigin_of_child_of_root : w.sceneOrigin vn = vnode.position + root.position := by
  obtain ⟨K, hK⟩ : ∃ K, w.nodes.length = K + 2 :=
    ⟨w.nodes.length - 2, by have := two_le_length_of_child_of_root hv hvr hr hrr; omega⟩
  rw [sceneOrigin, hv]
  dsimp only
  rw [hK, hvr, originAbove_some hr, hrr, originAbove_none]

include hv hvr hr hrr in
/-- The scene origin of a node two levels below the root adds its parent's position and the
root's to its own, in that order. -/
theorem sceneOrigin_of_grandchild_of_root {n : Nat} {sn : NodeState} (hn : w.nodes[n]? = some sn)
    (hsv : sn.parent = some vn) :
    w.sceneOrigin n = (sn.position + vnode.position) + root.position := by
  obtain ⟨K, hK⟩ : ∃ K, w.nodes.length = K + 2 :=
    ⟨w.nodes.length - 2, by have := two_le_length_of_child_of_root hv hvr hr hrr; omega⟩
  rw [sceneOrigin, hn]
  dsimp only
  rw [hK, hsv, originAbove_some hv, hvr, originAbove_some hr, hrr, originAbove_none]

end Chain

/-- With a known window size, events are translated with its height, whatever the origin. -/
theorem pointerHeight_of_size {sz : Size} (hsize : w.host.size = some sz) : w.pointerHeight = some sz.h := by
  unfold pointerHeight
  rw [hsize]
  cases w.origin <;> rfl

end World

namespace PointerInput

/-- Relative to an origin, a translated event's position is its window position less the
origin, the `y` part reflected twice. -/
theorem relativeTo_ofRaw (raw : RawPointer) (o : NativeOrigin) (height : Float) (origin : Point) :
    (ofRaw raw o height).relativeTo origin =
      ⟨(ofRaw raw o height).global.x - origin.x, -(-(ofRaw raw o height).global.y - origin.y)⟩ :=
  rfl

/-- At the scene's origin, the relative position is the window position. -/
theorem relativeTo_ofRaw_zero (raw : RawPointer) (o : NativeOrigin) (height : Float) :
    (ofRaw raw o height).relativeTo (Point.zero + Point.zero) = (ofRaw raw o height).global := by
  have hzero : (0 : Float) + 0 = 0 := by decide
  rw [relativeTo_ofRaw]
  show Point.mk (_ - (0 + 0)) (-(-_ - (0 + 0))) = _
  rw [hzero, sub_zero, sub_zero, Double.neg_neg]

/-- Relative to a node placed at `(left, -top)` below two nodes at the origin, the position is
the window position less `(left, top)`, up to the sign of a zero. -/
theorem relativeTo_ofRaw_placed (raw : RawPointer) (o : NativeOrigin) (height left top : Float) :
    Alike ((ofRaw raw o height).relativeTo ((⟨left, -top⟩ + Point.zero) + Point.zero)).x
        ((ofRaw raw o height).global.x - left) ∧
      Alike ((ofRaw raw o height).relativeTo ((⟨left, -top⟩ + Point.zero) + Point.zero)).y
        ((ofRaw raw o height).global.y - top) := by
  rw [relativeTo_ofRaw]
  generalize (ofRaw raw o height).global = g
  have hx : Alike ((left + 0) + 0) left := (add_zero_alike _).trans (add_zero_alike left)
  have hy : Alike ((-top + 0) + 0) (-top) := (add_zero_alike _).trans (add_zero_alike (-top))
  constructor
  · exact Alike.sub_right g.x hx
  · -- the reflections cancel: `-(-y - -t)` is `- -y - - -t`, which is `y - t`
    have h := (Alike.sub_right (-g.y) hy).neg.trans (neg_sub_alike (-g.y) (-top))
    rwa [Double.neg_neg, Double.neg_neg] at h

end PointerInput

section Offsets

variable {w : World} {raw : RawPointer} {sz : Size} {n vn i : Nat} {sn vnode root : NodeState}
  {it : Interaction} {left top : Float}

/-- **A drag starts at the pointer's offset from the sprite's location.** A *down* the scene
routes to a sprite placed at `(left, top)` under a node that hangs from the root, both at the
origin, reaches the sprite's interaction last, after its sinks, as a drag start whose window
position is the platform point, `y` measured from the top of a window `sz.h` high for a
bottom-left origin; its position relative to the sprite is the window point less
`(left, top)`, up to the sign of a zero component. Relative to the view's node, any event's
position is its window position, exactly. -/
theorem drag_start_is_offset_from_sprite_location
    (hsize : w.host.size = some sz) (hdown : raw.phase = .down) (ht : w.pointerTarget raw = some n)
    (hn : w.nodes[n]? = some sn) (hpos : sn.position = ⟨left, -top⟩) (hsv : sn.parent = some vn)
    (hv : w.nodes[vn]? = some vnode) (hvpos : vnode.position = Point.zero) (hvr : vnode.parent = some 0)
    (hr : w.nodes[0]? = some root) (hrpos : root.position = Point.zero) (hrr : root.parent = none)
    (htarget : sn.target = some i) (hi : w.interactions[i]? = some it) :
    (∃ forwarded : Except Failure (List Delivery), w.pointerDeliveries raw = forwarded.map
        (· ++ [.call i it.drags (.drag .start ((w.pointerInput raw).dragEvent (w.sceneOrigin n)))])) ∧
      (w.origin = .topLeft → ((w.pointerInput raw).dragEvent (w.sceneOrigin n)).global = ⟨raw.x, raw.y⟩) ∧
      (w.origin = .bottomLeft →
        ((w.pointerInput raw).dragEvent (w.sceneOrigin n)).global = ⟨raw.x, sz.h - raw.y⟩) ∧
      Alike ((w.pointerInput raw).dragEvent (w.sceneOrigin n)).relative.x
        (((w.pointerInput raw).dragEvent (w.sceneOrigin n)).global.x - left) ∧
      Alike ((w.pointerInput raw).dragEvent (w.sceneOrigin n)).relative.y
        (((w.pointerInput raw).dragEvent (w.sceneOrigin n)).global.y - top) ∧
      ∀ raw' : RawPointer,
        ((w.pointerInput raw').dragEvent (w.sceneOrigin vn)).relative = (w.pointerInput raw').global := by
  have hin : ∀ r, w.pointerInput r = .ofRaw r w.origin sz.h := fun r => by
    rw [World.pointerInput, World.pointerHeight_of_size hsize]
    rfl
  have hsprite : w.sceneOrigin n = (⟨left, -top⟩ + Point.zero) + Point.zero := by
    rw [World.sceneOrigin_of_grandchild_of_root hv hvr hr hrr hn hsv, hpos, hvpos, hrpos]
  have hview : w.sceneOrigin vn = Point.zero + Point.zero := by
    rw [World.sceneOrigin_of_child_of_root hv hvr hr hrr, hvpos, hrpos]
  obtain ⟨hrx, hry⟩ := PointerInput.relativeTo_ofRaw_placed raw w.origin sz.h left top
  refine ⟨?_, fun ho => ?_, fun ho => ?_, ?_, ?_, fun raw' => ?_⟩
  · -- the sprite's node hands the event to its interaction, whose own call for a down is a drag start
    obtain ⟨forwarded, hd, -⟩ := World.inputDeliveries_of_target (by rw [hn, Option.map_some, htarget]) hi
      (w.pointerInput raw)
    refine ⟨forwarded, ?_⟩
    have hphase : (w.pointerInput raw).phase = .down := by rw [hin]; exact hdown
    rw [World.pointerDeliveries, ht]
    dsimp only
    rw [hd, Interaction.own, hphase]
  · rw [hin, ho]
    rfl
  · rw [hin, ho]
    rfl
  · rw [hin, hsprite]
    exact hrx
  · rw [hin, hsprite]
    exact hry
  · rw [hin, hview]
    exact PointerInput.relativeTo_ofRaw_zero raw' w.origin sz.h

/-- A sprite placed at `(10, 20)` in a window 100 high with a bottom-left origin: a *down* at
`(15, 70)` hits it, and the drag starts `5` from its left edge. -/
theorem drag_start_on_a_placed_sprite :
    let root : NodeState := { NodeState.fresh "root" .hanging false none with children := [1] }
    let view : NodeState := { NodeState.fresh "game" .hanging false none with parent := some 0, children := [2] }
    let sprite : NodeState := { NodeState.fresh "sprite" .hanging true (some 0) with
      position := ⟨10, -20⟩, size := ⟨30, 30⟩, parent := some 1 }
    let w : World := { World.fresh .bottomLeft none with
      nodes := [root, view, sprite], interactions := [⟨0, 1, none⟩], host := ⟨some ⟨200, 100⟩, some 0, none⟩ }
    let raw : RawPointer := ⟨.down, 15, 70⟩
    w.pointerTarget raw = some 2 ∧
      Alike ((w.pointerInput raw).dragEvent (w.sceneOrigin 2)).relative.x
        (((w.pointerInput raw).dragEvent (w.sceneOrigin 2)).global.x - 10) := by
  intro root view sprite w raw
  have ht : w.pointerTarget raw = some 2 := by decide +kernel
  exact ⟨ht, (drag_start_is_offset_from_sprite_location (w := w) rfl rfl ht rfl rfl rfl rfl rfl rfl rfl rfl rfl
    rfl rfl).2.2.2.1⟩

end Offsets

end Proscenium
