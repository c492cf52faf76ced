import Proscenium.Proofs.Scene.Answers
import Proscenium.Proofs.Double.Zero

/-!
# A button's look under resizing

Resizing a button records the new size and redraws its look (shape centred on the origin, label a
quarter of the height, in dark grey) only when the new size does not compare equal, side by side,
to the current one. Comparison by `==` identifies the two zeros, so a size with a negative zero side
can leave the look drawn for a positive zero (or the reverse).

The invariant kept by every resize is `World.ButtonDrawn`: the look is the one drawn afresh for
some size alike the current one (`Double.Alike`: the same double, or both zeros). A new button
has it, each resize keeps it, and `ButtonState.DrawnAt.alike` reads off what it says of the look.
-/

namespace Proscenium

open Act Double

section Apply

variable {w : World} {b : Nat} {st : ButtonState} {n : NodeState}

/-- The same size again (by `==`, side by side) only records the size. -/
theorem buttonSetSize_of_same (hb : w.buttons[b]? = some st) (hn : w.nodes[st.node]? = some n)
    {size : Size} (hs : (n.size == size) = true) :
    buttonSetSize b size w =
      .ok () { w with nodes := w.nodes.modify st.node fun n => { n with size := size } } := by
  simp only [buttonSetSize, bind_apply, buttonAt_apply, hb, nodeAt_apply, hn, modifyNode_apply, hs]
  rfl

/-- A changed size is recorded and redraws the look. -/
theorem buttonSetSize_of_changed (hb : w.buttons[b]? = some st) (hn : w.nodes[st.node]? = some n)
    {size : Size} (hs : (n.size == size) = false) :
    buttonSetSize b size w = .ok ()
      { w with
        nodes := w.nodes.modify st.node fun n => { n with size := size }
        buttons := w.buttons.modify b fun st =>
          { st with
            shape := Rect.centered Point.zero size
            fontSize := size.h / 4
            textColor := .darkGrey } } := by
  simp only [buttonSetSize, bind_apply, buttonAt_apply, hb, nodeAt_apply, hn, modifyNode_apply, hs]
  rfl

end Apply

/-! ## Sizes alike side by side -/

/-- Two sizes whose widths are alike and whose heights are alike. -/
def Size.Alike (S T : Size) : Prop := Double.Alike S.w T.w ∧ Double.Alike S.h T.h

theorem Size.Alike.refl (S : Size) : S.Alike S := ⟨.refl _, .refl _⟩

theorem Size.Alike.trans {S T U : Size} (h₁ : S.Alike T) (h₂ : T.Alike U) : S.Alike U :=
  ⟨h₁.1.trans h₂.1, h₁.2.trans h₂.2⟩

/-- Sizes that compare equal, side by side, are alike. -/
theorem Size.alike_of_beq {S T : Size} (h : (S == T) = true) : S.Alike T := by
  have h' : (S.w == T.w && S.h == T.h) = true := h
  rw [Bool.and_eq_true] at h'
  exact ⟨Double.alike_of_beq h'.1, Double.alike_of_beq h'.2⟩

/-! ## The look a button keeps -/

/-- The look of a button drawn afresh for the size `S`: its shape centred on its origin, a label
a quarter of its height, in dark grey. -/
structure ButtonState.DrawnAt (st : ButtonState) (S : Size) : Prop where
  shape : st.shape = Rect.centered Point.zero S
  fontSize : st.fontSize = S.h / 4
  textColor : st.textColor = .darkGrey

/-- Button `b` is sized `size` and shows the look drawn afresh for a size alike it. -/
def World.ButtonDrawn (w : World) (b : Nat) (size : Size) : Prop :=
  ∃ st n S, w.buttons[b]? = some st ∧ w.nodes[st.node]? = some n ∧ n.size = size ∧
    S.Alike size ∧ st.DrawnAt S

namespace World.ButtonDrawn

variable {w : World} {b : Nat} {cur : Size}

/-- **One size.** A size that compares equal to the current one keeps the look, which was
drawn for a size alike both; any other size redraws it for itself. -/
theorem setSize (h : w.ButtonDrawn b cur) (size : Size) :
    ((buttonSetSize b size).after w).ButtonDrawn b size := by
  obtain ⟨st, n, S, hb, hn, rfl, hS, hd⟩ := h
  unfold Act.after
  cases hc : (n.size == size) with
  | false =>
    rw [buttonSetSize_of_changed hb hn hc]
    exact ⟨_, _, size, getElem?_modify_of_getElem? hb _, getElem?_modify_of_getElem? hn _, rfl,
      .refl size, ⟨rfl, rfl, rfl⟩⟩
  | true =>
    -- the look stays as drawn for `S`, alike the old size and so the new one
    rw [buttonSetSize_of_same hb hn hc]
    exact ⟨st, _, S, hb, getElem?_modify_of_getElem? hn _, rfl, hS.trans (Size.alike_of_beq hc), hd⟩

end World.ButtonDrawn

end Proscenium
