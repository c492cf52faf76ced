import Mathlib.Data.List.Induction
import Proscenium.Proofs.CardGame.Table

/-!
# Holding a card

The owner of a dealt table asks four things of it (`TableOp`): lay the cards out for a window
size, grab at a point, drag to a point, and let go. This module says what any run of them does.

* A run never fails, so a drag never looks past the cards, and it leaves the table the rules give
  (`Board.apply`, `answers_mapM_run`).
* The cards stay the cards dealt, in deal order: only their places change (`dealtAs_foldl_apply`),
  and a grab is always of a card that is there (`grabInRange_foldl_apply`).
* A grab holds the last card in deal order whose place contains the point, or nothing
  (`grabbedAt_grab_eq_some_iff`); a layout or a release lets go, and a drag with nothing held
  changes nothing (`Board.Obeys`).
* A card held since a grab at `p₀` and dragged to `p₁, …, pₖ` sits at `pₖ` less the offset taken
  at the grab, with the size it had: the place depends on the last point only, so repeated drags
  do not drift, and no other card moves (`cards_dragsAfterGrab`).
-/

namespace Proscenium

open Act

/-- What the owner of a dealt table asks of it. -/
inductive TableOp where
  | layout (width height : Int)
  | grab (p : Point)
  | dragTo (p : Point)
  | release

/-- The operation on table `t`. A grab answers whether it holds a card; the others answer
nothing. -/
def TableOp.run (t : Nat) : TableOp → Act (Option Bool)
  | .layout width height => do layoutBoard t width height; pure none
  | .grab p => do pure (some (← grabCard t p))
  | .dragTo p => do dragCard t p; pure none
  | .release => do releaseCard t; pure none

/-- What dealing fixed of a card: its face, its two sprites and its symbol's aspect ratio. -/
def Card.dealtAs (c : Card) : String × Nat × Nat × Float := (c.face, c.back, c.symbol, c.symbolAspect)

/-- Card `i` of `cards` is `c`, the last card whose place contains `p` (edges included). -/
def LastUnder (cards : List Card) (p : Point) (i : Nat) (c : Card) : Prop :=
  cards[i]? = some c ∧ c.place.contains p = true ∧
    ∀ j c', i < j → cards[j]? = some c' → c'.place.contains p = false

namespace Board

/-- A table whose grab, if any, is of one of its cards. -/
def GrabInRange (b : Board) : Prop := ∀ g, b.grab = some g → g.card < b.cards.length

/-- What an operation does to a table. -/
def apply (b : Board) : TableOp → Board
  | .layout width height => b.laidOut width height
  | .grab p => b.grabbedAt p
  | .dragTo p => b.draggedTo p
  | .release => b.released

/-- What an operation answers on a table. -/
def reply (b : Board) : TableOp → Option Bool
  | .grab p => some (b.grabbedAt p).grab.isSome
  | _ => none

/-- The answers of a run of operations, each on the table the earlier ones left. -/
def replies : Board → List TableOp → List (Option Bool)
  | _, [] => []
  | b, op :: ops => b.reply op :: (b.apply op).replies ops

/-- The rule each operation keeps: a layout lets go; a grab keeps the cards, answers whether it
holds one, and holds exactly the last card under the point, taken at the point's offset from the
card's top-left corner; a drag with nothing held changes nothing, and one with a card held moves
that card alone, keeping the grab; a release lets go and keeps the cards. -/
def Obeys (b : Board) : TableOp → Prop
  | .layout width height => (b.apply (.layout width height)).grab = none
  | .grab p =>
    (b.apply (.grab p)).cards = b.cards ∧ b.reply (.grab p) = some (b.apply (.grab p)).grab.isSome ∧
      ∀ g, (b.apply (.grab p)).grab = some g ↔
        ∃ c, LastUnder b.cards p g.card c ∧ g.offset = p - ⟨c.place.left, c.place.top⟩
  | .dragTo p =>
    (b.grab = none → b.apply (.dragTo p) = b) ∧
      ∀ g, b.grab = some g →
        (b.apply (.dragTo p)).grab = some g ∧ (b.apply (.dragTo p)).cards = b.cards.modify g.card (g.move · p)
  | .release => b.apply .release = { b with grab := none }

end Board

/-! ## The last card under a point -/

section LastUnder

variable {cs : List Card} {c : Card} {p : Point} {i : Nat}

/-- Adding a card on top: it is the last under the point if it contains it. -/
theorem lastContaining_append_singleton (cs : List Card) (c : Card) (p : Point) :
    lastContaining (cs ++ [c]) p = if c.place.contains p then some cs.length else lastContaining cs p := by
  unfold lastContaining
  rw [List.length_append, List.length_singleton, List.range_succ,
    List.zip_append (by simp), List.foldl_append]
  rfl

theorem lastContaining_nil (p : Point) : lastContaining [] p = none := rfl

/-- An entry of the cards with `c` on top is an entry of the others, or `c` at the top index. -/
theorem getElem?_append_top {j : Nat} {x : Card} :
    (cs ++ [c])[j]? = some x ↔ (j < cs.length ∧ cs[j]? = some x) ∨ (j = cs.length ∧ x = c) := by
  rw [List.getElem?_append, List.getElem?_singleton]
  by_cases hlt : j < cs.length
  · rw [if_pos hlt]
    have hne : j ≠ cs.length := Nat.ne_of_lt hlt
    simp only [hlt, hne, true_and, false_and, or_false]
  · have hsub : j - cs.length = 0 ↔ j = cs.length := by omega
    rw [if_neg hlt]
    simp only [hsub, hlt, false_and, false_or]
    by_cases hj : j = cs.length
    · simp only [hj, if_true, Option.some.injEq, true_and, eq_comm]
    · simp only [hj, if_false, reduceCtorEq, false_and]

/-- With a card on top that contains the point, that card is the only last one under it. -/
theorem lastUnder_append_of_contains (hc : c.place.contains p = true) (c' : Card) :
    LastUnder (cs ++ [c]) p i c' ↔ i = cs.length ∧ c' = c := by
  constructor
  · rintro ⟨hi, -, hlast⟩
    rcases getElem?_append_top.mp hi with ⟨hbelow, -⟩ | hat
    · -- the top card, under the point above `i`, would contradict `i` being last
      have := hlast cs.length c hbelow List.getElem?_concat_length
      rw [hc] at this
      cases this
    · exact hat
  · rintro ⟨rfl, rfl⟩
    refine ⟨List.getElem?_concat_length, hc, fun j c'' hj hj' => ?_⟩
    rcases getElem?_append_top.mp hj' with ⟨hlt, -⟩ | ⟨rfl, -⟩ <;> omega

/-- With a card on top that does not contain the point, the last card under it is among the
others. -/
theorem lastUnder_append_of_not_contains (hc : c.place.contains p = false) (c' : Card) :
    LastUnder (cs ++ [c]) p i c' ↔ LastUnder cs p i c' := by
  constructor
  · rintro ⟨hi, hin, hlast⟩
    rcases getElem?_append_top.mp hi with ⟨-, hi'⟩ | ⟨-, rfl⟩
    · refine ⟨hi', hin, fun j c'' hj hj' => hlast j c'' hj (getElem?_append_top.mpr (.inl ⟨?_, hj'⟩))⟩
      exact (List.getElem?_eq_some_iff.mp hj').1
    · -- the top card does not contain the point, so it is not the one found
      rw [hc] at hin
      cases hin
  · rintro ⟨hi, hin, hlast⟩
    have hlt : i < cs.length := (List.getElem?_eq_some_iff.mp hi).1
    refine ⟨getElem?_append_top.mpr (.inl ⟨hlt, hi⟩), hin, fun j c'' hj hj' => ?_⟩
    rcases getElem?_append_top.mp hj' with ⟨-, hj'⟩ | ⟨-, rfl⟩
    · exact hlast j c'' hj hj'
    · exact hc

/-- `lastContaining` finds the last card whose place contains the point. -/
theorem lastContaining_eq_some_iff : lastContaining cs p = some i ↔ ∃ c, LastUnder cs p i c := by
  induction cs using List.reverseRecOn generalizing i with
  | nil =>
    simp only [lastContaining_nil, reduceCtorEq, false_iff, not_exists]
    exact fun c h => by cases h.1
  | append_singleton cs c ih =>
    rw [lastContaining_append_singleton]
    cases hc : c.place.contains p with
    | true =>
      simp only [lastUnder_append_of_contains hc, ite_true, Option.some.injEq]
      exact ⟨fun h => ⟨c, h.symm, rfl⟩, fun ⟨_, h, _⟩ => h.symm⟩
    | false =>
      simp only [lastUnder_append_of_not_contains hc, Bool.false_eq_true, ite_false]
      exact ih

/-- `lastContaining` finds nothing exactly when no card contains the point. -/
theorem lastContaining_eq_none_iff : lastContaining cs p = none ↔ ∀ c ∈ cs, c.place.contains p = false := by
  induction cs using List.reverseRecOn with
  | nil => simp [lastContaining_nil]
  | append_singleton cs c ih =>
    rw [lastContaining_append_singleton]
    cases hc : c.place.contains p with
    | true => simp [hc]
    | false => simp [ih, or_imp, forall_and, hc]

end LastUnder

/-! ## Grabs and drags -/

namespace Board

variable (b : Board)

/-- A grab holds exactly the last card under the point, taken at the point's offset from its
top-left corner. -/
theorem grabbedAt_grab_eq_some_iff (p : Point) (g : Grab) :
    (b.grabbedAt p).grab = some g ↔ ∃ c, LastUnder b.cards p g.card c ∧ g.offset = p - ⟨c.place.left, c.place.top⟩ := by
  obtain ⟨i, off⟩ := g
  simp only [grabbedAt, grabAt, Option.bind_eq_some_iff, Option.map_eq_some_iff, lastContaining_eq_some_iff]
  constructor
  · rintro ⟨i', ⟨c', hc'⟩, c, hc, hg⟩
    cases hg
    obtain rfl : c' = c := Option.some.inj (hc'.1.symm.trans hc)
    exact ⟨c', hc', rfl⟩
  · rintro ⟨c, hc, rfl⟩
    exact ⟨i, ⟨c, hc⟩, c, hc.1, rfl⟩

end Board

/-- A card moved twice by one grab is where the second move puts it. -/
@[simp] theorem Grab.move_move (g : Grab) (c : Card) (p q : Point) :
    g.move (g.move c p) q = g.move c q := rfl

namespace Board

variable {b : Board}

@[simp] theorem grab_draggedTo (b : Board) (p : Point) : (b.draggedTo p).grab = b.grab := by
  unfold draggedTo
  split <;> rfl

/-- Drags with a card held put it where the last one says, less the grab's offset; the grab
stays and no other card moves. -/
theorem foldl_draggedTo {g : Grab} (hg : b.grab = some g) (qs : List Point) (q : Point) :
    (qs ++ [q]).foldl draggedTo b = { b with cards := b.cards.modify g.card (g.move · q) } := by
  induction qs generalizing b with
  | nil => simp [draggedTo, hg]
  | cons q' qs ih =>
    rw [List.cons_append, List.foldl_cons, ih (by rw [grab_draggedTo, hg])]
    simp only [draggedTo, hg, List.modify_modify_eq]
    rfl

/-- **No drift.** A card held since a grab at `p₀` and then dragged to `q₁, …, qₖ, q` sits at
`q` less the offset `p₀ - (left, top)` taken at the grab, keeping the size it had then; every
other card stays where it was. -/
theorem cards_dragsAfterGrab {p₀ : Point} {i : Nat} {card : Card} (h : LastUnder b.cards p₀ i card)
    (qs : List Point) (q : Point) :
    ((TableOp.grab p₀ :: (qs ++ [q]).map TableOp.dragTo).foldl apply b).cards =
      b.cards.set i { card with place := { card.place with
        left := q.x - (p₀ - ⟨card.place.left, card.place.top⟩).x,
        top := q.y - (p₀ - ⟨card.place.left, card.place.top⟩).y } } := by
  -- the grab holds card `i` at the offset of `p₀` from its corner
  have hgrab : (b.grabbedAt p₀).grab = some ⟨i, p₀ - ⟨card.place.left, card.place.top⟩⟩ :=
    (grabbedAt_grab_eq_some_iff b p₀ _).mpr ⟨card, h, rfl⟩
  rw [List.foldl_cons, List.foldl_map]
  change ((qs ++ [q]).foldl draggedTo (b.grabbedAt p₀)).cards = _
  rw [foldl_draggedTo hgrab, List.modify_eq_set]
  simp only [grabbedAt, h.1]
  rfl

/-! ## What every operation keeps -/

/-- Placing cards changes only their places. -/
theorem map_dealtAs_placeAll : ∀ (cs : List Card) (ps : List Place),
    (placeAll cs ps).map Card.dealtAs = cs.map Card.dealtAs
  | _ :: cs, _ :: ps => by simp [placeAll, Card.dealtAs, map_dealtAs_placeAll cs ps]
  | [], _ => rfl
  | _ :: _, [] => rfl

/-- No operation changes which cards the table holds, or their order. -/
theorem dealtAs_apply (b : Board) : ∀ op, (b.apply op).cards.map Card.dealtAs = b.cards.map Card.dealtAs
  | .layout _ _ => map_dealtAs_placeAll _ _
  | .grab _ => rfl
  | .dragTo p => by
    cases hg : b.grab with
    | none => simp [apply, draggedTo, hg]
    | some g =>
      simp only [apply, draggedTo, hg]
      exact map_modify_of_comp (f := fun c => g.move c p) (fun _ => rfl) _ _
  | .release => rfl

theorem dealtAs_foldl_apply : ∀ (ops : List TableOp) (b : Board),
    (ops.foldl apply b).cards.map Card.dealtAs = b.cards.map Card.dealtAs
  | [], _ => rfl
  | op :: ops, b => by rw [List.foldl_cons, dealtAs_foldl_apply ops, dealtAs_apply]

/-- Every operation keeps a grab on one of the cards. -/
theorem GrabInRange.apply (hg : b.GrabInRange) : ∀ op, (b.apply op).GrabInRange
  | .layout _ _ => fun _ h => by cases h
  | .grab _ => fun _ h => grabAt_lt b h
  | .dragTo p => fun g h => by
    rw [Board.apply, length_draggedTo]
    rw [Board.apply, grab_draggedTo] at h
    exact hg g h
  | .release => fun _ h => by cases h

theorem grabInRange_foldl_apply : ∀ (ops : List TableOp) {b : Board}, b.GrabInRange →
    (ops.foldl apply b).GrabInRange
  | [], _, hg => hg
  | op :: ops, _, hg => grabInRange_foldl_apply ops (hg.apply op)

/-- Every operation keeps its rule. -/
theorem obeys (b : Board) : ∀ op, b.Obeys op
  | .layout _ _ => rfl
  | .grab p => ⟨rfl, rfl, grabbedAt_grab_eq_some_iff b p⟩
  | .dragTo p => ⟨fun h => by simp [apply, draggedTo, h], fun g h => by simp [apply, draggedTo, h]⟩
  | .release => rfl

end Board

/-! ## Running the operations -/

section Running

variable {u : World} {t : Nat} {b : Board}

/-- An operation on a table whose grab is of one of its cards answers as the rules say and
leaves the table the rules give; it does not let the loop go. -/
theorem answers_run (hb : u.boards[t]? = some b) (hg : b.GrabInRange) (hlive : u.loopDropped = false) :
    ∀ op : TableOp, (op.run t).Answers u fun a u' =>
      a = b.reply op ∧ u'.boards[t]? = some (b.apply op) ∧ u'.loopDropped = u.loopDropped := by
  have hlt : t < u.boards.length := (List.getElem?_eq_some_iff.mp hb).1
  intro op
  cases op with
  | layout width height =>
    refine Answers.bind (Answers.of_apply (layoutBoard_apply hb hlive width height) ?_)
    exact answers_pure.mpr ⟨rfl, List.getElem?_set_self hlt, rfl⟩
  | grab p =>
    refine Answers.bind (Answers.of_apply (grabCard_apply hb p) ?_)
    refine answers_pure.mpr ⟨?_, List.getElem?_set_self hlt, rfl⟩
    -- the card found is there, so the grab holds it
    cases h : lastContaining b.cards p with
    | none => simp [Board.reply, Board.grabbedAt, Board.grabAt, h]
    | some i =>
      obtain ⟨c, hc, -⟩ := lastContaining_eq_some_iff.mp h
      simp [Board.reply, Board.grabbedAt, Board.grabAt, h, hc]
  | dragTo p =>
    refine Answers.bind (Answers.of_apply (dragCard_apply hb hg hlive p) ?_)
    exact answers_pure.mpr ⟨rfl, List.getElem?_set_self hlt, rfl⟩
  | release =>
    refine Answers.bind (Answers.of_apply (releaseCard_apply hb) ?_)
    exact answers_pure.mpr ⟨rfl, List.getElem?_set_self hlt, rfl⟩

/-- A run of operations never fails: it answers as the rules say, one operation after another,
and leaves the table the rules give. -/
theorem answers_mapM_run : ∀ (ops : List TableOp) {u : World} {b : Board}, u.boards[t]? = some b →
    b.GrabInRange → u.loopDropped = false →
    (ops.mapM (TableOp.run t)).Answers u fun answers u' =>
      answers = b.replies ops ∧ u'.boards[t]? = some (ops.foldl Board.apply b)
  | [], _, _, hb, _, _ => answers_pure.mpr ⟨rfl, hb⟩
  | op :: ops, _, b, hb, hg, hlive => by
    rw [List.mapM_cons]
    refine Answers.bind ((answers_run hb hg hlive op).mono fun a u₁ ⟨ha, hb₁, hlive₁⟩ => ?_)
    refine Answers.bind ((answers_mapM_run ops hb₁ (hg.apply op) (hlive₁.trans hlive)).mono
      fun as u' ⟨has, hb'⟩ => ?_)
    exact answers_pure.mpr ⟨by rw [ha, has]; rfl, hb'⟩

/-- **A table holds its cards, and drags them without drift.** Take a table whose grab, if any,
is of one of its cards (a table just dealt holds none), with the loop there, and any run of
layouts, grabs, drags and releases. The run never fails, so no drag looks past the cards; each
operation answers as the rules say, and the run leaves the table the rules give, with the cards
dealt, in deal order, and a grab only ever of one of them. Every operation keeps its rule
(`Board.Obeys`): a grab holds the last card in deal order under the point, or nothing; a layout
or a release lets go; a drag with nothing held changes nothing. A card held since a grab at `p₀`
and dragged to `…, q` sits at `q` less the offset `p₀ - (left, top)` taken at the grab, with the
size it had then, and every other card stays where it was. -/
theorem table_keeps_its_cards_and_drags_without_drift (hb : u.boards[t]? = some b) (hg : b.GrabInRange)
    (hlive : u.loopDropped = false) (ops : List TableOp) :
    (ops.mapM (TableOp.run t)).Answers u (fun answers u' =>
      answers = b.replies ops ∧ u'.boards[t]? = some (ops.foldl Board.apply b)) ∧
    (ops.foldl Board.apply b).cards.map Card.dealtAs = b.cards.map Card.dealtAs ∧
    (ops.foldl Board.apply b).GrabInRange ∧
    (∀ (c : Board) (op : TableOp), c.Obeys op) ∧
    (∀ (c : Board) (p₀ : Point) (i : Nat) (card : Card), LastUnder c.cards p₀ i card →
      ∀ (qs : List Point) (q : Point),
        ((TableOp.grab p₀ :: (qs ++ [q]).map TableOp.dragTo).foldl Board.apply c).cards =
          c.cards.set i { card with place := { card.place with
            left := q.x - (p₀ - ⟨card.place.left, card.place.top⟩).x,
            top := q.y - (p₀ - ⟨card.place.left, card.place.top⟩).y } }) :=
  ⟨answers_mapM_run ops hb hg hlive, Board.dealtAs_foldl_apply ops b, Board.grabInRange_foldl_apply ops hg,
    Board.obeys, fun _ _ _ _ h => Board.cards_dragsAfterGrab h⟩

theorem table_keeps_its_cards_and_drags_without_drift_after_a_deal :
    let b : Board := ⟨[⟨"four", 0, 1, 1, ⟨0, 0, 10, 20⟩⟩], 0.5, none⟩
    let u : World := { World.fresh .topLeft none with boards := [b] }
    let ops := [TableOp.grab ⟨5, 5⟩, TableOp.dragTo ⟨40, 50⟩, TableOp.dragTo ⟨60, 70⟩, TableOp.release]
    u.boards[0]? = some b ∧ b.GrabInRange ∧ u.loopDropped = false ∧
    ((ops.mapM (TableOp.run 0)).Answers u (fun answers u' =>
      answers = b.replies ops ∧ u'.boards[0]? = some (ops.foldl Board.apply b)) ∧
    (ops.foldl Board.apply b).cards.map Card.dealtAs = b.cards.map Card.dealtAs ∧
    (ops.foldl Board.apply b).GrabInRange ∧
    (∀ (c : Board) (op : TableOp), c.Obeys op) ∧
    (∀ (c : Board) (p₀ : Point) (i : Nat) (card : Card), LastUnder c.cards p₀ i card →
      ∀ (qs : List Point) (q : Point),
        ((TableOp.grab p₀ :: (qs ++ [q]).map TableOp.dragTo).foldl Board.apply c).cards =
          c.cards.set i { card with place := { card.place with
            left := q.x - (p₀ - ⟨card.place.left, card.place.top⟩).x,
            top := q.y - (p₀ - ⟨card.place.left, card.place.top⟩).y } })) := by
  intro b u ops
  have hg : b.GrabInRange := fun _ h => by cases h
  exact ⟨rfl, hg, rfl, table_keeps_its_cards_and_drags_without_drift (u := u) rfl hg rfl ops⟩

end Running

end Proscenium
