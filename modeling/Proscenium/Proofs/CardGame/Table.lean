import Proscenium.Proofs.CardGame.Looks

/-!
# The card table's rules

What the table's handlers do to a table, as plain functions of the table (`Board`):

* a *layout* for a window of `width × height` drops the grab and gives the cards the places of
  the row layout, as far as the row reaches (`Board.laidOut`);
* the pointer going *down* at `p` grabs the last card whose place contains `p`, remembering where
  it was taken (`Board.grabbedAt`);
* the pointer *moving* to `p` moves the grabbed card, if any, so that the grab point is at `p`,
  keeping its size (`Board.draggedTo`);
* the pointer going *up*, or the gesture being cancelled, drops the grab (`Board.released`).

A table's handlers do exactly that to the table, and every card they place they place in order,
queuing the changes that show it at its new place (`layoutBoard_apply`, `dragCard_apply`). The
row reaches every card unless the card aspect is at most zero (`length_rowLayout`).
-/

namespace Proscenium

open Act

/-! ## The rules -/

/-- Cards given `places` in order, as far as the places reach; the rest keep theirs. -/
def placeAll : List Card → List Place → List Card
  | c :: cs, p :: ps => { c with place := p } :: placeAll cs ps
  | cs, _ => cs

/-- The cards `places` reach, each at its new place. -/
def placedCards (cs : List Card) (places : List Place) : List Card :=
  List.zipWith (fun c p => { c with place := p }) cs places

/-- Where a card grabbed by `g` goes when the pointer is at `p`: the grab point moves to `p`,
the card keeps its size. -/
def Grab.move (g : Grab) (c : Card) (p : Point) : Card :=
  { c with place := { c.place with left := p.x - g.offset.x, top := p.y - g.offset.y } }

namespace Board

/-- The places a layout for a window of `width × height` gives the table's cards. -/
def rowPlaces (b : Board) (width height : Int) : List Place :=
  rowLayout ⟨Float.ofInt width, Float.ofInt height⟩ b.cards.length b.cardAspect

/-- The table after a layout for a window of `width × height`. -/
def laidOut (b : Board) (width height : Int) : Board :=
  { b with grab := none, cards := placeAll b.cards (b.rowPlaces width height) }

/-- The grab the pointer going down at `p` makes: the last card whose place contains `p`, taken
at `p`'s offset from the card's top-left corner. -/
def grabAt (b : Board) (p : Point) : Option Grab :=
  (lastContaining b.cards p).bind fun i => (b.cards[i]?).map fun c => ⟨i, p - ⟨c.place.left, c.place.top⟩⟩

/-- The table after the pointer went down at `p`. -/
def grabbedAt (b : Board) (p : Point) : Board := { b with grab := b.grabAt p }

/-- The table after the pointer moved to `p`. -/
def draggedTo (b : Board) (p : Point) : Board :=
  match b.grab with
  | none => b
  | some g => { b with cards := b.cards.modify g.card fun c => g.move c p }

/-- The cards the pointer moving to `p` moves: the grabbed one, at its new place. -/
def dragged (b : Board) (p : Point) : List Card :=
  match b.grab with
  | none => []
  | some g => ((b.cards[g.card]?).map fun c => g.move c p).toList

/-- The table after the pointer went up or the gesture was cancelled. -/
def released (b : Board) : Board := { b with grab := none }

/-- The sprites of the table's cards, card by card. -/
def sprites (b : Board) : List Nat := b.cards.flatMap Card.sprites

end Board

/-! ## What the rules keep -/

section Keeping

theorem length_placeAll : ∀ (cs : List Card) (ps : List Place), (placeAll cs ps).length = cs.length
  | _ :: cs, _ :: ps => by simp [placeAll, length_placeAll cs ps]
  | [], _ => rfl
  | _ :: _, [] => rfl

theorem sprites_placeAll : ∀ (cs : List Card) (ps : List Place),
    (placeAll cs ps).flatMap Card.sprites = cs.flatMap Card.sprites
  | c :: cs, _ :: ps => by simp [placeAll, Card.sprites, sprites_placeAll cs ps]
  | [], _ => rfl
  | _ :: _, [] => rfl

/-- Places that reach every card place them all. -/
theorem placeAll_eq_placedCards : ∀ (cs : List Card) (ps : List Place), cs.length ≤ ps.length →
    placeAll cs ps = placedCards cs ps
  | c :: cs, _ :: ps, h => by
    simp only [placeAll, placedCards, List.zipWith_cons_cons, List.cons.injEq, true_and]
    exact placeAll_eq_placedCards cs ps (by simpa using h)
  | [], _, _ => rfl
  | _ :: _, [], h => by simp at h

/-- Moving a card in place keeps every card's sprites. -/
theorem sprites_modify_place (cs : List Card) (i : Nat) {f : Card → Card} (hf : ∀ c, (f c).sprites = c.sprites) :
    (cs.modify i f).flatMap Card.sprites = cs.flatMap Card.sprites := by
  rw [List.flatMap_def, map_modify_of_comp hf, ← List.flatMap_def]

/-- A row layout places every card, or none when there are none or the aspect is not above zero. -/
theorem length_rowLayout (size : Size) (n : Nat) {aspect : Float} (h : ¬aspect ≤ 0) :
    (rowLayout size n aspect).length = n := by
  unfold rowLayout rowLayoutIn
  by_cases hn : n = 0
  · simp [hn]
  · simp [hn, h]

theorem length_rowLayout_le (size : Size) (n : Nat) (aspect : Float) : (rowLayout size n aspect).length ≤ n := by
  unfold rowLayout rowLayoutIn
  split <;> simp

namespace Board

variable (b : Board)

@[simp] theorem sprites_laidOut (width height : Int) : (b.laidOut width height).sprites = b.sprites :=
  sprites_placeAll _ _

@[simp] theorem sprites_grabbedAt (p : Point) : (b.grabbedAt p).sprites = b.sprites := rfl

@[simp] theorem sprites_released : b.released.sprites = b.sprites := rfl

@[simp] theorem sprites_draggedTo (p : Point) : (b.draggedTo p).sprites = b.sprites := by
  unfold draggedTo
  split
  · rfl
  · exact sprites_modify_place _ _ fun _ => rfl

@[simp] theorem cardAspect_laidOut (width height : Int) : (b.laidOut width height).cardAspect = b.cardAspect := rfl

@[simp] theorem cardAspect_grabbedAt (p : Point) : (b.grabbedAt p).cardAspect = b.cardAspect := rfl

@[simp] theorem cardAspect_released : b.released.cardAspect = b.cardAspect := rfl

@[simp] theorem cardAspect_draggedTo (p : Point) : (b.draggedTo p).cardAspect = b.cardAspect := by
  unfold draggedTo
  split <;> rfl

@[simp] theorem length_laidOut (width height : Int) : (b.laidOut width height).cards.length = b.cards.length :=
  length_placeAll _ _

@[simp] theorem length_draggedTo (p : Point) : (b.draggedTo p).cards.length = b.cards.length := by
  unfold draggedTo
  split
  · rfl
  · exact List.length_modify _ _ _

/-- A layout that reaches every card places them all, in order. -/
theorem cards_laidOut (width height : Int) (h : ¬b.cardAspect ≤ 0) :
    (b.laidOut width height).cards = placedCards b.cards (b.rowPlaces width height) :=
  placeAll_eq_placedCards _ _ (Nat.le_of_eq (length_rowLayout _ _ h).symm)

/-- The grab the pointer going down makes is on a card of the table. -/
theorem grabAt_lt {p : Point} {g : Grab} (h : b.grabAt p = some g) : g.card < b.cards.length := by
  unfold grabAt at h
  obtain ⟨i, -, hi⟩ := Option.bind_eq_some_iff.mp h
  obtain ⟨c, hc, rfl⟩ := Option.map_eq_some_iff.mp hi
  exact (List.getElem?_eq_some_iff.mp hc).1

end Board

end Keeping

/-! ## The handlers follow the rules -/

section Handlers

variable {u : World} {t i : Nat} {b : Board} {c : Card}

theorem modifyBoard_apply (i : Nat) (f : Board → Board) (w : World) :
    modifyBoard i f w = .ok () { w with boards := w.boards.modify i f } := rfl

theorem boardAt_apply (w : World) (i : Nat) : boardAt i w = match w.boards[i]? with
    | some b => .ok b w
    | none => .error (.abort ("dangling table " ++ toString i)) w := by
  unfold boardAt
  rw [read_apply]
  cases w.boards[i]? <;> rfl

theorem lookup_apply_of_getElem? {α : Type} {xs : List α} {a : α} (h : xs[i]? = some a) (what : String)
    (w : World) : Act.lookup xs i what w = .ok a w := by
  unfold Act.lookup
  rw [h]
  rfl

/-- A board changed where it is is the board set there. -/
theorem boards_modify_eq_set (hb : u.boards[t]? = some b) (f : Board → Board) :
    u.boards.modify t f = u.boards.set t (f b) := by
  rw [List.modify_eq_set, hb]
  rfl

/-- Two changes that agree on the one element they change change a list alike. -/
theorem modify_congr_at {α : Type} {l : List α} {i : Nat} {a : α} {f g : α → α} (h : l[i]? = some a)
    (hfg : f a = g a) : l.modify i f = l.modify i g := by
  apply List.ext_getElem?
  intro j
  by_cases hij : i = j
  · subst hij
    simp [h, hfg]
  · rw [List.getElem?_modify_ne _ _ hij, List.getElem?_modify_ne _ _ hij]

/-- Placing card `i` of a table moves it to the place and queues the changes that show it there. -/
theorem placeCard_apply (hb : u.boards[t]? = some b) (hc : b.cards[i]? = some c) (hlive : u.loopDropped = false)
    (p : Place) :
    placeCard t i p u = .ok () { u with
      boards := u.boards.set t { b with cards := b.cards.modify i fun c => { c with place := p } },
      loop := { u.loop with queue := u.loop.queue ++ ({ c with place := p } : Card).placeTasks.map .run } } := by
  unfold placeCard
  simp only [bind_apply, boardAt_apply, hb, lookup_apply_of_getElem? hc, modifyBoard_apply,
    placeSprites_apply, hlive, boards_modify_eq_set hb]

/-- Placing cards `pre.length, pre.length + 1, …` of a table at `ps`, one after another, places
the cards after `pre` as far as `ps` reaches, and queues the changes that show them there, card
by card. -/
theorem forM_placeCard_apply (t : Nat) (b : Board) : ∀ (ps : List Place) (pre rest : List Card) (u : World),
    u.boards[t]? = some { b with cards := pre ++ rest } → u.loopDropped = false → ps.length ≤ rest.length →
    (((List.range' pre.length ps.length).zip ps).forM fun x => placeCard t x.1 x.2 : Act Unit) u =
      .ok () { u with
        boards := u.boards.set t { b with cards := pre ++ placeAll rest ps },
        loop := { u.loop with queue := u.loop.queue ++ ((placedCards rest ps).flatMap Card.placeTasks).map .run } }
  | [], pre, rest, u, hb, _, _ => by
    have hlt : t < u.boards.length := (List.getElem?_eq_some_iff.mp hb).1
    have hset : u.boards.set t { b with cards := pre ++ rest } = u.boards := by
      rw [← (List.getElem?_eq_some_iff.mp hb).2]
      exact List.set_getElem_self hlt
    simp only [List.length_nil, List.range'_zero, List.zip_nil_left, forM_nil_apply, placeAll, hset,
      placedCards, List.zipWith_nil_right, List.flatMap_nil, List.map_nil, List.append_nil]
  | p :: ps, pre, [], u, _, _, hlen => by simp at hlen
  | p :: ps, pre, c :: rest, u, hb, hlive, hlen => by
    have hc : (pre ++ c :: rest)[pre.length]? = some c := by simp
    -- the card after `pre` is placed; the rest are placed after it
    have hmod : (pre ++ c :: rest).modify pre.length (fun c => { c with place := p }) =
        (pre ++ [{ c with place := p }]) ++ rest := by
      clear hb hc
      induction pre with
      | nil => rfl
      | cons a pre ih => simp [ih]
    have hk : pre.length + 1 = (pre ++ [{ c with place := p }]).length := by simp
    rw [List.length_cons, List.range'_succ, List.zip_cons_cons, forM_cons_apply, bind_apply,
      placeCard_apply hb hc hlive]
    simp only
    rw [hk]
    refine (forM_placeCard_apply t b ps (pre ++ [{ c with place := p }]) rest _ ?_ ?_
      (by simpa using hlen)).trans ?_
    · rw [hmod]
      exact List.getElem?_set_self (List.getElem?_eq_some_iff.mp hb).1
    · exact hlive
    · simp [List.set_set, placeAll, placedCards]

/-- A layout of a table drops the grab, gives the cards the row layout's places as far as the
row reaches, and queues the changes that show each card it placed, in order. -/
theorem layoutBoard_apply (hb : u.boards[t]? = some b) (hlive : u.loopDropped = false) (width height : Int) :
    layoutBoard t width height u = .ok () { u with
      boards := u.boards.set t (b.laidOut width height),
      loop := { u.loop with queue := u.loop.queue ++
        ((placedCards b.cards (b.rowPlaces width height)).flatMap Card.placeTasks).map .run } } := by
  have hb₁ : (u.boards.modify t fun b => { b with grab := none })[t]? = some { b with grab := none } := by
    rw [List.getElem?_modify, hb]
    simp
  unfold layoutBoard
  simp only [bind_apply, modifyBoard_apply, boardAt_apply, hb₁, List.range_eq_range']
  -- the cards are placed from the first on, with the grab already dropped
  refine (forM_placeCard_apply t { b with grab := none } (b.rowPlaces width height) [] b.cards _ ?_ ?_
    (length_rowLayout_le _ _ _)).trans ?_
  · rw [List.nil_append]
    exact hb₁
  · exact hlive
  · rw [boards_modify_eq_set hb, List.set_set]
    rfl

/-- The pointer going down grabs as the rules say, and answers whether it found a card. -/
theorem grabCard_apply (hb : u.boards[t]? = some b) (p : Point) :
    grabCard t p u = .ok (lastContaining b.cards p).isSome { u with boards := u.boards.set t (b.grabbedAt p) } := by
  unfold grabCard
  simp only [bind_apply, boardAt_apply, hb, modifyBoard_apply, boards_modify_eq_set hb]
  rfl

/-- The pointer moving moves the grabbed card as the rules say, and queues the changes that show
it at its new place. -/
theorem dragCard_apply (hb : u.boards[t]? = some b) (hgrab : ∀ g, b.grab = some g → g.card < b.cards.length)
    (hlive : u.loopDropped = false) (p : Point) :
    dragCard t p u = .ok () { u with
      boards := u.boards.set t (b.draggedTo p),
      loop := { u.loop with queue := u.loop.queue ++ ((b.dragged p).flatMap Card.placeTasks).map .run } } := by
  unfold dragCard
  simp only [bind_apply, boardAt_apply, hb]
  cases hg : b.grab with
  | none =>
    have hset : u.boards.set t b = u.boards := by
      rw [← (List.getElem?_eq_some_iff.mp hb).2]
      exact List.set_getElem_self (List.getElem?_eq_some_iff.mp hb).1
    simp only [Board.draggedTo, Board.dragged, hg, hset, List.flatMap_nil, List.map_nil, List.append_nil]
    rfl
  | some g =>
    obtain ⟨c, hc⟩ : ∃ c, b.cards[g.card]? = some c := ⟨_, List.getElem?_eq_getElem (hgrab g hg)⟩
    simp only [bind_apply, boardAt_apply, hb, lookup_apply_of_getElem? hc, placeCard_apply hb hc hlive,
      Board.draggedTo, Board.dragged, hg, hc,
      Option.map_some, Option.toList_some, List.flatMap_cons, List.flatMap_nil, List.append_nil]
    -- the rules move whichever card is there; the handler rebuilds the place of the card it looked up
    rw [modify_congr_at hc (g := fun c => g.move c p) rfl]
    rfl

/-- The pointer going up drops the grab. -/
theorem releaseCard_apply (hb : u.boards[t]? = some b) :
    releaseCard t u = .ok () { u with boards := u.boards.set t b.released } := by
  unfold releaseCard
  rw [modifyBoard_apply, boards_modify_eq_set hb]
  rfl

end Handlers

end Proscenium
