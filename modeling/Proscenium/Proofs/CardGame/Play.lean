import Mathlib.Data.List.Nodup
import Proscenium.Proofs.CardGame.Table

/-!
# Playing at a table

Once a table is dealt and shown, the player resizes the window and moves the pointer over the
game view (`TableInput`), and the loop is drained after each input (`TableInput.play`). The
rules say what each input does to the table (`Board.after`): a new size lays the cards out in a
row for it, cut to whole units; the pointer going down grabs a card, moving drags it, and going
up or being cancelled lets go.

`World.Plays w s b` is the invariant of a table in play: the table is `b`, its view is the
hosted one with the table's layout and drag handlers registered, the loop is idle, the table's
sprites stand on nodes of their own, and, when the cards' aspect ratio is above zero, every card
is shown at its place. Handling an input and draining keeps it, with the table the rules give
(`plays_step`); so it holds after any run of inputs (`plays_run`).

The step is cut in three. Handling the input changes the table as the rules say and queues the
changes that show the cards it placed (`World.Handled`); the rules move cards of the table
without mixing up their sprites (`Board.Moves`); and a drain of those changes shows every card
placed, while the other cards' sprites, on other nodes, keep their looks (`plays_of_handled`).
-/

namespace Proscenium

open Act

/-- Where a game's table stands in the world: its view and the view's node, the view's
interaction with its click and drag registries, the view's layout registry, and the table. -/
structure TableSite where
  view : Nat
  node : Nat
  interaction : Nat
  clicks : Nat
  drags : Nat
  layouts : Nat
  table : Nat

/-- What the player does at a table: report a new window size, or give the game view pointer
input, at the scene origin the host finds for the view's node. -/
inductive TableInput where
  | resize (size : Size)
  | pointer (input : PointerInput) (origin : Point)

namespace TableInput

/-- How the program takes an input at game view `v`: a new size goes to the host, pointer input
to the view's own interaction. -/
def act (v : Nat) : TableInput → Act Unit
  | .resize size => resizeHost size
  | .pointer input origin => do
    let (i, _) ← gameScreen v
    deliverOwn (← interactionAt i) input origin

/-- An input, then a drain of the loop. -/
def play (v : Nat) (i : TableInput) : Act Unit := do
  i.act v
  let _ ← drain

end TableInput

/-! ## The rules -/

namespace Board

/-- What an input does to a table, by the rules: a new size lays the cards out in a row for it,
cut to whole units; the pointer going down grabs, moving drags, and going up or being cancelled
lets go. -/
def after (b : Board) : TableInput → Board
  | .resize size =>
    b.laidOut (Decimal.truncInto wordMin wordMax size.w) (Decimal.truncInto wordMin wordMax size.h)
  | .pointer input origin =>
    match input.phase with
    | .down => b.grabbedAt (input.dragEvent origin).relative
    | .move => b.draggedTo (input.dragEvent origin).relative
    | .up => b.released
    | .cancel => b.released

/-- The cards an input places, each at its new place, in the order the changes that show them
are queued. -/
def placedBy (b : Board) : TableInput → List Card
  | .resize size =>
    placedCards b.cards
      (b.rowPlaces (Decimal.truncInto wordMin wordMax size.w) (Decimal.truncInto wordMin wordMax size.h))
  | .pointer input origin =>
    match input.phase with
    | .move => b.dragged (input.dragEvent origin).relative
    | _ => []

/-- `b'` is table `b` with the cards `placed` put at new places: the sprites and the aspect ratio
stay, a grab is of a card that is there, the placed cards' sprites are the table's, and every
card of `b'` is placed, or is a card of `b` with sprites apart from the placed cards'. -/
structure Moves (b b' : Board) (placed : List Card) : Prop where
  sprites : b'.sprites = b.sprites
  aspect : b'.cardAspect = b.cardAspect
  grab : ∀ g, b'.grab = some g → g.card < b'.cards.length
  within : (placed.flatMap Card.sprites).Sublist b.sprites
  cover : ∀ c ∈ b'.cards, c ∈ placed ∨ (c ∈ b.cards ∧ ∀ c' ∈ placed, ∀ k ∈ c'.sprites, k ∉ c.sprites)

variable {b : Board}

/-- Changing only the grab places no card. -/
theorem Moves.of_cards {b' : Board} (hc : b'.cards = b.cards) (ha : b'.cardAspect = b.cardAspect)
    (hg : ∀ g, b'.grab = some g → g.card < b'.cards.length) : b.Moves b' [] where
  sprites := by unfold Board.sprites; rw [hc]
  aspect := ha
  grab := hg
  within := List.nil_sublist _
  cover c hc' := .inr ⟨hc ▸ hc', fun _ h => absurd h List.not_mem_nil⟩

/-- A row layout places every card, or none. -/
theorem rowLayout_eq_nil_or_length (size : Size) (n : Nat) (aspect : Float) :
    rowLayout size n aspect = [] ∨ (rowLayout size n aspect).length = n := by
  unfold rowLayout rowLayoutIn
  split
  · exact .inl rfl
  · exact .inr (by simp)

/-- A layout places every card at its row place, or, when the row is empty, none. -/
theorem moves_laidOut (width height : Int) :
    b.Moves (b.laidOut width height) (placedCards b.cards (b.rowPlaces width height)) := by
  rcases rowLayout_eq_nil_or_length ⟨Float.ofInt width, Float.ofInt height⟩ b.cards.length b.cardAspect
    with hnil | hlen
  · -- no places: the cards stay, and nothing is placed
    have hrow : b.rowPlaces width height = [] := hnil
    have hcards : placeAll b.cards [] = b.cards := by cases b.cards <;> rfl
    simp only [hrow, placedCards, List.zipWith_nil_right]
    exact .of_cards (by simp [laidOut, hrow, hcards]) rfl (by simp [laidOut])
  · -- a place for every card: all of them are placed
    have hall := placeAll_eq_placedCards b.cards (b.rowPlaces width height) (Nat.le_of_eq (by rw [rowPlaces, hlen]))
    refine ⟨sprites_laidOut b width height, rfl, by simp [laidOut], ?_, ?_⟩
    · rw [← hall, sprites_placeAll]
      exact List.Sublist.refl _
    · intro c hc
      exact .inl (by simpa [laidOut, hall] using hc)

/-- Cards around a card of a table whose sprites are all different have sprites apart from
its. -/
theorem sprites_apart {pre post : List Card} {c₀ c : Card} (hnd : ((pre ++ c₀ :: post).flatMap Card.sprites).Nodup)
    (hc : c ∈ pre ∨ c ∈ post) : ∀ k ∈ c₀.sprites, k ∉ c.sprites := by
  intro k hk hkc
  simp only [List.flatMap_append, List.flatMap_cons, List.nodup_append] at hnd
  rcases hc with hc | hc
  · exact hnd.2.2 k (List.mem_flatMap.mpr ⟨c, hc, hkc⟩) k (List.mem_append_left _ hk) rfl
  · exact hnd.2.1.2.2 k hk k (List.mem_flatMap.mpr ⟨c, hc, hkc⟩) rfl

/-- A grabbed card keeps its sprites wherever it goes. -/
@[simp] theorem sprites_move (g : Grab) (c : Card) (p : Point) : (g.move c p).sprites = c.sprites := rfl

/-- A drag moves the grabbed card alone, on a table whose sprites are all different. -/
theorem moves_draggedTo (hgrab : ∀ g, b.grab = some g → g.card < b.cards.length) (hnd : b.sprites.Nodup)
    (p : Point) : b.Moves (b.draggedTo p) (b.dragged p) := by
  cases hg : b.grab with
  | none =>
    have hd : b.draggedTo p = b := by simp [draggedTo, hg]
    rw [hd, show b.dragged p = [] by simp [dragged, hg]]
    exact .of_cards rfl rfl (hd ▸ hgrab)
  | some g =>
    have hi := hgrab g hg
    -- the table is the cards before the grabbed one, the grabbed one, and those after it
    obtain ⟨c₀, hc₀⟩ : ∃ c₀, b.cards[g.card] = c₀ := ⟨_, rfl⟩
    obtain ⟨pre, hpre⟩ : ∃ pre, b.cards.take g.card = pre := ⟨_, rfl⟩
    obtain ⟨post, hpost⟩ : ∃ post, b.cards.drop (g.card + 1) = post := ⟨_, rfl⟩
    have hsplit : b.cards = pre ++ c₀ :: post := by
      rw [← hpre, ← hc₀, ← hpost, ← List.drop_eq_getElem_cons hi, List.take_append_drop]
    have hmoved : (b.draggedTo p).cards = pre ++ g.move c₀ p :: post := by
      simp only [draggedTo, hg]
      rw [List.modify_eq_take_cons_drop hi, hpre, hc₀, hpost]
    have hplaced : b.dragged p = [g.move c₀ p] := by
      simp [dragged, hg, List.getElem?_eq_getElem hi, hc₀]
    have hnd' : ((pre ++ c₀ :: post).flatMap Card.sprites).Nodup := hsplit ▸ hnd
    refine ⟨sprites_draggedTo b p, cardAspect_draggedTo b p, ?_, ?_, ?_⟩
    · intro g' hg'
      rw [length_draggedTo]
      have : (b.draggedTo p).grab = b.grab := by simp [draggedTo, hg]
      exact hgrab g' (this ▸ hg')
    · rw [hplaced, sprites, hsplit]
      simp only [List.flatMap_cons, List.flatMap_nil, List.append_nil, List.flatMap_append]
      exact (List.sublist_append_left _ _).trans (List.sublist_append_right _ _)
    · intro c hc
      rw [hmoved, List.mem_append, List.mem_cons] at hc
      rw [hplaced]
      -- the moved card is placed; any other was on the table, with other sprites
      rcases hc with hc | rfl | hc
      · refine .inr ⟨hsplit ▸ List.mem_append_left _ hc, fun c' hc' => ?_⟩
        rw [List.mem_singleton.mp hc', sprites_move]
        exact sprites_apart hnd' (.inl hc)
      · exact .inl List.mem_cons_self
      · refine .inr ⟨hsplit ▸ List.mem_append_right _ (List.mem_cons_of_mem _ hc), fun c' hc' => ?_⟩
        rw [List.mem_singleton.mp hc', sprites_move]
        exact sprites_apart hnd' (.inr hc)

/-- Every input moves the table as its placed cards say. -/
theorem moves_after (hgrab : ∀ g, b.grab = some g → g.card < b.cards.length) (hnd : b.sprites.Nodup) :
    ∀ i : TableInput, b.Moves (b.after i) (b.placedBy i)
  | .resize size => moves_laidOut _ _
  | .pointer input origin => by
    cases hp : input.phase with
    | down =>
      simp only [after, placedBy, hp]
      exact .of_cards rfl rfl fun g hg => grabAt_lt b hg
    | move =>
      simp only [after, placedBy, hp]
      exact moves_draggedTo hgrab hnd _
    | up =>
      simp only [after, placedBy, hp]
      exact .of_cards rfl rfl fun g hg => by cases hg
    | cancel =>
      simp only [after, placedBy, hp]
      exact .of_cards rfl rfl fun g hg => by cases hg

/-- No input changes the cards' aspect ratio. -/
@[simp] theorem cardAspect_after : ∀ i : TableInput, (b.after i).cardAspect = b.cardAspect
  | .resize _ => rfl
  | .pointer input origin => by
    cases hp : input.phase <;> simp only [after, hp, cardAspect_grabbedAt, cardAspect_draggedTo, cardAspect_released]

theorem cardAspect_foldl_after : ∀ (inputs : List TableInput) (b : Board),
    (inputs.foldl after b).cardAspect = b.cardAspect
  | [], _ => rfl
  | i :: inputs, b => by rw [List.foldl_cons, cardAspect_foldl_after inputs, cardAspect_after]

end Board

/-! ## A table in play -/

namespace World

/-- The world stages the table at site `s`: the site's view is a game view on the site's node,
with the site's interaction and layout registry; the interaction has
the site's click and drag registries and no sink; no click handler is registered, and the drag
and layout registries hold the table's own handlers; and the loop is there. -/
structure StagesTable (w : World) (s : TableSite) : Prop where
  view : (w.views[s.view]?).map (fun vs => (vs.node, vs.screen)) = some (s.node, .game s.interaction s.layouts)
  interaction : w.interactions[s.interaction]? = some ⟨s.clicks, s.drags, none⟩
  clicks : (w.registries[s.clicks]?).map Registry.snapshot = some []
  drags : (w.registries[s.drags]?).map Registry.snapshot = some [.cardDrag s.table]
  layouts : (w.registries[s.layouts]?).map Registry.snapshot = some [.cardLayout s.table]
  live : w.loopDropped = false

/-- Table `b` is in play at site `s`: the table is staged, its view hosted, and it holds `b`; a grab is of a card that
is there, the table's sprites have looks and stand on nodes of their own, apart from the root
and the view's node, every card is shown at its place when the cards' aspect ratio is above
zero, and the loop is idle and empty. -/
structure Plays (w : World) (s : TableSite) (b : Board) : Prop where
  stages : w.StagesTable s
  hosted : w.host.current = some s.view
  board : w.boards[s.table]? = some b
  grab : ∀ g, b.grab = some g → g.card < b.cards.length
  looks : ∀ k ∈ b.sprites, (w.spriteLook k).isSome
  apart : (0 :: s.node :: w.nodesOf b.sprites).Nodup
  shows : ¬b.cardAspect ≤ 0 → ∀ c ∈ b.cards, w.Shows c
  queue : w.loop.queue = []
  draining : w.loop.draining = false
  stopped : w.loop.stopped = false

/-- What handling an input at table `b` in play leaves: the table staged and hosted as before, now `b'`;
the changes that place the cards `placed` queued; and the sprites as they were, the table's
keeping their looks. -/
structure Handled (w w₁ : World) (s : TableSite) (b b' : Board) (placed : List Card) : Prop where
  stages : w₁.StagesTable s
  hosted : w₁.host.current = some s.view
  board : w₁.boards[s.table]? = some b'
  loop : w₁.loop = { w.loop with queue := w.loop.queue ++ (placed.flatMap Card.placeTasks).map .run }
  sprites : w₁.sprites = w.sprites
  looks : ∀ k ∈ b.sprites, w₁.spriteLook k = w.spriteLook k

end World

section Staging

variable {w w' : World} {s : TableSite} {b : Board}

/-- Staging reads the site's view, the site's interaction, the registries and whether the loop is
there. -/
theorem World.StagesTable.of_eq (h : w.StagesTable s)
    (hv : (w'.views[s.view]?).map (fun vs => (vs.node, vs.screen)) =
      (w.views[s.view]?).map (fun vs => (vs.node, vs.screen)))
    (hi : w'.interactions = w.interactions) (hr : w'.registries = w.registries)
    (hl : w'.loopDropped = w.loopDropped) : w'.StagesTable s where
  view := hv.trans h.view
  interaction := hi ▸ h.interaction
  clicks := hr ▸ h.clicks
  drags := hr ▸ h.drags
  layouts := hr ▸ h.layouts
  live := hl.trans h.live

/-- Sprite changes keep a table staged. -/
theorem World.StagesTable.restyles (h : w.StagesTable s) (hr : w.Restyles w') : w'.StagesTable s := by
  have he := hr.eq
  exact h.of_eq (by rw [he]) (by rw [he]) (by rw [he]) (by rw [he])

/-- An entry changed in a way a view of it cannot see looks the same. -/
theorem map_getElem?_modify {α β : Type} {f : α → α} {g : α → β} (hf : ∀ a, g (f a) = g a) (l : List α)
    (i j : Nat) : ((l.modify i f)[j]?).map g = (l[j]?).map g := by
  rw [← List.getElem?_map, ← List.getElem?_map, map_modify_of_comp hf]

/-- A sprite's look reads only its sprite and the size and position of the sprite's node. -/
theorem spriteLook_congr {k : Nat} (hs : w'.sprites = w.sprites)
    (hn : (w'.nodes[w.nodeOf k]?).map (fun n => (n.size, n.position)) =
      (w.nodes[w.nodeOf k]?).map (fun n => (n.size, n.position))) :
    w'.spriteLook k = w.spriteLook k := by
  unfold World.spriteLook
  rw [hs]
  cases h : w.sprites[k]? with
  | none => rfl
  | some st =>
    rw [World.nodeOf_eq h] at hn
    exact hn

/-- A sprite's node reads only the sprites. -/
theorem nodeOf_congr (hs : w'.sprites = w.sprites) : w'.nodeOf = w.nodeOf := by
  funext k
  unfold World.nodeOf
  rw [hs]

theorem nodesOf_congr (hs : w'.sprites = w.sprites) : w'.nodesOf = w.nodesOf := by
  funext ks
  unfold World.nodesOf
  rw [nodeOf_congr hs]

/-- A sprite with a look is there. -/
theorem lt_of_isSome_spriteLook {k : Nat} (h : (w.spriteLook k).isSome) : k < w.sprites.length := by
  unfold World.spriteLook at h
  cases hk : w.sprites[k]? with
  | none => simp [hk] at h
  | some st => exact (List.getElem?_eq_some_iff.mp hk).1

/-- A card is shown by the looks of its two sprites. -/
theorem shows_congr {c : Card} (h : ∀ k ∈ c.sprites, w'.spriteLook k = w.spriteLook k) :
    w'.Shows c ↔ w.Shows c := by
  unfold World.Shows
  rw [h c.back (by simp [Card.sprites]), h c.symbol (by simp [Card.sprites])]

/-- The changes placing cards whose sprites are among `ks`, on nodes of their own and with looks,
show every card placed. -/
theorem shows_placed {ks : List Nat} {placed : List Card} (hnd : (w.nodesOf ks).Nodup)
    (hlooks : ∀ k ∈ ks, (w.spriteLook k).isSome) (hwithin : (placed.flatMap Card.sprites).Sublist ks) :
    ∀ c ∈ placed, ((placed.flatMap Card.placeTasks).foldl World.restyle w).Shows c :=
  World.shows_placeTasks_flatMap placed ((hwithin.map w.nodeOf).nodup hnd)
    fun c hc k hk => hlooks k (hwithin.subset (List.mem_flatMap.mpr ⟨c, hc, hk⟩))

/-- Of sprites on nodes of their own, one is not on the node of any other. -/
theorem nodeOf_not_mem_nodesOf {ks ss : List Nat} {k : Nat} (hnd : (w.nodesOf ks).Nodup) (hk : k ∈ ks)
    (hss : ∀ j ∈ ss, j ∈ ks) (hkss : k ∉ ss) : w.nodeOf k ∉ w.nodesOf ss := by
  intro hmem
  obtain ⟨j, hj, hjk⟩ := List.mem_map.mp hmem
  exact hkss (List.inj_on_of_nodup_map hnd (hss j hj) hk hjk ▸ hj)

section Apart

variable {n : Nat} {ks : List Nat} (h : (0 :: n :: w.nodesOf ks).Nodup)
include h

/-- Sprites apart from the root and node `n` stand on nodes of their own. -/
theorem nodup_nodesOf_of_apart : (w.nodesOf ks).Nodup := (List.nodup_cons.mp (List.nodup_cons.mp h).2).2

/-- No sprite apart from the root and node `n` stands on either. -/
theorem node_ne_of_apart {k : Nat} (hk : k ∈ ks) : 0 ≠ w.nodeOf k ∧ n ≠ w.nodeOf k := by
  have hmem : w.nodeOf k ∈ w.nodesOf ks := List.mem_map_of_mem hk
  obtain ⟨h0, hrest⟩ := List.nodup_cons.mp h
  refine ⟨fun he => h0 (List.mem_cons_of_mem _ (he ▸ hmem)), fun he => ?_⟩
  exact (List.nodup_cons.mp hrest).1 (he ▸ hmem)

end Apart

namespace World.Plays

variable (h : w.Plays s b)
include h

/-- The table's sprites stand on nodes of their own. -/
theorem nodup_nodesOf : (w.nodesOf b.sprites).Nodup := nodup_nodesOf_of_apart h.apart

/-- No sprite of the table stands on the root or on the view's node. -/
theorem node_ne {k : Nat} (hk : k ∈ b.sprites) : 0 ≠ w.nodeOf k ∧ s.node ≠ w.nodeOf k := node_ne_of_apart h.apart hk

end World.Plays

end Staging

/-! ## Handling an input -/

section Handling

variable {w : World} {s : TableSite} {b : Board}

/-- Dispatching a registry whose one member is `h` runs `h`. -/
theorem dispatch_of_single {r : Nat} {h : Handler} {g : Signal} {w' : World}
    (hr : (w.registries[r]?).map Registry.snapshot = some [h]) (hrun : h.run g w = .ok () w') :
    dispatch r g w = .ok 1 w' := by
  obtain ⟨reg, hreg, hsnap⟩ := Option.map_eq_some_iff.mp hr
  unfold dispatch
  rw [bind_apply_ok (by rw [registryAt_apply, hreg])]
  simp only [hsnap, bind_apply, forM_cons_apply, forM_nil_apply, hrun]
  rfl

/-- Dispatching a registry with no members does nothing. -/
theorem dispatch_of_empty {r : Nat} {sig : Signal} (hr : (w.registries[r]?).map Registry.snapshot = some []) :
    dispatch r sig w = .ok 0 w := by
  obtain ⟨reg, hreg, hsnap⟩ := Option.map_eq_some_iff.mp hr
  unfold dispatch
  rw [bind_apply_ok (by rw [registryAt_apply, hreg])]
  simp only [hsnap]
  rfl

theorem ignoreFaults_of_ok {x : Act Unit} {w' : World} (h : x w = .ok () w') : Act.ignoreFaults x w = .ok () w' := by
  unfold Act.ignoreFaults
  rw [h]

theorem gameScreen_apply
    (hv : (w.views[s.view]?).map (fun vs => (vs.node, vs.screen)) = some (s.node, .game s.interaction s.layouts)) :
    gameScreen s.view w = .ok (s.interaction, s.layouts) w := by
  obtain ⟨vs, hv, hvs⟩ := Option.map_eq_some_iff.mp hv
  simp only [Prod.mk.injEq] at hvs
  unfold gameScreen
  simp only [bind_apply, viewAt_apply, hv, hvs.2]
  rfl

/-- The table's layout handler lays it out at the size it is given and queues the changes that
show the cards it placed. -/
theorem dispatch_layouts_apply (hs : w.StagesTable s) (hb : w.boards[s.table]? = some b) (width height : Int) :
    dispatch s.layouts (.layout width height) w = .ok 1 { w with
      boards := w.boards.set s.table (b.laidOut width height),
      loop := { w.loop with queue := w.loop.queue ++
        ((placedCards b.cards (b.rowPlaces width height)).flatMap Card.placeTasks).map .run } } :=
  dispatch_of_single hs.layouts (ignoreFaults_of_ok (layoutBoard_apply hb hs.live _ _))

/-- Laying out the game view of a staged table at `size` records the size on the view and its
node, then lays the table out at the size cut to whole units, queuing the changes that show it. -/
theorem layoutView_apply (hs : w.StagesTable s) (hb : w.boards[s.table]? = some b) (size : Size) :
    layoutView s.view size w = .ok () { w with
      views := w.views.modify s.view fun st => { st with laidOut := some size },
      nodes := w.nodes.modify s.node fun n => { n with size := size },
      boards := w.boards.set s.table (b.after (.resize size)),
      loop := { w.loop with queue := w.loop.queue ++
        ((b.placedBy (.resize size)).flatMap Card.placeTasks).map .run } } := by
  obtain ⟨vs, hv, hvs⟩ := Option.map_eq_some_iff.mp hs.view
  simp only [Prod.mk.injEq] at hvs
  -- the size is recorded first; the view keeps its node and screen
  have hs₁ : ({ w with
      views := w.views.modify s.view fun st => { st with laidOut := some size },
      nodes := w.nodes.modify s.node fun n => { n with size := size } } : World).StagesTable s :=
    hs.of_eq (map_getElem?_modify (f := fun st : ViewState => { st with laidOut := some size }) (fun _ => rfl)
      w.views s.view s.view) rfl rfl rfl
  unfold layoutView
  simp only [bind_apply, viewAt_apply, hv, modifyView_apply, modifyNode_apply, hvs.1, hvs.2]
  rw [dispatch_layouts_apply hs₁ hb]
  rfl

/-- A new window size at a staged table: recorded on the root and the host, then the hosted game
view is laid out at it. -/
theorem resizeHost_apply (hs : w.StagesTable s) (hh : w.host.current = some s.view)
    (hb : w.boards[s.table]? = some b) (size : Size) :
    resizeHost size w = .ok () { w with
      nodes := (w.nodes.modify 0 fun n => { n with size := size }).modify s.node fun n => { n with size := size },
      host := { w.host with size := some size, current := some s.view },
      views := w.views.modify s.view fun st => { st with laidOut := some size },
      boards := w.boards.set s.table (b.after (.resize size)),
      loop := { w.loop with queue := w.loop.queue ++
        ((b.placedBy (.resize size)).flatMap Card.placeTasks).map .run } } := by
  have hs₁ : ({ w with
      nodes := w.nodes.modify 0 fun n => { n with size := size },
      host := { w.host with size := some size, current := some s.view } } : World).StagesTable s :=
    hs.of_eq rfl rfl rfl rfl
  unfold resizeHost
  simp only [bind_apply, modifyNode_apply, modifyHost_apply, get_apply, hh]
  exact layoutView_apply hs₁ hb size

/-- Pointer input at a staged table goes to the table's drag handler, which grabs, drags or lets
go as the rules say; a drag queues the changes that show the moved card. -/
theorem pointer_act_apply (hs : w.StagesTable s) (hb : w.boards[s.table]? = some b)
    (hgrab : ∀ g, b.grab = some g → g.card < b.cards.length) (input : PointerInput) (origin : Point) :
    (TableInput.pointer input origin).act s.view w = .ok () { w with
      boards := w.boards.set s.table (b.after (.pointer input origin)),
      loop := { w.loop with queue := w.loop.queue ++
        ((b.placedBy (.pointer input origin)).flatMap Card.placeTasks).map .run } } := by
  simp only [TableInput.act, bind_apply, gameScreen_apply hs.view, interactionAt_apply, hs.interaction]
  cases hp : input.phase with
  | down =>
    simp only [deliverOwn, hp, bind_apply]
    rw [dispatch_of_single (g := .drag .start (input.dragEvent origin)) hs.drags
      (by simp only [Handler.run, bind_apply, grabCard_apply hb]; rfl)]
    simp only [Board.after, Board.placedBy, hp, List.flatMap_nil, List.map_nil, List.append_nil]
    rfl
  | move =>
    simp only [deliverOwn, hp, bind_apply]
    rw [dispatch_of_single (g := .drag .move (input.dragEvent origin)) hs.drags
      (ignoreFaults_of_ok (dragCard_apply hb hgrab hs.live _))]
    simp only [Board.after, Board.placedBy, hp]
    rfl
  | up =>
    simp only [deliverOwn, hp, bind_apply]
    have hs₁ : ({ w with boards := w.boards.set s.table b.released } : World).StagesTable s :=
      hs.of_eq rfl rfl rfl rfl
    rw [dispatch_of_single (g := .drag .finish (input.dragEvent origin)) hs.drags (releaseCard_apply hb)]
    simp only [dispatch_of_empty hs₁.clicks]
    simp only [Board.after, Board.placedBy, hp, List.flatMap_nil, List.map_nil, List.append_nil]
    rfl
  | cancel =>
    simp only [deliverOwn, hp, bind_apply]
    rw [dispatch_of_single (g := .drag .finish (input.dragEvent origin)) hs.drags (releaseCard_apply hb)]
    simp only [Board.after, Board.placedBy, hp, List.flatMap_nil, List.map_nil, List.append_nil]
    rfl

/-- Handling an input at a table in play changes the table as the rules say, queues the changes
that show the cards it placed, and leaves the table's sprites as they look. -/
theorem act_handled (h : w.Plays s b) (i : TableInput) :
    (i.act s.view).Answers w fun _ w₁ => w.Handled w₁ s b (b.after i) (b.placedBy i) := by
  have hlt : s.table < w.boards.length := (List.getElem?_eq_some_iff.mp h.board).1
  cases i with
  | resize size =>
    refine Answers.of_apply (resizeHost_apply h.stages h.hosted h.board size) ⟨?_, rfl, ?_, rfl, rfl, ?_⟩
    · exact h.stages.of_eq (map_getElem?_modify (f := fun st : ViewState => { st with laidOut := some size })
        (fun _ => rfl) w.views s.view s.view) rfl rfl rfl
    · exact List.getElem?_set_self hlt
    · -- only the root and the view's node were resized, and no sprite of the table stands there
      intro k hk
      obtain ⟨h0, hn⟩ := h.node_ne hk
      exact spriteLook_congr rfl (by rw [List.getElem?_modify_ne _ _ hn, List.getElem?_modify_ne _ _ h0])
  | pointer input origin =>
    refine Answers.of_apply (pointer_act_apply h.stages h.board h.grab input origin)
      ⟨h.stages.of_eq rfl rfl rfl rfl, h.hosted, List.getElem?_set_self hlt, rfl, rfl, fun _ _ => rfl⟩

end Handling

/-! ## Draining, and runs of inputs -/

section Running

variable {w : World} {s : TableSite} {b : Board}

/-- After an input's handling, a drain runs the changes it queued: the table is in play again,
each placed card shown at its new place and every other card as it was. -/
theorem plays_of_handled {w₁ : World} {b' : Board} {placed : List Card} (h : w.Plays s b)
    (hw : w.Handled w₁ s b b' placed) (hm : b.Moves b' placed) :
    drain.Answers w₁ fun _ w' => w'.Plays s b' := by
  have hq : w₁.loop.queue = (placed.flatMap Card.placeTasks).map .run := by
    rw [hw.loop, h.queue, List.nil_append]
  have hwithin : ∀ c ∈ placed, ∀ k ∈ c.sprites, k ∈ b.sprites :=
    fun c hc k hk => hm.within.subset (List.mem_flatMap.mpr ⟨c, hc, hk⟩)
  -- every queued change is to a sprite of the table, which is there
  have hts : ∀ t ∈ placed.flatMap Card.placeTasks, ∃ k, t.sprite? = some k ∧ k ∈ b.sprites := by
    intro t ht
    obtain ⟨c, hc, ht'⟩ := List.mem_flatMap.mp ht
    obtain ⟨k, hk, htk⟩ := World.sprite?_of_mem_placeTasks ht'
    exact ⟨k, htk, hwithin c hc k hk⟩
  have hdrain := World.drain_restyles (w := w₁) (by rw [hw.loop]; exact h.draining)
    (by rw [hw.loop]; exact h.stopped) hq fun t ht => by
      obtain ⟨k, htk, hk⟩ := hts t ht
      exact ⟨k, htk, hw.sprites ▸ lt_of_isSome_spriteLook (hw.looks k hk ▸ h.looks k hk)⟩
  refine Answers.of_apply hdrain ?_
  -- the drained world is the handled one with its queue emptied, after the sprite changes
  generalize hu : ({ w₁ with loop := { w₁.loop with queue := [] } } : World) = u
  generalize hts_def : placed.flatMap Card.placeTasks = ts at hts
  have hr := World.restyles_foldl ts u
  have hlooks : ∀ k ∈ b.sprites, u.spriteLook k = w.spriteLook k := fun k hk => by
    rw [← hu]
    exact hw.looks k hk
  have hnodes : u.nodesOf b.sprites = w.nodesOf b.sprites := by
    rw [← hu]
    exact congrFun (nodesOf_congr hw.sprites) b.sprites
  have hnd : (u.nodesOf b.sprites).Nodup := hnodes ▸ h.nodup_nodesOf
  have hloop : (ts.foldl World.restyle u).loop = { w₁.loop with queue := [] } := by rw [hr.eq, ← hu]
  refine ⟨(hw.stages.of_eq (by rw [← hu]) (by rw [← hu]) (by rw [← hu]) (by rw [← hu])).restyles hr,
    by rw [hr.eq, ← hu]; exact hw.hosted, by rw [hr.eq, ← hu]; exact hw.board, hm.grab, ?_, ?_, ?_,
    by rw [hloop], ?_, ?_⟩
  · intro k hk
    rw [hm.sprites] at hk
    exact World.isSome_spriteLook_foldl (by rw [hlooks k hk]; exact h.looks k hk) ts
  · rw [hr.nodesOf, hm.sprites, hnodes]
    exact h.apart
  · intro ha c hc
    rw [hm.aspect] at ha
    rcases hm.cover c hc with hcp | ⟨hcb, hdis⟩
    · -- a placed card: its own changes show it
      rw [← hts_def]
      exact shows_placed hnd (fun k hk => by rw [hlooks k hk]; exact h.looks k hk) hm.within c hcp
    · -- a card left where it was: the changes are to sprites on other nodes
      have hsub : ∀ j ∈ c.sprites, j ∈ b.sprites := fun j hj => List.mem_flatMap.mpr ⟨c, hcb, hj⟩
      refine World.shows_foldl_restyle ts ((shows_congr fun k hk => hlooks k (hsub k hk)).mpr (h.shows ha c hcb)) ?_
      intro t ht k htk
      rw [← hts_def] at ht
      obtain ⟨c', hc', ht'⟩ := List.mem_flatMap.mp ht
      obtain ⟨k', hk', htk'⟩ := World.sprite?_of_mem_placeTasks ht'
      obtain rfl : k' = k := Option.some.inj (htk'.symm.trans htk)
      exact nodeOf_not_mem_nodesOf hnd (hwithin c' hc' k' hk') hsub (hdis c' hc' k' hk')
  · rw [hloop, hw.loop]
    exact h.draining
  · rw [hloop, hw.loop]
    exact h.stopped

/-- **One input.** Handling an input at a table in play and draining the loop answers, and keeps
the table in play, now the table the rules give. -/
theorem plays_step (h : w.Plays s b) (i : TableInput) :
    (i.play s.view).Answers w fun _ w' => w'.Plays s (b.after i) := by
  have hnd : b.sprites.Nodup := h.nodup_nodesOf.of_map _
  unfold TableInput.play
  refine Answers.bind ((act_handled h i).mono fun _ w₁ hw => ?_)
  exact Answers.bind ((plays_of_handled h hw (Board.moves_after h.grab hnd i)).mono
    fun _ w' hw' => answers_pure.mpr hw')

/-- **Any run of inputs.** A table in play stays in play through any run of inputs, each followed
by a drain, and it is the table the rules give, input by input. -/
theorem plays_run : ∀ (inputs : List TableInput) {w : World} {b : Board}, w.Plays s b →
    (inputs.forM (TableInput.play s.view)).Answers w fun _ w' => w'.Plays s (inputs.foldl Board.after b)
  | [], _, _, h => answers_pure.mpr h
  | i :: inputs, _, _, h => Answers.bind ((plays_step h i).mono fun _ _ h₁ => plays_run inputs h₁)

end Running

end Proscenium
