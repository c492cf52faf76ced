import Proscenium.Proofs.CardGame.Deal

/-!
# Starting a game

The main menu's start click (`startGame`) creates a game view, binds it and queues the swap to
it, retires the menu, and then binds the game view: its presenter deals the hand and registers
the table's layout and drag handlers, all before the swap has run (`startGame_dealt`). So when
the loop is next drained, the changes to bars, buttons and sprites queued before the click run
first and touch nothing the table reads; then the swap runs, and presenting the game view lays
the table out at the window size already reported. The layout's changes are queued behind the
deal's textures, and the drain runs them last (`World.Dealt.drain_apply`), showing every card at
its row place (`World.Dealt.drain_plays`).

From there the table is in play (`World.Plays`), and `plays_run` carries it through any run of
resizes and pointer input: every card's place is the one its last layout or drag gave it, and
its sprites show exactly that place (`cards_show_their_last_layout_or_drag`).
-/

namespace Proscenium

open Act

/-- Where starting a game from world `w` puts its table: the next view, node and interaction,
the next three registries (the interaction's clicks and drags, then the view's layouts), and the
next table. -/
def World.nextSite (w : World) : TableSite :=
  ⟨w.views.length, w.nodes.length, w.interactions.length, w.registries.length, w.registries.length + 1,
    w.registries.length + 2, w.boards.length⟩

/-- Table `b` is dealt at site `s` and its view's swap is queued, behind the widget changes `pre`
and ahead of `tasks`: the table is staged and holds `b`, nothing is grabbed, the table's sprites
have looks and stand on nodes of their own, apart from the root and the view's node, and the
tasks behind the swap are changes to sprites that are there. -/
structure World.Dealt (w : World) (s : TableSite) (b : Board) (pre tasks : List SceneTask) : Prop where
  stages : w.StagesTable s
  board : w.boards[s.table]? = some b
  grab : b.grab = none
  looks : ∀ k ∈ b.sprites, (w.spriteLook k).isSome
  apart : (0 :: s.node :: w.nodesOf b.sprites).Nodup
  queue : w.loop.queue = pre.map .run ++ .run (.present s.view) :: tasks.map .run
  pre : ∀ t ∈ pre, w.WidgetChange t
  tasks : ∀ t ∈ tasks, ∃ k, t.sprite? = some k ∧ k < w.sprites.length
  draining : w.loop.draining = false
  stopped : w.loop.stopped = false
  root : 0 < w.nodes.length

/-- The game view of site `s`, in state `vs`, is open and bound to the card game, its swap queued, and
nothing dealt yet: the view holds no presenter; its interaction and the three registries are there,
different and empty; the next table is the site's; the view's node is there and is not the root;
and the loop holds the swap behind the tasks `pre`. -/
structure World.Opens (w : World) (s : TableSite) (vs : ViewState) (pre : List SceneTask) : Prop where
  view : w.views[s.view]? = some vs
  node : vs.node = s.node
  screen : vs.screen = .game s.interaction s.layouts
  vacant : vs.slot = .vacant
  bound : vs.binding.map Binding.app = some .cardGame
  interaction : w.interactions[s.interaction]? = some ⟨s.clicks, s.drags, none⟩
  clicks : (w.registries[s.clicks]?).map Registry.snapshot = some []
  drags : (w.registries[s.drags]?).map Registry.snapshot = some []
  layouts : (w.registries[s.layouts]?).map Registry.snapshot = some []
  distinct : s.clicks ≠ s.drags ∧ s.clicks ≠ s.layouts ∧ s.layouts ≠ s.drags
  table : w.boards.length = s.table
  nodes : 0 < s.node ∧ s.node < w.nodes.length
  live : w.loopDropped = false
  queue : w.loop.queue = pre.map .run ++ [.run (.present s.view)]
  draining : w.loop.draining = false
  stopped : w.loop.stopped = false

/-- World `w` with a new game view: an interaction with its click and drag registries, then the
layout registry, then the view's node, which hands its input to the interaction. The view is
unbound and holds no presenter. -/
def World.withGameView (w : World) : World :=
  { w with
    registries := w.registries ++ [Registry.empty, Registry.empty, Registry.empty],
    interactions := w.interactions ++ [⟨w.registries.length, w.registries.length + 1, none⟩],
    nodes := w.nodes ++ [NodeState.fresh "game" .hanging false (some w.interactions.length)],
    views := w.views ++
      [⟨w.nodes.length, .game w.interactions.length (w.registries.length + 2), none, .vacant, none⟩] }

/-! ## The game view -/

section GameView

variable {w : World}

theorem addView_game_apply (w : World) : addView .game w = .ok w.views.length w.withGameView := by
  simp only [addView, bind_apply, addInteraction_apply, addRegistry_apply, addNode_apply, pure_apply,
    List.length_append, List.length_cons, List.length_nil, List.append_assoc, List.cons_append, List.nil_append]
  rfl

/-- Leaving a main menu bound to the card game for the new game view binds the game view, queues
the swap to it and retires the menu, dropping the menu's handlers: the game view is open. -/
theorem transitionTo_opens {menu : Nat} {mv : ViewState} {bd : Binding} (hmenu : w.views[menu]? = some mv)
    (hbind : mv.binding = some bd) (happ : bd.app = .cardGame) (hroot : 0 < w.nodes.length)
    {pre : List SceneTask} (hq : w.loop.queue = pre.map .run) (hd : w.loop.draining = false)
    (hs : w.loop.stopped = false) (hlive : w.loopDropped = false) :
    (transitionTo menu w.views.length).Answers w.withGameView fun _ w' =>
      w'.Opens w.nextSite
        ⟨w.nodes.length, .game w.interactions.length (w.registries.length + 2), some bd, .vacant, none⟩ pre ∧
      w'.game = w.game ∧ w'.appState = w.appState ∧ w'.sprites = w.sprites ∧ w'.host = w.host := by
  have hlt : menu < w.views.length := (List.getElem?_eq_some_iff.mp hmenu).1
  have hv : w.withGameView.views[menu]? = some mv := by
    simp [World.withGameView, List.getElem?_append_left hlt, hmenu]
  have hn : w.withGameView.views[w.views.length]? =
      some ⟨w.nodes.length, .game w.interactions.length (w.registries.length + 2), none, .vacant, none⟩ := by
    simp [World.withGameView]
  refine (answers_transitionTo hv hbind hn rfl hlive).mono fun _ w' hp => ?_
  -- only the registries are left to find out, and the game view's three were empty
  obtain ⟨he, hr⟩ := hp
  generalize w'.registries = regs at he
  subst he
  have hempty : ∀ i : Nat, w.withGameView.registries[i]? = some Registry.empty →
      (regs[i]?).map Registry.snapshot = some [] := by
    intro i hi
    obtain ⟨r, hr', hsub⟩ := hr i _ hi
    rw [hr', Option.map_some, Registry.snapshot, List.sublist_nil.mp hsub, List.map_nil]
  refine ⟨⟨?_, rfl, rfl, rfl, by rw [Option.map_some, happ], by simp [World.withGameView, World.nextSite],
    hempty _ (by simp [World.withGameView, World.nextSite]), hempty _ (by simp [World.withGameView, World.nextSite]),
    hempty _ (by simp [World.withGameView, World.nextSite]), by simp [World.nextSite], rfl,
    ⟨hroot, by simp [World.withGameView, World.nextSite]⟩, hlive, ?_, hd, hs⟩, rfl, rfl, rfl, rfl⟩
  · simp [World.nextSite, List.getElem?_modify_ne _ _ (Nat.ne_of_lt hlt), hn]
  · show w.loop.queue ++ _ = _
    rw [hq]
    rfl

theorem faultsAreFatal_of_ok {α : Type} {wrap : Fault → Fault} {x : Act α} {a : α} {w' : World}
    (h : x w = .ok a w') : faultsAreFatal wrap x w = .ok a w' := by
  unfold faultsAreFatal
  rw [h]

end GameView

/-! ## Binding the game view: the deal and the table's handlers -/

section Presenting

variable {w : World} {s : TableSite} {view : ViewState}

/-- The table's layout handler joins the game view's layout registry. -/
theorem gameAddLayout_apply
    (hv : (w.views[s.view]?).map (fun vs => (vs.node, vs.screen)) = some (s.node, .game s.interaction s.layouts))
    {r : Registry Handler} (hl : w.registries[s.layouts]? = some r) (h : Handler) :
    gameAddLayout s.view h w =
      .ok (.entry s.layouts r.next) { w with registries := w.registries.modify s.layouts fun _ => (r.add h).2 } := by
  simp only [gameAddLayout, bind_apply, gameScreen_apply hv, addHandler_apply, hl]

/-- The table's drag handler joins the drag registry of the game view's interaction, and the
view's node takes pointer input from then on. -/
theorem gameAddDrag_apply
    (hv : (w.views[s.view]?).map (fun vs => (vs.node, vs.screen)) = some (s.node, .game s.interaction s.layouts))
    (hi : w.interactions[s.interaction]? = some ⟨s.clicks, s.drags, none⟩)
    {r : Registry Handler} (hd : w.registries[s.drags]? = some r) (h : Handler) :
    gameAddDrag s.view h w = .ok (.entry s.drags r.next) { w with
      nodes := w.nodes.modify s.node fun n => { n with interactive := true },
      registries := w.registries.modify s.drags fun _ => (r.add h).2 } := by
  obtain ⟨vs, hvs, hnode⟩ := Option.map_eq_some_iff.mp hv
  simp only [Prod.mk.injEq] at hnode
  simp only [gameAddDrag, bind_apply, viewAt_apply, hvs, modifyNode_apply, hnode.1,
    gameScreen_apply (w := { w with nodes := w.nodes.modify s.node fun n => { n with interactive := true } }) hv,
    interactionAt_apply, hi, addHandler_apply, hd]

/-- The registrations the game presenter keeps, the layout handler's first: the tokens the two
registries had next. -/
def gameRegistrations (s : TableSite) (layouts drags : Registry Handler) : Bundle Nat :=
  ⟨[.entry s.layouts layouts.next, .entry s.drags drags.next], true⟩

/-- The game presenter deals the hand onto a new table, then registers the table's layout and
drag handlers; nothing is laid out or queued beyond the deal's own texture changes. -/
theorem startGamePresenter_apply (hv : w.views[s.view]? = some view) (hn : view.node = s.node)
    (hsc : view.screen = .game s.interaction s.layouts)
    (hi : w.interactions[s.interaction]? = some ⟨s.clicks, s.drags, none⟩)
    {rl rd : Registry Handler} (hl : w.registries[s.layouts]? = some rl) (hd : w.registries[s.drags]? = some rd)
    (hdl : s.layouts ≠ s.drags) (hlive : w.loopDropped = false) {textures : CardTextures} {hand : List String}
    (hfaces : ∀ face ∈ hand, (textures.symbol? face).isSome) :
    ∃ u tasks, w.Deals u (2 * hand.length) tasks ∧
      startGamePresenter s.view textures hand w = .ok (.game w.boards.length (gameRegistrations s rl rd)) { u with
        boards := w.boards ++ [Board.dealt textures w.sprites.length hand],
        registries := (u.registries.modify s.layouts fun _ => (rl.add (.cardLayout w.boards.length)).2).modify
          s.drags fun _ => (rd.add (.cardDrag w.boards.length)).2,
        nodes := u.nodes.modify s.node fun n => { n with interactive := true } } := by
  obtain ⟨u, tasks, hdeal, d⟩ := dealBoard_deals hv hlive hfaces
  refine ⟨u, tasks, d, ?_⟩
  -- the deal leaves the view, the interaction and the registries there as they were
  have hv' : (u.views[s.view]?).map (fun vs => (vs.node, vs.screen)) =
      some (s.node, .game s.interaction s.layouts) := by
    rw [d.views, hv, Option.map_some, hn, hsc]
  have hi' : u.interactions[s.interaction]? = some ⟨s.clicks, s.drags, none⟩ := getElem?_of_prefix d.interactions hi
  have hl' : u.registries[s.layouts]? = some rl := getElem?_of_prefix d.registries hl
  have hd' : (u.registries.modify s.layouts fun _ => (rl.add (.cardLayout w.boards.length)).2)[s.drags]? = some rd := by
    rw [List.getElem?_modify_ne _ _ hdl]
    exact getElem?_of_prefix d.registries hd
  simp only [startGamePresenter, bind_apply, hdeal,
    gameAddLayout_apply (w := { u with boards := w.boards ++ [Board.dealt textures w.sprites.length hand] }) hv' hl',
    gameAddDrag_apply (w := { u with
      boards := w.boards ++ [Board.dealt textures w.sprites.length hand],
      registries := u.registries.modify s.layouts fun _ => (rl.add (.cardLayout w.boards.length)).2 }) hv' hi' hd']
  rfl

/-- Binding a game view of the card game deals the set-up's hand with the loaded textures and
registers the table's handlers, then records the new table as the one dealt last. -/
theorem bindToGame_apply (hv : w.views[s.view]? = some view) (hn : view.node = s.node)
    (hsc : view.screen = .game s.interaction s.layouts) {bd : Binding} (hb : view.binding = some bd)
    (happ : bd.app = .cardGame) {setup : GameSetup} (hgame : w.game = some setup) {textures : CardTextures}
    (htex : w.appState.textures = some textures)
    (hi : w.interactions[s.interaction]? = some ⟨s.clicks, s.drags, none⟩)
    {rl rd : Registry Handler} (hl : w.registries[s.layouts]? = some rl) (hd : w.registries[s.drags]? = some rd)
    (hdl : s.layouts ≠ s.drags) (hlive : w.loopDropped = false)
    (hfaces : ∀ face ∈ setup.hand, (textures.symbol? face).isSome) :
    ∃ u tasks, w.Deals u (2 * setup.hand.length) tasks ∧
      bindToGame s.view w = .ok (.game w.boards.length (gameRegistrations s rl rd)) { u with
        boards := w.boards ++ [Board.dealt textures w.sprites.length setup.hand],
        registries := (u.registries.modify s.layouts fun _ => (rl.add (.cardLayout w.boards.length)).2).modify
          s.drags fun _ => (rd.add (.cardDrag w.boards.length)).2,
        nodes := u.nodes.modify s.node fun n => { n with interactive := true },
        appState := { w.appState with table := some w.boards.length } } := by
  obtain ⟨u, tasks, d, hstart⟩ := startGamePresenter_apply hv hn hsc hi hl hd hdl hlive hfaces
  refine ⟨u, tasks, d, ?_⟩
  simp only [bindToGame, bind_apply, bindingOf_apply hv hb, happ, gameSetup, get_apply, hgame, pure_apply, htex,
    faultsAreFatal_of_ok hstart, modifyApp_apply]
  rw [d.appState, htex]

/-- A sprite keeps having a look while the sprites stay and no node goes. -/
theorem isSome_spriteLook_congr {w' : World} (hs : w'.sprites = w.sprites) (hn : w'.nodes.length = w.nodes.length)
    {k : Nat} (h : (w.spriteLook k).isSome) : (w'.spriteLook k).isSome := by
  rw [World.isSome_spriteLook_iff] at h ⊢
  rw [hs, hn, nodeOf_congr hs]
  exact h

/-- A sprite keeps having a look through widget changes. -/
theorem World.Restyles.isSome_spriteLook {w' : World} (hr : w.Restyles w') {k : Nat} (h : (w.spriteLook k).isSome) :
    (w'.spriteLook k).isSome := by
  rw [World.isSome_spriteLook_iff] at h ⊢
  rw [hr.sprites_length, hr.nodes, hr.nodeOf]
  exact h

/-- **Binding the open game view.** Its presenter deals the hand on the next table and registers
the table's handlers, and the view takes the presenter: the table is dealt and staged, with the
swap still queued ahead of the deal's texture changes. -/
theorem World.Opens.bind_dealt {pre : List SceneTask} (h : w.Opens s view pre) (hpre : ∀ t ∈ pre, w.WidgetChange t)
    {setup : GameSetup} (hgame : w.game = some setup) {textures : CardTextures}
    (htex : w.appState.textures = some textures) (hfaces : ∀ face ∈ setup.hand, (textures.symbol? face).isSome) :
    ∃ p w₁ w₂ tasks, bindToGame s.view w = .ok p w₁ ∧ setPresenter s.view p w₁ = .ok () w₂ ∧
      w₂.Dealt s (Board.dealt textures w.sprites.length setup.hand) pre tasks ∧ w₂.host = w.host := by
  obtain ⟨bd, hb, happ⟩ := Option.map_eq_some_iff.mp h.bound
  obtain ⟨rc, hc, hcs⟩ := Option.map_eq_some_iff.mp h.clicks
  obtain ⟨rd, hd, hds⟩ := Option.map_eq_some_iff.mp h.drags
  obtain ⟨rl, hl, hls⟩ := Option.map_eq_some_iff.mp h.layouts
  obtain ⟨hcd, hcl, hld⟩ := h.distinct
  obtain ⟨u, tasks, d, hbind⟩ :=
    bindToGame_apply h.view h.node h.screen hb happ hgame htex h.interaction hl hd hld h.live hfaces
  refine ⟨_, _, _, tasks, hbind, setPresenter_of_vacant (by rw [← h.view, ← d.views]) h.vacant _, ?_, d.host⟩
  -- the deal added the registries' members after those there, so the site's three are as they were
  have hc' := getElem?_of_prefix d.registries hc
  have hd' := getElem?_of_prefix d.registries hd
  have hl' := getElem?_of_prefix d.registries hl
  refine ⟨⟨?_, getElem?_of_prefix d.interactions h.interaction, ?_, ?_, ?_, d.loopDropped.trans h.live⟩, ?_, rfl,
    ?_, ?_, ?_, fun t ht => (hpre t ht).of_le
      (Nat.le_trans (Nat.le_add_right _ _) (Nat.le_of_eq d.sprites_length.symm)), ?_,
    d.draining.trans h.draining, d.stopped.trans h.stopped, ?_⟩
  · rw [map_getElem?_modify (f := fun st : ViewState => { st with slot := .held _ }) (fun _ => rfl), d.views,
      h.view, Option.map_some, h.node, h.screen]
  · simp only [List.getElem?_modify_ne _ _ (Ne.symm hcd), List.getElem?_modify_ne _ _ (Ne.symm hcl), hc',
      Option.map_some, hcs]
  · simp only [List.getElem?_modify_eq, List.getElem?_modify_ne _ _ hld, hd', Option.map_eq_map, Option.map_some,
      Registry.snapshot_add, hds, List.nil_append, h.table]
  · simp only [List.getElem?_modify_ne _ _ (Ne.symm hld), List.getElem?_modify_eq, hl', Option.map_eq_map,
      Option.map_some, Registry.snapshot_add, hls, List.nil_append, h.table]
  · simp [← h.table]
  · -- the new sprites have looks, and marking the view's node interactive removes no node
    rw [Board.sprites_dealt]
    intro k hk
    apply isSome_spriteLook_congr (w := u) _ _ (d.isSome_spriteLook_dealt k hk)
    · rfl
    · exact List.length_modify _ _ _
  · show (0 :: s.node :: u.nodesOf (Board.dealt textures w.sprites.length setup.hand).sprites).Nodup
    rw [Board.sprites_dealt, d.nodesOf_dealt]
    have := h.nodes
    simp only [List.nodup_cons, List.mem_cons, List.mem_range'_1]
    exact ⟨by omega, by omega, List.nodup_range' 1 Nat.one_pos⟩
  · show u.loop.queue = _
    rw [d.queue, h.queue, List.append_assoc, List.singleton_append]
  · intro t ht
    obtain ⟨k, hk, hlt⟩ := d.tasks t ht
    exact ⟨k, hk, by rw [← d.sprites_length] at hlt; exact hlt⟩
  · show 0 < (u.nodes.modify s.node _).length
    rw [List.length_modify, d.nodes]
    exact Nat.lt_of_lt_of_le (Nat.lt_trans h.nodes.1 h.nodes.2) (Nat.le_add_right _ _)

end Presenting

/-! ## The start click -/

section Starting

variable {w : World} {menu : Nat} {mv : ViewState} {bd : Binding} {setup : GameSetup} {textures : CardTextures}

/-- What the application keeps plays no part in a dealt table. -/
theorem World.Dealt.withAppState {s : TableSite} {b : Board} {pre tasks : List SceneTask}
    (h : w.Dealt s b pre tasks) (a : AppState) : { w with appState := a }.Dealt s b pre tasks :=
  ⟨h.stages.of_eq rfl rfl rfl rfl, h.board, h.grab, h.looks, h.apart, h.queue, h.pre, h.tasks, h.draining,
    h.stopped, h.root⟩

/-- Moving from a main menu bound to the card game to a new game answers the new view, with the
hand dealt on the next table and the swap to the view queued behind the widget changes queued
before and ahead of the deal's changes. -/
theorem toGame_dealt (hmenu : w.views[menu]? = some mv) (hbind : mv.binding = some bd) (happ : bd.app = .cardGame)
    (hgame : w.game = some setup) (htex : w.appState.textures = some textures)
    (hfaces : ∀ face ∈ setup.hand, (textures.symbol? face).isSome) (hroot : 0 < w.nodes.length)
    {pre : List SceneTask} (hq : w.loop.queue = pre.map .run) (hpre : ∀ t ∈ pre, w.WidgetChange t)
    (hd : w.loop.draining = false) (hs : w.loop.stopped = false) (hlive : w.loopDropped = false) :
    (toGame menu).Answers w fun v w' => v = w.views.length ∧
      ∃ tasks, w'.Dealt w.nextSite (Board.dealt textures w.sprites.length setup.hand) pre tasks ∧
        w'.host = w.host := by
  unfold toGame
  refine Answers.bind ((Answers.iff_of_apply (addView_game_apply w)).mpr ?_)
  refine Answers.bind ((transitionTo_opens hmenu hbind happ hroot hq hd hs hlive).mono fun _ w₁ hw₁ => ?_)
  obtain ⟨hopen, hgame₁, happ₁, hsprites₁, hhost₁⟩ := hw₁
  obtain ⟨p, w₂, w₃, tasks, hbind₂, hset, hdealt, hhost₃⟩ :=
    hopen.bind_dealt (fun t ht => (hpre t ht).of_le (Nat.le_of_eq (congrArg List.length hsprites₁).symm))
      (hgame₁.trans hgame) (by rw [happ₁]; exact htex) hfaces
  rw [hsprites₁] at hdealt
  exact Answers.bind (Answers.of_apply hbind₂ (Answers.bind (Answers.of_apply hset
    (answers_pure.mpr ⟨rfl, tasks, hdealt, hhost₃.trans hhost₁⟩))))

/-- **The start click.** From a main menu bound to the card game, with the textures loaded and
every face of the hand a symbol there, and only widget changes queued, starting a game answers:
the hand is dealt on the next table, the table's handlers are registered and the swap to the game
view is queued behind those changes and ahead of the deal's. The host is as it was. -/
theorem startGame_dealt (hmenu : w.views[menu]? = some mv) (hbind : mv.binding = some bd)
    (happ : bd.app = .cardGame) (hgame : w.game = some setup) (htex : w.appState.textures = some textures)
    (hfaces : ∀ face ∈ setup.hand, (textures.symbol? face).isSome) (hroot : 0 < w.nodes.length)
    {pre : List SceneTask} (hq : w.loop.queue = pre.map .run) (hpre : ∀ t ∈ pre, w.WidgetChange t)
    (hd : w.loop.draining = false) (hs : w.loop.stopped = false) (hlive : w.loopDropped = false) :
    (startGame menu).Answers w fun _ w' =>
      ∃ tasks, w'.Dealt w.nextSite (Board.dealt textures w.sprites.length setup.hand) pre tasks ∧
        w'.host = w.host := by
  obtain ⟨_, w', htoGame, -, tasks, hdealt, hhost⟩ :=
    toGame_dealt hmenu hbind happ hgame htex hfaces hroot hq hpre hd hs hlive
  have hstart : startGame menu w = .ok () { w' with appState := { w'.appState with stage := .game } } := by
    unfold startGame
    rw [htoGame]
  exact Answers.of_apply hstart ⟨tasks, hdealt.withAppState _, hhost⟩

end Starting

/-! ## The first drain -/

section FirstDrain

variable {w : World} {s : TableSite} {b : Board} {pre tasks : List SceneTask}

theorem le_foldl_add {α : Type} (f : α → Nat) : ∀ (l : List α) (n : Nat), n ≤ l.foldl (fun n a => n + f a) n
  | [], _ => Nat.le_refl _
  | a :: l, n => Nat.le_trans (Nat.le_add_right n (f a)) (le_foldl_add f l (n + f a))

theorem le_foldl_add_of_mem {α : Type} (f : α → Nat) {a : α} :
    ∀ {l : List α} (n : Nat), a ∈ l → f a ≤ l.foldl (fun n a => n + f a) n
  | b :: l, n, h => by
    rcases List.mem_cons.mp h with rfl | h
    · exact Nat.le_trans (Nat.le_add_left _ _) (le_foldl_add f l _)
    · exact le_foldl_add_of_mem f (n + f b) h

theorem World.le_cardCount {t : Nat} (hb : w.boards[t]? = some b) : b.cards.length ≤ w.cardCount :=
  le_foldl_add_of_mem (fun b : Board => b.cards.length) 0 (List.mem_of_getElem? hb)

theorem World.le_handlerCount {i : Nat} {r : Registry Handler} (hr : w.registries[i]? = some r) :
    r.size ≤ w.handlerCount :=
  le_foldl_add_of_mem Registry.size 0 (List.mem_of_getElem? hr)

theorem length_flatMap_placeTasks : ∀ cs : List Card, (cs.flatMap Card.placeTasks).length = 4 * cs.length
  | [] => rfl
  | c :: cs => by
    rw [List.flatMap_cons, List.length_append, length_flatMap_placeTasks cs, List.length_cons]
    simp only [Card.placeTasks, List.length_cons, List.length_nil]
    omega

theorem map_foldl_modify {α β : Type} {f : α → α} {g : α → β} (hf : ∀ a, g (f a) = g a) :
    ∀ (is : List Nat) (l : List α), (is.foldl (fun l i => l.modify i f) l).map g = l.map g
  | [], _ => rfl
  | i :: is, l => by rw [List.foldl_cons, map_foldl_modify hf is, map_modify_of_comp hf]

/-- The drain's budget covers the changes ahead of the swap, the swap, the changes queued behind
it, and four changes for each card of the table: the table's layout handler is a member of a
registry, so the budget counts each card at least once. -/
theorem World.Dealt.budget (h : w.Dealt s b pre tasks) :
    ∃ fuel, sceneEngine.budget w = pre.length + (fuel + 1) ∧ tasks.length + 4 * b.cards.length ≤ fuel := by
  obtain ⟨r, hr, hrs⟩ := Option.map_eq_some_iff.mp h.stages.layouts
  have hsize : r.size = 1 := by
    have := congrArg List.length hrs
    simpa [Registry.snapshot, Registry.size] using this
  have hcards : 4 * b.cards.length ≤ 4 * w.cardCount * w.handlerCount := by
    have hh : 0 < w.handlerCount := by
      have := World.le_handlerCount hr
      omega
    calc 4 * b.cards.length ≤ 4 * w.cardCount := Nat.mul_le_mul_left 4 (World.le_cardCount h.board)
      _ ≤ 4 * w.cardCount * w.handlerCount := Nat.le_mul_of_pos_right _ hh
  have hbudget : sceneEngine.budget w =
      (pre.length + (tasks.length + 1)) * (1 + 4 * w.cardCount * w.handlerCount) + 1 := by
    show w.loop.queue.length * _ + 1 = _
    rw [h.queue, List.length_append, List.length_map, List.length_cons, List.length_map]
  have hmore : 4 * w.cardCount * w.handlerCount ≤
      (pre.length + (tasks.length + 1)) * (4 * w.cardCount * w.handlerCount) :=
    Nat.le_mul_of_pos_left _ (Nat.add_pos_right _ (Nat.succ_pos _))
  rw [hbudget, Nat.mul_add, Nat.mul_one]
  -- the queue's length is at least one, so the per-card part alone covers the table
  generalize 4 * w.cardCount * w.handlerCount = m at hcards hmore ⊢
  generalize (pre.length + (tasks.length + 1)) * m = x at hmore ⊢
  exact ⟨tasks.length + 1 + x, by omega, by omega⟩

/-- Presenting the game view of a staged table, with a window size reported, is handled as a
resize: the view is grafted under the root in place of what was there, hosted, and laid out at
that size. Grafting changes only the nodes' links, so no sprite of the table off the view's node
changes its look. -/
theorem presentView_handled (hs : w.StagesTable s) (hb : w.boards[s.table]? = some b) {size : Size}
    (hsize : w.host.size = some size) (h0 : 0 < w.nodes.length)
    (hnode : ∀ k ∈ b.sprites, s.node ≠ w.nodeOf k) :
    ∃ w₁, presentView s.view w = .ok () w₁ ∧
      w.Handled w₁ s b (b.after (.resize size)) (b.placedBy (.resize size)) := by
  obtain ⟨vs, hv, hvs⟩ := Option.map_eq_some_iff.mp hs.view
  simp only [Prod.mk.injEq] at hvs
  obtain ⟨root, hroot⟩ : ∃ root, w.nodes[0]? = some root := ⟨_, List.getElem?_eq_getElem h0⟩
  -- the nodes once the root's children are detached and the view's node attached in their place
  generalize hns : ((root.children.foldl (fun ns c => ns.modify c fun m => { m with parent := none })
      (w.nodes.modify 0 fun m => { m with children := [] })).modify s.node fun n => { n with parent := some 0 }).modify
      0 (fun n => { n with children := n.children ++ [s.node] }) = ns
  have hlooks : ns.map (fun n => (n.size, n.position)) = w.nodes.map (fun n => (n.size, n.position)) := by
    rw [← hns,
      map_modify_of_comp (f := fun n : NodeState => { n with children := n.children ++ [s.node] }) (fun _ => rfl),
      map_modify_of_comp (f := fun n : NodeState => { n with parent := some 0 }) (fun _ => rfl),
      map_foldl_modify (f := fun m : NodeState => { m with parent := none }) (fun _ => rfl),
      map_modify_of_comp (f := fun m : NodeState => { m with children := [] }) (fun _ => rfl)]
  have hpresent : presentView s.view w = .ok () { w with
      nodes := ns.modify s.node fun n => { n with size := size },
      host := { w.host with current := some s.view, captured := none },
      views := w.views.modify s.view fun st => { st with laidOut := some size },
      boards := w.boards.set s.table (b.after (.resize size)),
      loop := { w.loop with queue := w.loop.queue ++
        ((b.placedBy (.resize size)).flatMap Card.placeTasks).map .run } } := by
    unfold presentView
    simp only [bind_apply, detachAll_apply hroot, viewAt_apply, hv, hvs.1, attach_apply, modifyHost_apply, get_apply,
      hsize, hns]
    refine ignoreFaults_of_ok (layoutView_apply ?_ (by exact hb) size)
    exact hs.of_eq rfl rfl rfl rfl
  refine ⟨_, hpresent, ⟨?_, rfl, List.getElem?_set_self (List.getElem?_eq_some_iff.mp hb).1, rfl, rfl, ?_⟩⟩
  · exact hs.of_eq (map_getElem?_modify (f := fun st : ViewState => { st with laidOut := some size }) (fun _ => rfl)
      w.views s.view s.view) rfl rfl rfl
  · intro k hk
    refine spriteLook_congr rfl ?_
    rw [List.getElem?_modify_ne _ _ (hnode k hk), ← List.getElem?_map, ← List.getElem?_map, hlooks]

/-- The widget changes queued ahead of the swap leave the table staged and its sprites where they
were, so the swap, run under any loop after them, presents the game view as a resize would. -/
theorem World.Dealt.presentView_after (h : w.Dealt s b pre tasks) {size : Size} (hsize : w.host.size = some size)
    (l : TaskLoop SceneTask) :
    ∃ w₁, presentView s.view { pre.foldl World.retouch w with loop := l } = .ok () w₁ ∧
      { pre.foldl World.retouch w with loop := l }.Handled w₁ s b (b.after (.resize size))
        (b.placedBy (.resize size)) := by
  have hr := World.restyles_foldl_retouch pre w
  refine presentView_handled (w := { pre.foldl World.retouch w with loop := l })
    ((h.stages.restyles hr).of_eq rfl rfl rfl rfl) (by rw [hr.eq]; exact h.board)
    (by rw [hr.eq]; exact hsize) (Nat.lt_of_lt_of_eq h.root hr.nodes.symm) fun k hk => ?_
  show s.node ≠ (pre.foldl World.retouch w).nodeOf k
  rw [hr.nodeOf]
  exact (node_ne_of_apart h.apart hk).2

/-- **What the first drain runs.** Draining a dealt table's loop, with a window size reported,
first runs the widget changes queued ahead of the swap, then takes the swap, which presents the
game view as a resize would and queues the layout's changes; then it runs the deal's texture
changes and, after them, the layout's changes, and leaves the loop empty and idle. -/
theorem World.Dealt.drain_apply (h : w.Dealt s b pre tasks) {size : Size} (hsize : w.host.size = some size) :
    ∃ w₁, { pre.foldl World.retouch w with loop := { w.loop with draining := true, queue := tasks.map .run } }.Handled
        w₁ s b (b.after (.resize size)) (b.placedBy (.resize size)) ∧
      drain w = .ok (pre.length + 1 + (tasks ++ (b.placedBy (.resize size)).flatMap Card.placeTasks).length)
        { (tasks ++ (b.placedBy (.resize size)).flatMap Card.placeTasks).foldl World.restyle w₁ with
          loop := { w₁.loop with queue := [], draining := false } } := by
  have hr := World.restyles_foldl_retouch pre w
  set u := pre.foldl World.retouch w
  obtain ⟨w₁, hpresent, hw₁⟩ := h.presentView_after hsize { w.loop with draining := true, queue := tasks.map .run }
  refine ⟨w₁, hw₁, ?_⟩
  -- the swap is taken off the queue next, and runs with the deal's changes still queued
  have hexec : sceneEngine.exec (.present s.view)
      (sceneEngine.setLoop
        { u with loop := { w.loop with draining := true, queue := .run (.present s.view) :: tasks.map .run } }
        { w.loop with draining := true, queue := tasks.map .run }) = (w₁, none) := by
    have hx : runTask (.present s.view) { u with loop := { w.loop with draining := true, queue := tasks.map .run } } =
        .ok () w₁ := hpresent
    simp only [sceneEngine, hx]
  -- then the deal's changes and the layout's, each to a sprite of the table
  have hm := Board.moves_laidOut (b := b) (Decimal.truncInto wordMin wordMax size.w)
    (Decimal.truncInto wordMin wordMax size.h)
  have hts : ∀ t ∈ tasks ++ (b.placedBy (.resize size)).flatMap Card.placeTasks,
      ∃ k, t.sprite? = some k ∧ k < w₁.sprites.length := by
    intro t ht
    rw [hw₁.sprites]
    show ∃ k, t.sprite? = some k ∧ k < u.sprites.length
    rw [hr.sprites_length]
    rcases List.mem_append.mp ht with ht | ht
    · exact h.tasks t ht
    · obtain ⟨c, hc, ht'⟩ := List.mem_flatMap.mp ht
      obtain ⟨k, hk, htk⟩ := World.sprite?_of_mem_placeTasks ht'
      exact ⟨k, htk, lt_of_isSome_spriteLook (h.looks k (hm.within.subset (List.mem_flatMap.mpr ⟨c, hc, hk⟩)))⟩
  obtain ⟨fuel, hfuel, hlen⟩ := h.budget
  obtain ⟨habort, hran, hworld⟩ := @World.drainLog_restyles _ w₁ fuel (pre.length + 1)
    (by rw [hw₁.loop]; exact h.stopped) (by rw [hw₁.loop, List.map_append]) hts
    (by rw [List.length_append, length_flatMap_placeTasks]
        simp only [Board.placedBy, placedCards, List.length_zipWith]
        omega)
  obtain ⟨taken, hlog⟩ := @World.drainLog_retouches pre { w with loop := { w.loop with draining := true } }
    (fuel + 1) 0 (.run (.present s.view) :: tasks.map .run) h.stopped h.queue h.pre
  -- the changes ran under the drain's loop, which they leave alone
  rw [World.foldl_retouch_withLoop, World.foldl_retouch_withLoop, Nat.zero_add] at hlog
  have hrun := sceneEngine.runPending_of_idle h.draining
  have hmark : sceneEngine.modifyLoop w (fun l => { l with draining := true }) =
      { w with loop := { w.loop with draining := true } } := rfl
  change _ = { sceneEngine.drainLog (fuel + 1)
    { u with loop := { w.loop with draining := true, queue := .run (.present s.view) :: tasks.map .run } }
    pre.length with taken := taken } at hlog
  rw [Engine.pendingLog, hmark, hfuel, hlog, Engine.drainLog_of_run_ok (by exact h.stopped) rfl hexec] at hrun
  unfold drain
  rw [hrun]
  simp only [Drained.outcome, Drained.abort_cons, Drained.ran_cons, Drained.world_cons, habort, hran, hworld,
    Engine.modifyLoop, sceneEngine_loop, sceneEngine_setLoop, World.foldl_restyle_withLoop]

/-- **The first drain.** Draining a dealt table's loop, with a window size reported, puts the
table in play, laid out at that size: the layout's changes run after the deal's texture changes,
so every card shows its row place. -/
theorem World.Dealt.drain_plays (h : w.Dealt s b pre tasks) {size : Size} (hsize : w.host.size = some size) :
    drain.Answers w fun _ w' => w'.Plays s (b.after (.resize size)) := by
  obtain ⟨w₁, hw₁, hdrain⟩ := h.drain_apply hsize
  refine Answers.of_apply hdrain ?_
  have hz := World.restyles_foldl (tasks ++ (b.placedBy (.resize size)).flatMap Card.placeTasks) w₁
  have hr := World.restyles_foldl_retouch pre w
  have hlooks : ∀ k ∈ b.sprites, (w₁.spriteLook k).isSome := fun k hk => by
    rw [hw₁.looks k hk]
    exact hr.isSome_spriteLook (h.looks k hk)
  have hnodes : w₁.nodesOf b.sprites = w.nodesOf b.sprites :=
    (congrFun (nodesOf_congr hw₁.sprites) b.sprites).trans (hr.nodesOf b.sprites)
  have hsprites : (b.after (.resize size)).sprites = b.sprites := Board.sprites_laidOut _ _ _
  refine ⟨(hw₁.stages.restyles hz).of_eq rfl rfl rfl rfl, by rw [hz.eq]; exact hw₁.hosted,
    by rw [hz.eq]; exact hw₁.board, (fun g hg => by cases hg), ?_, ?_, ?_, rfl, rfl,
    by rw [hw₁.loop]; exact h.stopped⟩
  · intro k hk
    rw [hsprites] at hk
    exact World.isSome_spriteLook_foldl (hlooks k hk) _
  · show (0 :: s.node :: ((tasks ++ (b.placedBy (.resize size)).flatMap Card.placeTasks).foldl World.restyle
      w₁).nodesOf (b.after (.resize size)).sprites).Nodup
    rw [hz.nodesOf, hsprites, hnodes]
    exact h.apart
  · -- with a positive aspect ratio the layout places every card, and its changes run last
    intro ha c hc
    change c ∈ (b.laidOut _ _).cards at hc
    rw [Board.cards_laidOut b _ _ ha] at hc
    show ((tasks ++ (b.placedBy (.resize size)).flatMap Card.placeTasks).foldl World.restyle w₁).Shows c
    rw [List.foldl_append]
    have hnd₀ : ((tasks.foldl World.restyle w₁).nodesOf b.sprites).Nodup := by
      rw [(World.restyles_foldl tasks w₁).nodesOf, hnodes]
      exact nodup_nodesOf_of_apart h.apart
    exact shows_placed hnd₀ (fun k hk => World.isSome_spriteLook_foldl (hlooks k hk) tasks)
      (Board.moves_laidOut _ _).within c hc

end FirstDrain

/-! ## A game, from the start click on -/

section Game

variable {w : World} {menu : Nat} {mv : ViewState} {bd : Binding} {setup : GameSetup} {textures : CardTextures}
  {size : Size}

/-- **Every card shows its last layout or drag.** Start a game from a main menu bound to the card
game, with the textures loaded, every face of the hand a symbol there, a window size already
reported and any changes to bars, buttons and sprites that are there queued before the click;
drain the loop; then take any run of resizes and pointer input, each followed by a drain.
Everything answers, and the new table is the dealt hand laid out at the reported size and then
changed by the rules, input by input: a resize lays all the cards out in a row for the new size,
cut to whole units, and a drag moves the grabbed card. Once the card image has a positive aspect
ratio, every card's back and symbol sprites show exactly the card's place. -/
theorem cards_show_their_last_layout_or_drag (hmenu : w.views[menu]? = some mv) (hbind : mv.binding = some bd)
    (happ : bd.app = .cardGame) (hgame : w.game = some setup) (htex : w.appState.textures = some textures)
    (hfaces : ∀ face ∈ setup.hand, (textures.symbol? face).isSome) (hsize : w.host.size = some size)
    (hroot : 0 < w.nodes.length) {pre : List SceneTask} (hq : w.loop.queue = pre.map .run)
    (hpre : ∀ t ∈ pre, w.WidgetChange t) (hd : w.loop.draining = false)
    (hs : w.loop.stopped = false) (hlive : w.loopDropped = false) (inputs : List TableInput) :
    (do startGame menu; let _ ← drain; inputs.forM (TableInput.play w.views.length)).Answers w fun _ w' =>
      w'.boards[w.boards.length]? =
        some ((TableInput.resize size :: inputs).foldl Board.after (Board.dealt textures w.sprites.length setup.hand)) ∧
      (¬textures.card.aspectRatio ≤ 0 → ∀ c ∈ ((TableInput.resize size :: inputs).foldl Board.after
        (Board.dealt textures w.sprites.length setup.hand)).cards, w'.Shows c) := by
  refine Answers.bind ((startGame_dealt hmenu hbind happ hgame htex hfaces hroot hq hpre hd hs hlive).mono
    fun _ w₁ hw₁ => ?_)
  obtain ⟨tasks, hdealt, hhost⟩ := hw₁
  refine Answers.bind ((hdealt.drain_plays (by rw [hhost]; exact hsize)).mono fun _ w₂ hw₂ => ?_)
  refine (plays_run inputs hw₂).mono fun _ w' hw' => ⟨hw'.board, fun ha => hw'.shows ?_⟩
  rw [Board.cardAspect_foldl_after, Board.cardAspect_after]
  exact ha

theorem cards_show_their_last_layout_or_drag_from_a_fresh_menu :
    let textures : CardTextures := ⟨default, [("four", default)]⟩
    let w : World := { World.fresh .topLeft (some ⟨["four"], default⟩) with
      appState := ⟨[], some textures, .mainMenu, none⟩
      views := [⟨1, .mainMenu 0, some ⟨.cardGame, 0⟩, .held (.menu ⟨[], true⟩), none⟩]
      host := ⟨some ⟨800, 600⟩, some 0, none⟩
      loop := ⟨[.run (.buttonText 0 "New Game")], false, false, 1⟩ }
    let inputs := [TableInput.resize ⟨1024, 768⟩]
    (do startGame 0; let _ ← drain; inputs.forM (TableInput.play w.views.length)).Answers w fun _ w' =>
      w'.boards[w.boards.length]? =
        some ((TableInput.resize ⟨800, 600⟩ :: inputs).foldl Board.after
          (Board.dealt textures w.sprites.length ["four"])) ∧
      (¬textures.card.aspectRatio ≤ 0 → ∀ c ∈ ((TableInput.resize ⟨800, 600⟩ :: inputs).foldl Board.after
        (Board.dealt textures w.sprites.length ["four"])).cards, w'.Shows c) := by
  intro textures w inputs
  exact cards_show_their_last_layout_or_drag (w := w) rfl rfl rfl rfl rfl (by decide) rfl (by decide)
    (show w.loop.queue = [SceneTask.buttonText 0 "New Game"].map .run from rfl)
    (by simp [World.WidgetChange, SceneTask.sprite?]) rfl rfl rfl inputs

end Game

end Proscenium
