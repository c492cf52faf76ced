import Proscenium.Proofs.Scene.Answers
import Proscenium.Proofs.Host.Frame

/-!
# Worlds that only grow

Most of what the host's callers do to a scene adds to it: a new view brings its node, its widget
and its registries; a layout resizes and moves nodes and widgets; a queued widget change sets a
value, a text or a look; a binding or a presenter changes a view's bookkeeping, and dropping a
presenter removes handlers. None of it moves a node to another parent, changes where a view is
or how it was laid out, or touches the host or the loop. This module says so once, as a
relation between worlds, and proves it of each of those steps.

* `World.graph` is where every node hangs; `parentOf` and `childrenOf` read it.
* `World.Grows w w'`: `w'` has the graph, the view placements, the registries (perhaps with
  fewer members) and the widgets of `w`, with perhaps more after them, and the host and the
  loop of `w`. `World.Amends` adds that `w'` has no more views. Both are preorders.
* `World.Sound` is what the host's steps need to go through: every view has a node of its own
  other than the root, what its screen refers to is there, the loop runs, and each queued task
  refers to what is there. An amendment keeps it (`Sound.amend`).
* `answers_layoutView` and `answers_applyWidgetTask`: in a sound world a layout and a queued widget
  change always answer, and only amend; `answers_addView`: a new view answers its index, and the
  world grows by that view, detached, on a fresh node.
-/

namespace Proscenium

open Act

section Lists

variable {α β : Type}

/-- Changing an entry in a way a projection does not see keeps the projected list. -/
theorem map_modify_of_comp {f : α → α} {g : α → β} (hf : ∀ a, g (f a) = g a) (l : List α) (i : Nat) :
    (l.modify i f).map g = l.map g := by
  apply List.ext_getElem?
  intro j
  simp only [List.getElem?_map, List.getElem?_modify]
  cases l[j]? with
  | none => rfl
  | some a => by_cases h : i = j <;> simp [h, hf]

/-- Changing an entry past the end of a prefix keeps the prefix. -/
theorem prefix_modify {l₁ l₂ : List α} (h : l₁ <+: l₂) {i : Nat} (hi : l₁.length ≤ i) (f : α → α) :
    l₁ <+: l₂.modify i f := by
  rw [List.prefix_iff_eq_take] at h ⊢
  rw [List.take_modify, ← h, List.modify_eq_self hi]

/-- An entry of a list with one more entry at the back is an old entry, or the new one. -/
theorem getElem?_concat_eq_some {l : List α} {a b : α} {i : Nat} (h : (l ++ [a])[i]? = some b) :
    (i < l.length ∧ l[i]? = some b) ∨ (i = l.length ∧ b = a) := by
  by_cases hi : i < l.length
  · rw [List.getElem?_append_left hi] at h
    exact .inl ⟨hi, h⟩
  · rw [List.getElem?_append_right (Nat.le_of_not_lt hi)] at h
    cases hk : i - l.length with
    | zero =>
      rw [hk] at h
      exact .inr ⟨by omega, (Option.some.inj h).symm⟩
    | succ k =>
      rw [hk] at h
      cases h

/-- An entry of a list whose projection is a prefix of another's has a counterpart there with
the same projection. -/
theorem exists_getElem?_of_map_prefix {p : α → β} {l l' : List α} (h : l.map p <+: l'.map p) {i : Nat}
    {a : α} (ha : l[i]? = some a) : ∃ b, l'[i]? = some b ∧ p b = p a := by
  have hp : (l'.map p)[i]? = some (p a) := getElem?_of_prefix h (by simp [ha])
  rw [List.getElem?_map] at hp
  exact Option.map_eq_some_iff.mp hp

theorem modify_concat_length (l : List α) (a : α) (f : α → α) :
    (l ++ [a]).modify l.length f = l ++ [f a] := by
  induction l with
  | nil => rfl
  | cons b l ih => simp [ih]

end Lists

/-- What the host reads of a view: its node, its screen and its last layout. A binding or a
presenter is not part of it. -/
def ViewState.placement (v : ViewState) : Nat × Screen × Option Size := (v.node, v.screen, v.laidOut)

namespace World

/-- Where each node hangs: its parent and its children, in attach order. -/
def graph (w : World) : List (Option Nat × List Nat) := w.nodes.map fun n => (n.parent, n.children)

/-- The parent of node `i`. -/
def parentOf (w : World) (i : Nat) : Option Nat := (w.graph[i]?).bind Prod.fst

/-- The children of node `i`, in attach order. -/
def childrenOf (w : World) (i : Nat) : List Nat := ((w.graph[i]?).map Prod.snd).getD []

/-- The node of view `v`. -/
def viewNode (w : World) (v : Nat) : Option Nat := (w.views[v]?).map ViewState.node

@[simp] theorem length_graph (w : World) : w.graph.length = w.nodes.length := List.length_map _

theorem parentOf_eq {w : World} {i : Nat} {n : NodeState} (h : w.nodes[i]? = some n) :
    w.parentOf i = n.parent := by
  simp [parentOf, graph, h]

theorem childrenOf_eq {w : World} {i : Nat} {n : NodeState} (h : w.nodes[i]? = some n) :
    w.childrenOf i = n.children := by
  simp [childrenOf, graph, h]

/-- A change to a node that keeps its parent and children keeps the graph. -/
theorem graph_modify {w : World} {f : NodeState → NodeState}
    (hf : ∀ n, (f n).parent = n.parent ∧ (f n).children = n.children) (i : Nat) :
    { w with nodes := w.nodes.modify i f }.graph = w.graph := by
  unfold graph
  exact map_modify_of_comp (fun n => by rw [(hf n).1, (hf n).2]) _ _

end World

/-! ## What a world refers to -/

/-- What a screen refers to is there: a loading screen's bar; a main menu's button, and the
button's node; a game screen's layout registry, which holds no handlers. -/
def Screen.Resolves (w : World) : Screen → Prop
  | .loading bar => bar < w.bars.length
  | .mainMenu button => ∃ b, w.buttons[button]? = some b ∧ b.node < w.nodes.length
  | .game _ layouts => ∃ r, w.registries[layouts]? = some r ∧ r.snapshot = []

/-- What a queued task refers to is there: the view a swap presents, the sprite a sprite change
is for. Changes to bars and buttons never fail. -/
def SceneTask.Resolves (w : World) : SceneTask → Prop
  | .present v => v < w.views.length
  | .spriteTexture s _ => s < w.sprites.length
  | .spriteSize s _ _ => s < w.sprites.length
  | .spriteMove s _ _ => s < w.sprites.length
  | .spriteVisible s _ => s < w.sprites.length
  | _ => True

namespace World

/-- `w'` has everything `w` has, perhaps with more after it: the graph of the nodes of `w`
(their looks may differ), the placements of its views (their bindings and presenters may
differ), its registries (each keeping a part of its members, in order) and widgets (the bars'
and buttons' looks may differ, not the buttons' nodes); and the host and the loop of `w`. -/
structure Grows (w w' : World) : Prop where
  graph : w.graph <+: w'.graph
  views : w.views.map ViewState.placement <+: w'.views.map ViewState.placement
  host : w'.host = w.host
  loop : w'.loop = w.loop
  dropped : w'.loopDropped = w.loopDropped
  bars : w.bars.length ≤ w'.bars.length
  buttons : w.buttons.map ButtonState.node <+: w'.buttons.map ButtonState.node
  registries : ∀ (i : Nat) (r : Registry Handler), w.registries[i]? = some r →
    ∃ r', w'.registries[i]? = some r' ∧ List.Sublist r'.items r.items
  sprites : w.sprites.length ≤ w'.sprites.length

namespace Grows

variable {w w' w'' : World}

theorem refl (w : World) : w.Grows w :=
  ⟨List.prefix_refl _, List.prefix_refl _, rfl, rfl, rfl, Nat.le_refl _, List.prefix_refl _,
    fun _ r hr => ⟨r, hr, List.Sublist.refl _⟩, Nat.le_refl _⟩

theorem trans (h₁ : w.Grows w') (h₂ : w'.Grows w'') : w.Grows w'' where
  graph := h₁.graph.trans h₂.graph
  views := h₁.views.trans h₂.views
  host := h₂.host.trans h₁.host
  loop := h₂.loop.trans h₁.loop
  dropped := h₂.dropped.trans h₁.dropped
  bars := Nat.le_trans h₁.bars h₂.bars
  buttons := h₁.buttons.trans h₂.buttons
  registries i r hr := by
    obtain ⟨r', hr', hs'⟩ := h₁.registries i r hr
    obtain ⟨r'', hr'', hs''⟩ := h₂.registries i r' hr'
    exact ⟨r'', hr'', hs''.trans hs'⟩
  sprites := Nat.le_trans h₁.sprites h₂.sprites

/-- Registries appended at the back keep every registry. -/
theorem registries_of_prefix (h : w.registries <+: w'.registries) :
    ∀ (i : Nat) (r : Registry Handler), w.registries[i]? = some r →
      ∃ r', w'.registries[i]? = some r' ∧ List.Sublist r'.items r.items :=
  fun _ r hr => ⟨r, getElem?_of_prefix h hr, List.Sublist.refl _⟩

theorem nodes_length (h : w.Grows w') : w.nodes.length ≤ w'.nodes.length := by
  simpa using h.graph.length_le

/-- The nodes of `w` hang in `w'` where they hung in `w`. -/
theorem graph_getElem? (h : w.Grows w') {i : Nat} (hi : i < w.nodes.length) : w'.graph[i]? = w.graph[i]? := by
  have hi' : i < w.graph.length := by simpa using hi
  rw [List.getElem?_eq_getElem hi']
  exact getElem?_of_prefix h.graph (List.getElem?_eq_getElem hi')

theorem parentOf (h : w.Grows w') {i : Nat} (hi : i < w.nodes.length) : w'.parentOf i = w.parentOf i := by
  simp only [World.parentOf, h.graph_getElem? hi]

theorem childrenOf (h : w.Grows w') {i : Nat} (hi : i < w.nodes.length) :
    w'.childrenOf i = w.childrenOf i := by
  simp only [World.childrenOf, h.graph_getElem? hi]

/-- A view of `w` is in `w'` with the same placement. -/
theorem view (h : w.Grows w') {v : Nat} {view : ViewState} (hv : w.views[v]? = some view) :
    ∃ view', w'.views[v]? = some view' ∧ view'.placement = view.placement :=
  exists_getElem?_of_map_prefix h.views hv

theorem screen_resolves (h : w.Grows w') {s : Screen} (hs : s.Resolves w) : s.Resolves w' := by
  cases s with
  | loading bar => exact Nat.lt_of_lt_of_le hs h.bars
  | mainMenu button =>
    obtain ⟨b, hb, hn⟩ := hs
    have hmap : (w'.buttons.map ButtonState.node)[button]? = some b.node :=
      getElem?_of_prefix h.buttons (by simp [hb])
    rw [List.getElem?_map] at hmap
    obtain ⟨b', hb', hnode⟩ := Option.map_eq_some_iff.mp hmap
    exact ⟨b', hb', hnode ▸ Nat.lt_of_lt_of_le hn h.nodes_length⟩
  | game _ layouts =>
    obtain ⟨r, hr, he⟩ := hs
    obtain ⟨r', hr', hsub⟩ := h.registries layouts r hr
    -- a registry with no members keeps none
    have hnil : r.items = [] := List.map_eq_nil_iff.mp he
    rw [hnil, List.sublist_nil] at hsub
    exact ⟨r', hr', by simp [Registry.snapshot, hsub]⟩

theorem task_resolves (h : w.Grows w') {t : SceneTask} (ht : t.Resolves w) : t.Resolves w' := by
  have hv : w.views.length ≤ w'.views.length := by simpa using h.views.length_le
  have hs := h.sprites
  cases t <;> simp only [SceneTask.Resolves] at ht ⊢ <;> omega

end Grows

/-- `w'` grows `w` and has the views of `w`, placed as in `w`: nothing is added, only changed in
ways the host does not see. -/
structure Amends (w w' : World) : Prop where
  grows : w.Grows w'
  views : w'.views.map ViewState.placement = w.views.map ViewState.placement

namespace Amends

variable {w w' w'' : World}

theorem refl (w : World) : w.Amends w := ⟨Grows.refl w, rfl⟩

/-- A view of `w'` is a view of `w` with the same placement. -/
theorem view (h : w.Amends w') {v : Nat} {view' : ViewState} (hv : w'.views[v]? = some view') :
    ∃ view, w.views[v]? = some view ∧ view.placement = view'.placement :=
  exists_getElem?_of_map_prefix (h.views ▸ List.prefix_refl _) hv

theorem trans (h₁ : w.Amends w') (h₂ : w'.Amends w'') : w.Amends w'' :=
  ⟨h₁.grows.trans h₂.grows, h₂.views.trans h₁.views⟩

/-- A world that differs from `w` only outside the graph, the views' placements, the host, the
loop, the registries and the arenas' lengths amends it. -/
theorem of_eq (hg : w'.graph = w.graph) (hv : w'.views.map ViewState.placement = w.views.map ViewState.placement)
    (hh : w'.host = w.host)
    (hl : w'.loop = w.loop) (hd : w'.loopDropped = w.loopDropped) (hb : w'.bars.length = w.bars.length)
    (hbn : w'.buttons.map ButtonState.node = w.buttons.map ButtonState.node)
    (hr : w'.registries = w.registries) (hs : w'.sprites.length = w.sprites.length) : w.Amends w' :=
  ⟨⟨hg ▸ List.prefix_refl _, hv ▸ List.prefix_refl _, hh, hl, hd, hb ▸ Nat.le_refl _,
    hbn ▸ List.prefix_refl _, Grows.registries_of_prefix (hr ▸ List.prefix_refl _), hs ▸ Nat.le_refl _⟩, hv⟩

end Amends

/-- `w'` is `w` with members taken out of its registries, and nothing else changed. -/
structure Prunes (w w' : World) : Prop where
  eq : w' = { w with registries := w'.registries }
  registries : ∀ (i : Nat) (r : Registry Handler), w.registries[i]? = some r →
    ∃ r', w'.registries[i]? = some r' ∧ List.Sublist r'.items r.items

namespace Prunes

variable {w w' w'' : World}

theorem refl (w : World) : w.Prunes w := ⟨rfl, fun _ r hr => ⟨r, hr, List.Sublist.refl _⟩⟩

theorem trans (h₁ : w.Prunes w') (h₂ : w'.Prunes w'') : w.Prunes w'' where
  eq := by rw [h₂.eq, h₁.eq]
  registries i r hr := by
    obtain ⟨r', hr', hs'⟩ := h₁.registries i r hr
    obtain ⟨r'', hr'', hs''⟩ := h₂.registries i r' hr'
    exact ⟨r'', hr'', hs''.trans hs'⟩

theorem amends (h : w.Prunes w') : w.Amends w' := by
  obtain ⟨heq, hr⟩ := h
  rw [heq]
  exact ⟨⟨List.prefix_refl _, List.prefix_refl _, rfl, rfl, rfl, Nat.le_refl _, List.prefix_refl _, hr,
    Nat.le_refl _⟩, rfl⟩

/-- Removing the member under a token from one registry prunes. -/
theorem remove (w : World) (i token : Nat) :
    w.Prunes { w with registries := w.registries.modify i fun r => (r.remove token).2 } where
  eq := rfl
  registries j r hr := by
    by_cases hij : i = j
    · subst hij
      refine ⟨(r.remove token).2, by simp [hr], ?_⟩
      rw [Registry.items_remove]
      exact List.eraseP_sublist
    · exact ⟨r, by rw [List.getElem?_modify_ne _ _ hij, hr], List.Sublist.refl _⟩

end Prunes

end World

/-! ## Sound worlds -/

namespace World

/-- What the host's steps need to go through. Every view has a node of its own, not the root,
and what its screen refers to is there; the loop runs and can be queued on; every queued message
is a task that refers to what is there. -/
structure Sound (w : World) : Prop where
  root : 0 < w.nodes.length
  views : ∀ (v : Nat) (view : ViewState), w.views[v]? = some view →
    view.node < w.nodes.length ∧ view.node ≠ 0 ∧ view.screen.Resolves w
  distinct : ∀ (v v' : Nat) (view view' : ViewState), w.views[v]? = some view → w.views[v']? = some view' →
    view.node = view'.node → v = v'
  running : w.loop.stopped = false
  live : w.loopDropped = false
  queue : ∀ m ∈ w.loop.queue, ∃ t, m = .run t ∧ t.Resolves w

/-- An amendment keeps a world sound. -/
theorem Sound.amend {w w' : World} (hs : w.Sound) (h : w.Amends w') : w'.Sound where
  root := Nat.lt_of_lt_of_le hs.root h.grows.nodes_length
  views v view' hv' := by
    obtain ⟨view, hv, hp⟩ := h.view hv'
    simp only [ViewState.placement, Prod.mk.injEq] at hp
    obtain ⟨hn, h0, hr⟩ := hs.views v view hv
    rw [← hp.1, ← hp.2.1]
    exact ⟨Nat.lt_of_lt_of_le hn h.grows.nodes_length, h0, h.grows.screen_resolves hr⟩
  distinct v v' view₁ view₂ hv₁ hv₂ hnode := by
    obtain ⟨view₁', hv₁', hp₁⟩ := h.view hv₁
    obtain ⟨view₂', hv₂', hp₂⟩ := h.view hv₂
    simp only [ViewState.placement, Prod.mk.injEq] at hp₁ hp₂
    exact hs.distinct v v' view₁' view₂' hv₁' hv₂' (by rw [hp₁.1, hp₂.1, hnode])
  running := by rw [h.grows.loop]; exact hs.running
  live := by rw [h.grows.dropped]; exact hs.live
  queue m hm := by
    rw [h.grows.loop] at hm
    obtain ⟨t, rfl, ht⟩ := hs.queue m hm
    exact ⟨t, rfl, h.grows.task_resolves ht⟩

end World

/-! ## Steps that amend -/

section Amending

open World

variable {w : World}

theorem answers_barSetSize {bar : Nat} (hb : bar < w.bars.length) (size : Size) :
    (barSetSize bar size).Answers w fun _ w' => w.Amends w' := by
  obtain ⟨b, hb'⟩ : ∃ b, w.bars[bar]? = some b := ⟨_, List.getElem?_eq_getElem hb⟩
  apply Answers.of_apply
  · simp only [barSetSize, bind_apply, barAt_apply, hb', modifyNode_apply, modifyBar_apply]
    exact rfl
  exact .of_eq (by simp [World.graph, map_modify_of_comp]) rfl rfl rfl rfl (by simp) rfl rfl rfl

theorem answers_barSetPosition {bar : Nat} (hb : bar < w.bars.length) (p : Point) :
    (barSetPosition bar p).Answers w fun _ w' => w.Amends w' := by
  obtain ⟨b, hb'⟩ : ∃ b, w.bars[bar]? = some b := ⟨_, List.getElem?_eq_getElem hb⟩
  apply Answers.of_apply
  · simp only [barSetPosition, bind_apply, barAt_apply, hb', modifyNode_apply]
    exact rfl
  exact .of_eq (by simp [World.graph, map_modify_of_comp]) rfl rfl rfl rfl rfl rfl rfl rfl

/-- Sizing a button looks its node up, so the node must be there. -/
theorem answers_buttonSetSize {button : Nat} {b : ButtonState} (hb : w.buttons[button]? = some b)
    (hn : b.node < w.nodes.length) (size : Size) :
    (buttonSetSize button size).Answers w fun _ w' => w.Amends w' := by
  obtain ⟨n, hn'⟩ : ∃ n, w.nodes[b.node]? = some n := ⟨_, List.getElem?_eq_getElem hn⟩
  by_cases hc : (!(n.size == size)) = true
  · apply Answers.of_apply
    · simp only [buttonSetSize, bind_apply, buttonAt_apply, hb, nodeAt_apply, hn', modifyNode_apply, hc,
        if_true, modifyButton_apply]
      exact rfl
    exact .of_eq (by simp [World.graph, map_modify_of_comp]) rfl rfl rfl rfl rfl
      (by simp [map_modify_of_comp]) rfl rfl
  · apply Answers.of_apply
    · simp only [buttonSetSize, bind_apply, buttonAt_apply, hb, nodeAt_apply, hn', modifyNode_apply, hc]
      exact rfl
    exact .of_eq (by simp [World.graph, map_modify_of_comp]) rfl rfl rfl rfl rfl rfl rfl rfl

theorem answers_buttonSetPosition {button : Nat} (hb : button < w.buttons.length) (p : Point) :
    (buttonSetPosition button p).Answers w fun _ w' => w.Amends w' := by
  obtain ⟨b, hb'⟩ : ∃ b, w.buttons[button]? = some b := ⟨_, List.getElem?_eq_getElem hb⟩
  apply Answers.of_apply
  · simp only [buttonSetPosition, bind_apply, buttonAt_apply, hb', modifyNode_apply]
    exact rfl
  exact .of_eq (by simp [World.graph, map_modify_of_comp]) rfl rfl rfl rfl rfl rfl rfl rfl

/-- Dispatching a registry with no members calls nothing and changes nothing. -/
theorem answers_dispatch_of_empty {registry : Nat} {r : Registry Handler} (hr : w.registries[registry]? = some r)
    (he : r.snapshot = []) (signal : Signal) : (dispatch registry signal).Answers w fun n w' => n = 0 ∧ w' = w := by
  apply Answers.of_apply
  · simp only [dispatch, bind_apply, registryAt_apply, hr, he, pure_apply]
    exact rfl
  exact ⟨rfl, rfl⟩

/-- A queued widget change that refers to what is there answers, and only amends. -/
theorem answers_applyWidgetTask {t : SceneTask} (ht : t.Resolves w) :
    (applyWidgetTask t).Answers w fun _ w' => w.Amends w' := by
  cases t with
  | present v => exact answers_pure.mpr (.refl w)
  | barValue bar value =>
    exact (Answers.iff_of_apply (modifyBar_apply _ _ _)).mpr
      (.of_eq rfl rfl rfl rfl rfl (List.length_modify _ _ _) rfl rfl rfl)
  | barText bar text =>
    exact (Answers.iff_of_apply (modifyBar_apply _ _ _)).mpr
      (.of_eq rfl rfl rfl rfl rfl (List.length_modify _ _ _) rfl rfl rfl)
  | buttonText button text =>
    exact (Answers.iff_of_apply (modifyButton_apply _ _ _)).mpr
      (.of_eq rfl rfl rfl rfl rfl rfl (by simp [map_modify_of_comp]) rfl rfl)
  | spriteTexture sprite texture =>
    obtain ⟨s, hs⟩ : ∃ s, w.sprites[sprite]? = some s := ⟨_, List.getElem?_eq_getElem ht⟩
    apply Answers.of_apply
    · simp only [applyWidgetTask, bind_apply, spriteAt_apply, hs, modifySprite_apply, modifyNode_apply]
      exact rfl
    exact .of_eq (by simp [World.graph, map_modify_of_comp]) rfl rfl rfl rfl rfl rfl rfl
      (List.length_modify _ _ _)
  | spriteSize sprite size ms =>
    obtain ⟨s, hs⟩ : ∃ s, w.sprites[sprite]? = some s := ⟨_, List.getElem?_eq_getElem ht⟩
    apply Answers.of_apply
    · simp only [applyWidgetTask, bind_apply, spriteAt_apply, hs, modifySprite_apply, modifyNode_apply]
      exact rfl
    exact .of_eq (by simp [World.graph, map_modify_of_comp]) rfl rfl rfl rfl rfl rfl rfl
      (List.length_modify _ _ _)
  | spriteMove sprite target ms =>
    obtain ⟨s, hs⟩ : ∃ s, w.sprites[sprite]? = some s := ⟨_, List.getElem?_eq_getElem ht⟩
    apply Answers.of_apply
    · simp only [applyWidgetTask, bind_apply, spriteAt_apply, hs, modifySprite_apply, modifyNode_apply]
      exact rfl
    exact .of_eq (by simp [World.graph, map_modify_of_comp]) rfl rfl rfl rfl rfl rfl rfl
      (List.length_modify _ _ _)
  | spriteVisible sprite visible =>
    obtain ⟨s, hs⟩ : ∃ s, w.sprites[sprite]? = some s := ⟨_, List.getElem?_eq_getElem ht⟩
    apply Answers.of_apply
    · simp only [applyWidgetTask, bind_apply, spriteAt_apply, hs, modifyNode_apply]
      exact rfl
    exact .of_eq (by simp [World.graph, map_modify_of_comp]) rfl rfl rfl rfl rfl rfl rfl rfl

/-- What an action amends from an amendment of `w₁` amends `w₁`. -/
theorem Act.Answers.amends_after {α : Type} {x : Act α} {w₁ u : World} (hu : w₁.Amends u)
    (h : x.Answers u fun _ u' => u.Amends u') : x.Answers u fun _ u' => w₁.Amends u' :=
  h.mono fun _ _ h' => hu.trans h'

/-- In a sound world a view's layout answers. It records the size as the view's last layout,
and everything else it does amends. -/
theorem answers_layoutView (hs : w.Sound) {v : Nat} {view : ViewState} (hv : w.views[v]? = some view)
    (size : Size) :
    (layoutView v size).Answers w fun _ w' =>
      { w with views := w.views.modify v fun st => { st with laidOut := some size } }.Amends w' := by
  have hres := (hs.views v view hv).2.2
  unfold layoutView
  refine Answers.bind ((answers_viewAt hv).mpr ?_)
  refine Answers.bind ((Answers.iff_of_apply (modifyView_apply _ _ _)).mpr ?_)
  refine Answers.bind ((Answers.iff_of_apply (modifyNode_apply _ _ _)).mpr ?_)
  -- the node's new size amends; what the screen then does amends from there
  refine Answers.amends_after (.of_eq (by simp [World.graph, map_modify_of_comp]) rfl rfl rfl rfl rfl rfl
    rfl rfl) ?_
  split
  next control at_ _ =>
  cases hsc : view.screen with
  | loading bar =>
    rw [hsc] at hres
    refine Answers.bind ((answers_barSetSize ?_ control).mono fun _ u hu => ?_)
    · exact hres
    · exact (answers_barSetPosition (Nat.lt_of_lt_of_le hres hu.grows.bars) at_).mono
        fun _ _ hu' => hu.trans hu'
  | mainMenu button =>
    rw [hsc] at hres
    obtain ⟨b, hb, hn⟩ := hres
    refine Answers.bind ((answers_buttonSetSize (b := b) ?_ ?_ control).mono fun _ u hu => ?_)
    · exact hb
    · simpa using hn
    · have hlen : button < u.buttons.length := by
        have hle := hu.grows.buttons.length_le
        have hlt := (List.getElem?_eq_some_iff.mp hb).1
        simp only [List.length_map] at hle
        omega
      exact (answers_buttonSetPosition hlen at_).mono fun _ _ hu' => hu.trans hu'
  | game interaction layouts =>
    rw [hsc] at hres
    obtain ⟨r, hr, he⟩ := hres
    refine Answers.bind ((answers_dispatch_of_empty ?_ he _).mono fun _ u hu => ?_)
    · exact hr
    · exact answers_pure.mpr (hu.2 ▸ .refl _)

/-- Deregistering, carrying on past a fault, answers and only prunes. -/
theorem answers_deregister_ignoringFaults (r : Registration Nat) :
    (Act.ignoreFaults (deregister r)).Answers w fun _ w' => w.Prunes w' := by
  cases r with
  | entry registry token => exact Answers.ignoreFaults ((Answers.iff_of_apply rfl).mpr (.remove w _ _))
  | nothing => exact Answers.ignoreFaults (answers_pure.mpr (.refl w))
  | failing f => exact (Answers.iff_of_apply rfl).mpr (.refl w)

/-- Dropping a presenter answers and only prunes: a scoped presenter removes its handlers. -/
theorem answers_dropPresenter (p : Presenter) : (dropPresenter p).Answers w fun _ w' => w.Prunes w' := by
  -- each removal prunes from where the last one left off
  have hquiet : ∀ rs : List (Registration Nat), (deregisterQuietly rs).Answers w fun _ w' => w.Prunes w' :=
    fun rs => Answers.forM (fun r _ u hu => (answers_deregister_ignoringFaults r).mono
      fun _ _ hu' => hu.trans hu') (.refl w)
  cases p with
  | named name => exact answers_pure.mpr (.refl w)
  | loader => exact answers_pure.mpr (.refl w)
  | menu regs => exact Answers.ite (fun _ => hquiet _) (fun _ => answers_pure.mpr (.refl w))
  | game t regs => exact Answers.ite (fun _ => hquiet _) (fun _ => answers_pure.mpr (.refl w))

end Amending

/-! ## New views -/

section NewView

open World

variable {w : World}

/-- A new view answers its index. The world grows by that view alone: unbound, vacant, never laid
out, of the screen asked for, on a fresh node that hangs nowhere; and what its screen refers to
is there. -/
theorem answers_addView (kind : ScreenKind) :
    (addView kind).Answers w fun v w' => v = w.views.length ∧ w.Grows w' ∧
      ∃ node screen, w'.views = w.views ++ [⟨node, screen, none, .vacant, none⟩] ∧ screen.kind = kind ∧
        screen.Resolves w' ∧ w.nodes.length ≤ node ∧ node < w'.nodes.length ∧ w'.parentOf node = none := by
  cases kind with
  | loading =>
    apply Answers.of_apply
    · simp only [addView, bind_apply, addBar_apply, barAt_apply, List.getElem?_concat_length, addNode_apply,
        forM_cons_apply, forM_nil_apply, attach_apply, pure_apply, List.length_append, List.length_singleton]
      exact rfl
    -- the bar's node is attached under the view's node, both past the old nodes
    refine ⟨rfl, ⟨?_, by simp, rfl, rfl, rfl, by simp, List.prefix_refl _,
      Grows.registries_of_prefix (List.prefix_refl _), Nat.le_refl _⟩, _, _, rfl, rfl, by simp [Screen.Resolves], by simp, by simp, ?_⟩
    · exact List.IsPrefix.map _ (prefix_modify (prefix_modify
        ((List.prefix_append _ _).trans (List.prefix_append _ _)) (by simp) _) (by simp) _)
    · simp [World.parentOf, World.graph, NodeState.fresh]
  | mainMenu =>
    apply Answers.of_apply
    · simp only [addView, bind_apply, addButton_apply, buttonSetFill, modifyButton_apply, modify_concat_length,
        buttonAt_apply, List.getElem?_concat_length, addNode_apply, forM_cons_apply, forM_nil_apply,
        attach_apply, pure_apply, List.length_append, List.length_singleton]
      exact rfl
    refine ⟨rfl, ⟨?_, by simp, rfl, rfl, rfl, Nat.le_refl _, by simp,
      Grows.registries_of_prefix (by simp), Nat.le_refl _⟩, _, _, rfl, rfl, by simp [Screen.Resolves], by simp, by simp, ?_⟩
    · exact List.IsPrefix.map _ (prefix_modify (prefix_modify
        ((List.prefix_append _ _).trans (List.prefix_append _ _)) (by simp) _) (by simp) _)
    · simp [World.parentOf, World.graph, NodeState.fresh]
  | game =>
    apply Answers.of_apply
    · simp only [addView, bind_apply, addInteraction_apply, addRegistry_apply, addNode_apply, forM_nil_apply,
        pure_apply]
      exact rfl
    refine ⟨rfl, ⟨by simp [World.graph], by simp, rfl, rfl, rfl, Nat.le_refl _,
      List.prefix_refl _, Grows.registries_of_prefix (by simp), Nat.le_refl _⟩, _, _, rfl, rfl,
      by simp [Screen.Resolves], by simp,
      by simp, by simp [World.parentOf, World.graph, NodeState.fresh]⟩

end NewView

end Proscenium
