import Proscenium.Host.Layout
import Proscenium.Proofs.Handler.Tokens

/-!
# What handlers leave alone

Handlers do a great deal: they deal card tables, create and retire views, queue work, and add
and remove handlers. None of them touches the host (the window size, the hosted view and the
capture), the native origin, an interaction once created, or the interaction a node hands its
input to; nodes and interactions are only ever appended to. A registry only gains and loses
members, each gained under a token from its counter (`World.RegistriesEvolve`).

* `World.Frame w w'` says that of two worlds; it is a preorder.
* `Act.Keeps x` says it of every world `x` can leave behind, whether it answers or aborts. It
  holds of the arena primitives that leave the host alone and is closed under `bind`, `forM`,
  `mapM` and the fault wrappers.
* Every handler keeps it (`Handler.keeps_run`), and so do dispatching a registry
  (`keeps_dispatch`) and laying a view out (`keeps_layoutView`).
-/

namespace Proscenium

theorem getElem?_of_prefix {α : Type} {l₁ l₂ : List α} (h : l₁ <+: l₂) {i : Nat} {a : α}
    (hi : l₁[i]? = some a) : l₂[i]? = some a := by
  obtain ⟨t, rfl⟩ := h
  rw [List.getElem?_append_left (List.getElem?_eq_some_iff.mp hi).1, hi]

/-- The entry a change is made to reads back changed. -/
theorem getElem?_modify_of_getElem? {α : Type} {l : List α} {i : Nat} {a : α} (h : l[i]? = some a)
    (f : α → α) : (l.modify i f)[i]? = some (f a) := by
  rw [List.getElem?_modify_eq, h]
  rfl

namespace World

/-- Each registry of `w` is, in `w'`, itself after some additions and removals. -/
def RegistriesEvolve (w w' : World) : Prop :=
  ∀ (i : Nat) (r : Registry Handler), w.registries[i]? = some r →
    ∃ r', w'.registries[i]? = some r' ∧ r.Evolves r'

namespace RegistriesEvolve

variable {w w' w'' : World}

theorem refl (w : World) : w.RegistriesEvolve w := fun _ r hr => ⟨r, hr, .refl r⟩

theorem trans (h₁ : w.RegistriesEvolve w') (h₂ : w'.RegistriesEvolve w'') : w.RegistriesEvolve w'' := by
  intro i r hr
  obtain ⟨r', hr', he'⟩ := h₁ i r hr
  obtain ⟨r'', hr'', he''⟩ := h₂ i r' hr'
  exact ⟨r'', hr'', he'.trans he''⟩

/-- Registries appended after the others leave the others as they were. -/
theorem appended (h : w.registries <+: w'.registries) : w.RegistriesEvolve w' :=
  fun _ r hr => ⟨r, getElem?_of_prefix h hr, .refl r⟩

/-- Changing one registry by additions and removals. -/
theorem modify {i : Nat} {f : Registry Handler → Registry Handler}
    (hf : ∀ r, w.registries[i]? = some r → r.Evolves (f r)) :
    w.RegistriesEvolve { w with registries := w.registries.modify i f } := by
  intro j r hr
  refine ⟨if i = j then f r else r, ?_, ?_⟩
  · show (w.registries.modify i f)[j]? = _
    rw [List.getElem?_modify, hr]
    rfl
  · split
    · next hij => exact hf r (hij ▸ hr)
    · exact .refl r

end RegistriesEvolve

/-- `w'` has the native origin, the host, the interactions and the nodes' interactions of `w`,
with perhaps more interactions and nodes after them, and its registries evolved from those of
`w`. -/
structure Frame (w w' : World) : Prop where
  origin : w'.origin = w.origin
  host : w'.host = w.host
  interactions : w.interactions <+: w'.interactions
  targets : w.nodes.map NodeState.target <+: w'.nodes.map NodeState.target
  registries : w.RegistriesEvolve w'

namespace Frame

variable {w w' w'' : World}

theorem refl (w : World) : Frame w w :=
  ⟨rfl, rfl, List.prefix_refl _, List.prefix_refl _, .refl w⟩

theorem trans (h₁ : Frame w w') (h₂ : Frame w' w'') : Frame w w'' :=
  ⟨h₂.origin.trans h₁.origin, h₂.host.trans h₁.host, h₁.interactions.trans h₂.interactions,
    h₁.targets.trans h₂.targets, h₁.registries.trans h₂.registries⟩

/-- A change of other fields only. -/
theorem of_eq (ho : w'.origin = w.origin) (hh : w'.host = w.host)
    (hi : w'.interactions = w.interactions)
    (ht : w'.nodes.map NodeState.target = w.nodes.map NodeState.target)
    (hr : w'.registries = w.registries) : Frame w w' :=
  ⟨ho, hh, hi ▸ List.prefix_refl _, ht ▸ List.prefix_refl _, .appended (hr ▸ List.prefix_refl _)⟩

end Frame

end World

namespace Act

variable {α β : Type}

/-- The world an action leaves, whether it answers or aborts. -/
def after (x : Act α) (w : World) : World :=
  match x w with
  | .ok _ w' => w'
  | .error _ w' => w'

/-- Every world `x` can leave behind is a frame of the world it started from. -/
def Keeps (x : Act α) : Prop := ∀ w : World, w.Frame (x.after w)

theorem keeps_pure (a : α) : Keeps (pure a : Act α) := fun w => World.Frame.refl w

theorem keeps_throw (e : Failure) : Keeps (throw e : Act α) := fun w => World.Frame.refl w

theorem keeps_get : Keeps (get : Act World) := fun w => World.Frame.refl w

theorem keeps_modify {f : World → World} (h : ∀ w : World, w.Frame (f w)) :
    Keeps (modify f : Act Unit) := h

theorem keeps_modifyGet {f : World → α × World} (h : ∀ w : World, w.Frame (f w).2) :
    Keeps (modifyGet f : Act α) := h

theorem Keeps.bind {x : Act α} {f : α → Act β} (hx : Keeps x) (hf : ∀ a, Keeps (f a)) :
    Keeps (x >>= f) := by
  refine fun w => ?_
  have hw := hx w
  show w.Frame (after (EStateM.bind x f) w)
  unfold after at hw ⊢
  simp only [EStateM.bind]
  cases hxw : x w with
  | ok a w₁ =>
    rw [hxw] at hw
    exact hw.trans (hf a w₁)
  | error e w₁ =>
    rw [hxw] at hw
    exact hw

/-- An action that keeps the frame and answers leaves a frame of its starting world. -/
theorem Keeps.frame_of_ok {x : Act α} {w w' : World} {a : α} (hx : Keeps x) (h : x w = .ok a w') :
    w.Frame w' := by
  have hw := hx w
  unfold after at hw
  rw [h] at hw
  exact hw

theorem Keeps.forM {l : List α} {f : α → Act PUnit} (hf : ∀ a ∈ l, Keeps (f a)) :
    Keeps (l.forM f) := by
  induction l with
  | nil => exact keeps_pure _
  | cons a l ih =>
    exact (hf a List.mem_cons_self).bind fun _ => ih fun b hb => hf b (List.mem_cons_of_mem _ hb)

theorem Keeps.mapM {l : List α} {f : α → Act β} (hf : ∀ a ∈ l, Keeps (f a)) :
    Keeps (l.mapM f) := by
  induction l with
  | nil => exact keeps_pure _
  | cons a l ih =>
    rw [List.mapM_cons]
    exact (hf a List.mem_cons_self).bind fun _ =>
      (ih fun b hb => hf b (List.mem_cons_of_mem _ hb)).bind fun _ => keeps_pure _

theorem Keeps.ite {c : Prop} [Decidable c] {x y : Act α} (hx : Keeps x) (hy : Keeps y) :
    Keeps (if c then x else y) := by
  split
  · exact hx
  · exact hy

/-- Passing over a returned fault leaves the world the action left. -/
theorem Keeps.ignoreFaults {x : Act Unit} (hx : Keeps x) : Keeps (ignoreFaults x) := by
  refine fun w => ?_
  have hw := hx w
  unfold after at hw ⊢
  unfold Act.ignoreFaults
  cases hxw : x w with
  | ok a w₁ =>
    rw [hxw] at hw
    exact hw
  | error e w₁ =>
    rw [hxw] at hw
    cases e <;> exact hw

theorem keeps_lookup (xs : List α) (i : Nat) (what : String) : Keeps (lookup xs i what) := by
  unfold lookup
  split
  · exact keeps_pure _
  · exact keeps_throw _

end Act

open Act

/-! ## The arena primitives -/

section Arenas

/-- Changing a node in a way that keeps its interaction keeps every node's. -/
theorem map_target_modify {l : List NodeState} {i : Nat} {f : NodeState → NodeState}
    (hf : ∀ n, (f n).target = n.target) :
    (l.modify i f).map NodeState.target = l.map NodeState.target := by
  apply List.ext_getElem?
  intro j
  simp only [List.getElem?_map, List.getElem?_modify]
  cases l[j]? with
  | none => rfl
  | some n =>
    simp only [Option.map_some]
    split <;> simp [hf]

theorem keeps_nodeAt (id : Nat) : Keeps (nodeAt id) :=
  keeps_get.bind fun _ => keeps_lookup _ _ _

theorem keeps_modifyNode (id : Nat) {f : NodeState → NodeState}
    (hf : ∀ n, (f n).target = n.target) : Keeps (modifyNode id f) :=
  keeps_modify fun _ => .of_eq rfl rfl rfl (map_target_modify hf) rfl

theorem keeps_addNode (n : NodeState) : Keeps (addNode n) := by
  refine keeps_modifyGet fun w => ⟨rfl, rfl, List.prefix_refl _, ?_, .refl w⟩
  show w.nodes.map NodeState.target <+: (w.nodes ++ [n]).map NodeState.target
  rw [List.map_append]
  exact List.prefix_append _ _

theorem keeps_interactionAt (id : Nat) : Keeps (interactionAt id) :=
  keeps_get.bind fun _ => keeps_lookup _ _ _

theorem keeps_registryAt (id : Nat) : Keeps (registryAt id) :=
  keeps_get.bind fun _ => keeps_lookup _ _ _

theorem keeps_modifyRegistry (id : Nat) {f : Registry Handler → Registry Handler}
    (hf : ∀ r : Registry Handler, r.Evolves (f r)) : Keeps (modifyRegistry id f) :=
  keeps_modify fun _ => ⟨rfl, rfl, List.prefix_refl _, List.prefix_refl _, .modify fun r _ => hf r⟩

theorem keeps_addRegistry : Keeps addRegistry :=
  keeps_modifyGet fun _ => ⟨rfl, rfl, List.prefix_refl _, List.prefix_refl _, .appended (List.prefix_append _ _)⟩

/-- A new interaction goes after the others. -/
theorem keeps_addInteraction : Keeps addInteraction := by
  refine keeps_addRegistry.bind fun _ => keeps_addRegistry.bind fun _ => ?_
  refine keeps_modifyGet fun w => ⟨rfl, rfl, ?_, List.prefix_refl _, .refl _⟩
  exact List.prefix_append _ _

theorem keeps_barAt (id : Nat) : Keeps (barAt id) := keeps_get.bind fun _ => keeps_lookup _ _ _

theorem keeps_modifyBar (id : Nat) (f : ProgressState → ProgressState) : Keeps (modifyBar id f) :=
  keeps_modify fun _ => .of_eq rfl rfl rfl rfl rfl

theorem keeps_buttonAt (id : Nat) : Keeps (buttonAt id) :=
  keeps_get.bind fun _ => keeps_lookup _ _ _

theorem keeps_modifyButton (id : Nat) (f : ButtonState → ButtonState) :
    Keeps (modifyButton id f) :=
  keeps_modify fun _ => .of_eq rfl rfl rfl rfl rfl

theorem keeps_spriteAt (id : Nat) : Keeps (spriteAt id) :=
  keeps_get.bind fun _ => keeps_lookup _ _ _

theorem keeps_modifySprite (id : Nat) (f : SpriteState → SpriteState) :
    Keeps (modifySprite id f) :=
  keeps_modify fun _ => .of_eq rfl rfl rfl rfl rfl

theorem keeps_viewAt (id : Nat) : Keeps (viewAt id) := keeps_get.bind fun _ => keeps_lookup _ _ _

theorem keeps_modifyView (id : Nat) (f : ViewState → ViewState) : Keeps (modifyView id f) :=
  keeps_modify fun _ => .of_eq rfl rfl rfl rfl rfl

theorem keeps_boardAt (id : Nat) : Keeps (boardAt id) := keeps_get.bind fun _ => keeps_lookup _ _ _

theorem keeps_modifyBoard (id : Nat) (f : Board → Board) : Keeps (modifyBoard id f) :=
  keeps_modify fun _ => .of_eq rfl rfl rfl rfl rfl

theorem keeps_modifyApp (f : AppState → AppState) : Keeps (modifyApp f) :=
  keeps_modify fun _ => .of_eq rfl rfl rfl rfl rfl

theorem keeps_post (t : SceneTask) : Keeps (post t) :=
  keeps_get.bind fun _ => Keeps.ite (keeps_throw _) (keeps_modify fun _ => .of_eq rfl rfl rfl rfl rfl)

theorem keeps_nextZ : Keeps nextZ := keeps_modifyGet fun _ => .of_eq rfl rfl rfl rfl rfl

theorem keeps_record (e : SceneEvent) : Keeps (record e) :=
  keeps_modify fun _ => .of_eq rfl rfl rfl rfl rfl

theorem addHandler_apply (registry : Nat) (h : Handler) (w : World) :
    addHandler registry h w = match w.registries[registry]? with
      | some r =>
        .ok (.entry registry r.next) { w with registries := w.registries.modify registry fun _ => (r.add h).2 }
      | none => .error (.abort ("dangling registry " ++ toString registry)) w := by
  have hread : registryAt registry w = match w.registries[registry]? with
      | some r => .ok r w
      | none => .error (.abort ("dangling " ++ "registry" ++ " " ++ toString registry)) w := by
    show lookup w.registries registry "registry" w = _
    unfold lookup
    cases w.registries[registry]? <;> rfl
  show EStateM.bind (registryAt registry) _ w = _
  unfold EStateM.bind
  rw [hread]
  cases w.registries[registry]? <;> rfl

/-- Adding a handler writes back the registry it has just read, with one member more. -/
theorem keeps_addHandler (registry : Nat) (h : Handler) : Keeps (addHandler registry h) := by
  intro w
  unfold after
  rw [addHandler_apply]
  cases hr : w.registries[registry]? with
  | none => exact World.Frame.refl w
  | some r =>
    refine ⟨rfl, rfl, List.prefix_refl _, List.prefix_refl _, .modify fun r' hr' => ?_⟩
    rw [hr, Option.some.injEq] at hr'
    subst hr'
    exact .add h (.refl _)

theorem keeps_deregister (r : Registration Nat) : Keeps (deregister r) := by
  cases r with
  | entry registry token => exact keeps_modifyRegistry _ fun r => .remove token (.refl r)
  | nothing => exact keeps_pure _
  | failing f => exact keeps_throw _

theorem keeps_deregisterQuietly (rs : List (Registration Nat)) : Keeps (deregisterQuietly rs) :=
  Keeps.forM fun r _ => (keeps_deregister r).ignoreFaults

theorem keeps_dropPresenter (p : Presenter) : Keeps (dropPresenter p) := by
  cases p with
  | named _ | loader => exact keeps_pure _
  | menu regs | game _ regs => exact Keeps.ite (keeps_deregisterQuietly _) (keeps_pure _)

end Arenas

/-! ## The scene graph and the widgets -/

section Widgets

theorem keeps_attach (parent child : Nat) : Keeps (attach parent child) :=
  (keeps_modifyNode child fun _ => by rfl).bind fun _ => keeps_modifyNode parent fun _ => by rfl

theorem keeps_addBar (name : String) : Keeps (addBar name) :=
  (keeps_addNode _).bind fun _ => keeps_modifyGet fun _ => .of_eq rfl rfl rfl rfl rfl

theorem keeps_barSetSize (bar : Nat) (size : Size) : Keeps (barSetSize bar size) :=
  (keeps_barAt bar).bind fun _ =>
    (keeps_modifyNode _ fun _ => by rfl).bind fun _ => keeps_modifyBar _ _

theorem keeps_barSetPosition (bar : Nat) (p : Point) : Keeps (barSetPosition bar p) :=
  (keeps_barAt bar).bind fun _ => keeps_modifyNode _ fun _ => by rfl

theorem keeps_addButton (name : String) : Keeps (addButton name) :=
  keeps_addInteraction.bind fun _ =>
    (keeps_addNode _).bind fun _ => keeps_modifyGet fun _ => .of_eq rfl rfl rfl rfl rfl

theorem keeps_buttonSetSize (button : Nat) (size : Size) : Keeps (buttonSetSize button size) :=
  (keeps_buttonAt button).bind fun _ => (keeps_nodeAt _).bind fun _ =>
    (keeps_modifyNode _ fun _ => by rfl).bind fun _ => Keeps.ite (keeps_modifyButton _ _) (keeps_pure _)

theorem keeps_buttonSetPosition (button : Nat) (p : Point) : Keeps (buttonSetPosition button p) :=
  (keeps_buttonAt button).bind fun _ => keeps_modifyNode _ fun _ => by rfl

theorem keeps_addSprite : Keeps addSprite :=
  keeps_addInteraction.bind fun _ =>
    (keeps_addNode _).bind fun _ => keeps_modifyGet fun _ => .of_eq rfl rfl rfl rfl rfl

end Widgets

/-! ## Views -/

section Views

theorem keeps_addView (kind : ScreenKind) : Keeps (addView kind) := by
  unfold addView
  -- the screen's widgets are made first; what follows them is the do block's join point
  extract_lets rest
  have hrest : ∀ p, Keeps (rest p) := fun ⟨screen, children⟩ =>
    (keeps_addNode _).bind fun node => (Keeps.forM fun c _ => keeps_attach node c).bind
      fun _ => keeps_modifyGet fun _ => .of_eq rfl rfl rfl rfl rfl
  cases kind with
  | loading =>
    exact (keeps_addBar _).bind fun bar => (keeps_barAt bar).bind fun _ => (keeps_pure _).bind hrest
  | mainMenu =>
    exact (keeps_addButton _).bind fun button => (keeps_modifyButton _ _).bind fun _ =>
      (keeps_buttonAt button).bind fun _ => (keeps_pure _).bind hrest
  | game =>
    exact keeps_addInteraction.bind fun _ => keeps_addRegistry.bind fun _ => (keeps_pure _).bind hrest

theorem keeps_bindView (v : Nat) (b : Binding) : Keeps (bindView v b) := by
  unfold bindView
  refine (keeps_viewAt v).bind fun view => ?_
  extract_lets rest
  have hrest : ∀ u, Keeps (rest u) := fun _ => keeps_modifyView _ _
  exact Keeps.ite ((keeps_throw _).bind hrest) (hrest ())

theorem keeps_bindingOf (v : Nat) : Keeps (bindingOf v) := by
  refine (keeps_viewAt v).bind fun view => ?_
  cases view.binding with
  | some b => exact keeps_pure _
  | none => exact keeps_throw _

theorem keeps_setPresenter (v : Nat) (p : Presenter) : Keeps (setPresenter v p) := by
  refine (keeps_viewAt v).bind fun view => ?_
  cases view.slot with
  | retired => exact keeps_dropPresenter p
  | held old => exact (keeps_modifyView _ _).bind fun _ => keeps_dropPresenter old
  | vacant => exact keeps_modifyView _ _

theorem keeps_retire (v : Nat) : Keeps (retire v) := by
  refine (keeps_viewAt v).bind fun view => (keeps_modifyView _ _).bind fun _ => ?_
  cases view.slot with
  | held p => exact keeps_dropPresenter p
  | retired | vacant => exact keeps_pure _

theorem keeps_transitionTo (v next : Nat) : Keeps (transitionTo v next) :=
  (keeps_bindingOf v).bind fun b => (keeps_bindView next b).bind fun _ =>
    (keeps_post _).bind fun _ => keeps_retire v

theorem keeps_gameScreen (v : Nat) : Keeps (gameScreen v) := by
  refine (keeps_viewAt v).bind fun view => ?_
  cases view.screen with
  | game interaction layouts => exact keeps_pure _
  | loading _ | mainMenu _ => exact keeps_throw _

theorem keeps_createSprite (v : Nat) : Keeps (createSprite v) :=
  keeps_addSprite.bind fun sprite => (keeps_spriteAt sprite).bind fun _ =>
    keeps_nextZ.bind fun _ => (keeps_modifyNode _ fun _ => by rfl).bind fun _ =>
      (keeps_viewAt v).bind fun view => (keeps_attach view.node _).bind fun _ => keeps_pure _

theorem keeps_gameAddDrag (v : Nat) (h : Handler) : Keeps (gameAddDrag v h) :=
  (keeps_viewAt v).bind fun _ => (keeps_modifyNode _ fun _ => by rfl).bind fun _ =>
    (keeps_gameScreen v).bind fun ⟨interaction, _⟩ =>
      (keeps_interactionAt interaction).bind fun it => keeps_addHandler it.drags h

theorem keeps_gameAddLayout (v : Nat) (h : Handler) : Keeps (gameAddLayout v h) :=
  (keeps_gameScreen v).bind fun ⟨_, layouts⟩ => keeps_addHandler layouts h

end Views

/-! ## The card table -/

section Board

theorem keeps_dealBoard (v : Nat) (textures : CardTextures) (faces : List String) :
    Keeps (dealBoard v textures faces) := by
  refine (Keeps.mapM fun face _ => ?_).bind fun _ => keeps_modifyGet fun _ => .of_eq rfl rfl rfl rfl rfl
  cases textures.symbol? face with
  | none => exact keeps_throw _
  | some symbolTexture =>
    exact (keeps_createSprite v).bind fun ⟨back, _⟩ => (keeps_post _).bind fun _ =>
      (keeps_createSprite v).bind fun ⟨symbol, _⟩ => (keeps_post _).bind fun _ => keeps_pure _

theorem keeps_placeCard (t i : Nat) (place : Place) : Keeps (placeCard t i place) :=
  (keeps_boardAt t).bind fun _ => (keeps_lookup _ _ _).bind fun _ =>
    (keeps_modifyBoard _ _).bind fun _ =>
      (keeps_post _).bind fun _ => (keeps_post _).bind fun _ =>
        (keeps_post _).bind fun _ => keeps_post _

theorem keeps_layoutBoard (t : Nat) (width height : Int) : Keeps (layoutBoard t width height) :=
  (keeps_modifyBoard _ _).bind fun _ => (keeps_boardAt t).bind fun _ =>
    Keeps.forM fun ⟨i, place⟩ _ => keeps_placeCard t i place

theorem keeps_grabCard (t : Nat) (p : Point) : Keeps (grabCard t p) :=
  (keeps_boardAt t).bind fun _ => (keeps_modifyBoard _ _).bind fun _ => keeps_pure _

theorem keeps_dragCard (t : Nat) (p : Point) : Keeps (dragCard t p) := by
  refine (keeps_boardAt t).bind fun b => ?_
  cases b.grab with
  | none => exact keeps_pure _
  | some g =>
    exact (keeps_boardAt t).bind fun _ => (keeps_lookup _ _ _).bind fun _ => keeps_placeCard _ _ _

end Board

/-! ## Presenters and handlers -/

section Handlers

/-- Turning a fault into an abort leaves the world the action left. -/
theorem Act.Keeps.faultsAreFatal {α : Type} {x : Act α} (hx : Keeps x) (wrap : Fault → Fault) :
    Keeps (faultsAreFatal wrap x) := by
  refine fun w => ?_
  have hw := hx w
  unfold after at hw ⊢
  unfold Proscenium.faultsAreFatal
  cases hxw : x w with
  | ok a w₁ =>
    rw [hxw] at hw
    exact hw
  | error e w₁ =>
    rw [hxw] at hw
    cases e <;> exact hw

theorem keeps_startGamePresenter (v : Nat) (textures : CardTextures) (hand : List String) :
    Keeps (startGamePresenter v textures hand) :=
  (keeps_dealBoard v textures hand).bind fun _ => (keeps_gameAddLayout v _).bind fun _ =>
    (keeps_gameAddDrag v _).bind fun _ => keeps_pure _

theorem keeps_bindToGame (v : Nat) : Keeps (bindToGame v) := by
  refine (keeps_bindingOf v).bind fun binding => ?_
  cases binding.app with
  | recorder => exact (keeps_modifyApp _).bind fun _ => keeps_pure _
  | cardGame =>
    refine (keeps_get.bind fun w => ?_).bind fun setup => keeps_get.bind fun w => ?_
    · cases w.game with
      | some g => exact keeps_pure _
      | none => exact keeps_throw _
    · cases w.appState.textures with
      | none => exact keeps_throw _
      | some textures =>
        refine ((keeps_startGamePresenter v textures _).faultsAreFatal _).bind fun p => ?_
        extract_lets rest
        have hrest : ∀ u, Keeps (rest u) := fun _ => keeps_pure _
        cases p with
        | game t regs => exact (keeps_modifyApp _).bind hrest
        | named _ | loader | menu _ => exact hrest ()

theorem keeps_toGame (v : Nat) : Keeps (toGame v) :=
  (keeps_addView .game).bind fun next => (keeps_transitionTo v next).bind fun _ =>
    (keeps_bindToGame next).bind fun p => (keeps_setPresenter next p).bind fun _ => keeps_pure _

/-- The start button's click: what leaving the menu leaves, with the stage moved on. -/
theorem keeps_startGame (menu : Nat) : Keeps (startGame menu) := by
  refine fun w => ?_
  have hw := keeps_toGame menu w
  unfold after at hw ⊢
  unfold startGame
  cases hxw : toGame menu w with
  | ok a w₁ =>
    rw [hxw] at hw
    exact ⟨hw.origin, hw.host, hw.interactions, hw.targets, hw.registries⟩
  | error e w₁ =>
    rw [hxw] at hw
    cases e <;> exact hw

/-- No handler touches the host, the native origin, an interaction or a node's interaction. -/
theorem Handler.keeps_run (h : Handler) (signal : Signal) : Keeps (h.run signal) := by
  cases h with
  | logClick r =>
    cases signal with
    | click => exact keeps_record _
    | drag _ _ | layout _ _ => exact keeps_pure _
  | logDrag r =>
    cases signal with
    | drag _ _ => exact keeps_record _
    | click | layout _ _ => exact keeps_pure _
  | logLayout r =>
    cases signal with
    | layout _ _ => exact keeps_record _
    | click | drag _ _ => exact keeps_pure _
  | startGame menu =>
    cases signal with
    | click => exact keeps_startGame menu
    | drag _ _ | layout _ _ => exact keeps_pure _
  | cardLayout t =>
    cases signal with
    | layout width height => exact (keeps_layoutBoard t width height).ignoreFaults
    | click | drag _ _ => exact keeps_pure _
  | cardDrag t =>
    cases signal with
    | drag stage e =>
      cases stage with
      | start => exact (keeps_grabCard t _).bind fun _ => keeps_pure _
      | move => exact (keeps_dragCard t _).ignoreFaults
      | finish => exact keeps_modifyBoard _ _
    | click | layout _ _ => exact keeps_pure _

theorem keeps_dispatch (registry : Nat) (signal : Signal) : Keeps (dispatch registry signal) :=
  (keeps_registryAt registry).bind fun _ =>
    (Keeps.forM fun h _ => h.keeps_run signal).bind fun _ => keeps_pure _

theorem keeps_layoutView (v : Nat) (size : Size) : Keeps (layoutView v size) := by
  refine (keeps_viewAt v).bind fun view => (keeps_modifyView _ _).bind fun _ =>
    (keeps_modifyNode _ fun _ => by rfl).bind fun _ => ?_
  cases view.screen with
  | loading bar => exact (keeps_barSetSize bar _).bind fun _ => keeps_barSetPosition bar _
  | mainMenu button => exact (keeps_buttonSetSize button _).bind fun _ => keeps_buttonSetPosition button _
  | game _ layouts => exact (keeps_dispatch layouts _).bind fun _ => keeps_pure _

end Handlers

end Proscenium
