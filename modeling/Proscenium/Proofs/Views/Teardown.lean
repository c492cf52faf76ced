import Proscenium.Proofs.Views.Transition
import Proscenium.Proofs.Host.Gesture

/-!
# Dropped presenters leave no handlers behind

A card-game presenter keeps the registrations of the handlers it adds in a scoped bundle, and
dropping it deregisters each of them. This module follows such registrations from the drop to
every later state of their registries.

* `World.Minted w rs`: each registration's registry is there and has handed out its token;
  `World.Retracted w rs`: moreover no member is under the token any more.
* The card game's main-menu and game presenters keep their registrations in scoped bundles, all
  handed out (`World.minted_of_bindToMainMenu`, `World.minted_of_bindToGame`).
* Dropping a scoped presenter answers with every registration it held retracted
  (`answers_dropPresenter_retracts`): each removal has taken effect before the drop returns.
  Removal erases the first member under a token, so this needs each registry's tokens to be
  distinct, which they are in every registry built from an empty one (`World.WellFormedAt`,
  `World.RegistriesWellFormed`).
* A presenter is dropped when its view is retired by a transition
  (`answers_transitionTo_retracts`), when it is replaced (`answers_setPresenter_retracts`), and
  from inside its own handler when the start button's click moves to the game
  (`dispatch_retracts_of_startGame`).
* Retracted registrations stay retracted while registries only gain and lose members
  (`World.Retracted.evolve`), which is all that any action does to them (`World.Frame`,
  `World.registriesEvolve_routePointer`): a token is handed out once, so no later member is
  under it, and a dispatch, which calls the members its registry has when it begins, never
  calls the dropped presenter's handlers.
-/

namespace Proscenium

open Act World

/-- The registrations a presenter holds: those of a card-game presenter's bundle. -/
def Presenter.registrations : Presenter → List (Registration Nat)
  | .menu regs => regs.items
  | .game _ regs => regs.items
  | .named _ => []
  | .loader => []

/-- A presenter whose bundle deregisters what it holds when the presenter is dropped. -/
def Presenter.Scoped : Presenter → Prop
  | .menu regs => regs.removeOnDrop = true
  | .game _ regs => regs.removeOnDrop = true
  | .named _ => True
  | .loader => True

/-- Dropping a scoped presenter deregisters its registrations in order, passing over faults. -/
theorem dropPresenter_of_scoped {p : Presenter} (hs : p.Scoped) :
    dropPresenter p = deregisterQuietly p.registrations := by
  cases p with
  | menu regs => exact if_pos hs
  | game t regs => exact if_pos hs
  | named _ => rfl
  | loader => rfl

/-! ## Registrations handed out and taken back -/

section Registrations

variable {w w' : World} {rs : List (Registration Nat)}

/-- Each registration's registry is there and has handed out its token. -/
def World.Minted (w : World) (rs : List (Registration Nat)) : Prop :=
  ∀ r tok, Registration.entry r tok ∈ rs → ∃ reg, w.registries[r]? = some reg ∧ tok < reg.next

/-- Each registration's registry is there, has handed out its token, and has no member under it
any more. -/
def World.Retracted (w : World) (rs : List (Registration Nat)) : Prop :=
  ∀ r tok, Registration.entry r tok ∈ rs →
    ∃ reg, w.registries[r]? = some reg ∧ tok < reg.next ∧ tok ∉ reg.tokens

/-- Every registry's tokens increase from front to back and stay below its counter, as they do
in every registry built by additions and removals from an empty one. -/
def World.RegistriesWellFormed (w : World) : Prop :=
  ∀ (i : Nat) (reg : Registry Handler), w.registries[i]? = some reg → reg.WellFormed

/-- Each registration's registry is there and well formed, so removing its token leaves no
member under it. -/
def World.WellFormedAt (w : World) (rs : List (Registration Nat)) : Prop :=
  ∀ r tok, Registration.entry r tok ∈ rs → ∃ reg, w.registries[r]? = some reg ∧ reg.WellFormed

theorem World.RegistriesWellFormed.wellFormedAt (h : w.RegistriesWellFormed) (hm : w.Minted rs) :
    w.WellFormedAt rs := by
  intro r tok hr
  obtain ⟨reg, hreg, -⟩ := hm r tok hr
  exact ⟨reg, hreg, h r reg hreg⟩

/-- A registry stays well formed while it only gains and loses members. -/
theorem World.WellFormedAt.evolve (h : w.WellFormedAt rs) (he : w.RegistriesEvolve w') :
    w'.WellFormedAt rs := by
  intro r tok hr
  obtain ⟨reg, hreg, hwf⟩ := h r tok hr
  obtain ⟨reg', hreg', hev⟩ := he r reg hreg
  exact ⟨reg', hreg', hev.wellFormed hwf⟩

theorem World.WellFormedAt.mono {rs' : List (Registration Nat)} (h : w.WellFormedAt rs)
    (hs : rs' ⊆ rs) : w.WellFormedAt rs' :=
  fun r tok hr => h r tok (hs hr)

theorem World.Minted.evolve (h : w.Minted rs) (he : w.RegistriesEvolve w') : w'.Minted rs := by
  intro r tok hr
  obtain ⟨reg, hreg, hlt⟩ := h r tok hr
  obtain ⟨reg', hreg', hev⟩ := he r reg hreg
  exact ⟨reg', hreg', Nat.lt_of_lt_of_le hlt hev.next_le⟩

/-- A token handed out and taken back never returns: a registry only gains members under tokens
from its counter, which is past it. -/
theorem World.Retracted.evolve (h : w.Retracted rs) (he : w.RegistriesEvolve w') : w'.Retracted rs := by
  intro r tok hr
  obtain ⟨reg, hreg, hlt, hnot⟩ := h r tok hr
  obtain ⟨reg', hreg', hev⟩ := he r reg hreg
  exact ⟨reg', hreg', Nat.lt_of_lt_of_le hlt hev.next_le, hev.not_mem hlt hnot⟩

/-- Whatever an action leaves, retracted registrations stay retracted in it. -/
theorem World.Retracted.keeps {α : Type} {x : Act α} (h : w.Retracted rs) (hx : Keeps x) :
    (x.after w).Retracted rs :=
  h.evolve (hx w).registries

/-- What holds of each entry of `x` and of each entry of `rs` holds of each entry of `x :: rs`. -/
theorem forall_entry_cons {P : Nat → Nat → Prop} {x : Registration Nat}
    (h₁ : ∀ r tok, Registration.entry r tok ∈ [x] → P r tok)
    (h₂ : ∀ r tok, Registration.entry r tok ∈ rs → P r tok) :
    ∀ r tok, Registration.entry r tok ∈ x :: rs → P r tok := by
  intro r tok hr
  cases List.mem_cons.mp hr with
  | inl he => exact h₁ r tok (he ▸ List.mem_singleton_self _)
  | inr hm => exact h₂ r tok hm

theorem World.Minted.mono {rs' : List (Registration Nat)} (h : w.Minted rs) (hs : rs' ⊆ rs) :
    w.Minted rs' :=
  fun r tok hr => h r tok (hs hr)

theorem World.Minted.cons {r : Registration Nat} (h₁ : w.Minted [r]) (h₂ : w.Minted rs) :
    w.Minted (r :: rs) :=
  forall_entry_cons h₁ h₂

theorem World.Retracted.cons {r : Registration Nat} (h₁ : w.Retracted [r]) (h₂ : w.Retracted rs) :
    w.Retracted (r :: rs) :=
  forall_entry_cons h₁ h₂

/-- Removing one minted registration from its well-formed registry retracts it. -/
theorem answers_deregister_retracts {r : Registration Nat} (hm : w.Minted [r]) (hwf : w.WellFormedAt [r]) :
    (Act.ignoreFaults (deregister r)).Answers w fun _ w' => w'.Retracted [r] ∧ w.RegistriesEvolve w' := by
  cases r with
  | entry registry token =>
    obtain ⟨reg, hreg, hlt⟩ := hm registry token (List.mem_singleton_self _)
    obtain ⟨reg', hreg', hsound⟩ := hwf registry token (List.mem_singleton_self _)
    rw [hreg, Option.some.injEq] at hreg'
    subst hreg'
    refine Answers.ignoreFaults ((Answers.iff_of_apply (modifyRegistry_apply _ _ _)).mpr
      ⟨?_, .modify fun r _ => .remove token (.refl r)⟩)
    intro r tok hr
    obtain ⟨rfl, rfl⟩ : r = registry ∧ tok = token := by simpa using hr
    refine ⟨(reg.remove tok).2, ?_, by rw [Registry.next_remove]; exact hlt,
      hsound.not_mem_tokens_remove tok⟩
    show (w.registries.modify r _)[r]? = _
    rw [List.getElem?_modify_eq, hreg]
    rfl
  | nothing => exact Answers.ignoreFaults (answers_pure.mpr ⟨fun _ _ h => by simp at h, .refl w⟩)
  | failing f => exact (Answers.iff_of_apply rfl).mpr ⟨fun _ _ h => by simp at h, .refl w⟩

/-- Deregistering minted registrations one after another, passing over faults, answers with all of
them retracted. -/
theorem answers_deregisterQuietly_retracts (hm : w.Minted rs) (hwf : w.WellFormedAt rs) :
    (deregisterQuietly rs).Answers w fun _ w' => w'.Retracted rs ∧ w.RegistriesEvolve w' := by
  induction rs generalizing w with
  | nil => exact answers_pure.mpr ⟨fun _ _ h => absurd h List.not_mem_nil, .refl w⟩
  | cons r rs ih =>
    have hhead : [r] ⊆ r :: rs := List.cons_subset.mpr ⟨List.mem_cons_self, List.nil_subset _⟩
    have htail : rs ⊆ r :: rs := List.subset_cons_self _ _
    show (Act.ignoreFaults (deregister r) >>= fun _ => deregisterQuietly rs).Answers w _
    -- the first removal, then the rest, which only evolves the registries further
    refine Answers.bind ((answers_deregister_retracts (hm.mono hhead) (hwf.mono hhead)).mono
      fun _ w₁ h₁ => ?_)
    exact (ih ((hm.mono htail).evolve h₁.2) ((hwf.mono htail).evolve h₁.2)).mono
      fun _ w₂ h₂ => ⟨(h₁.1.evolve h₂.2).cons h₂.1, h₁.2.trans h₂.2⟩

/-- Dropping a scoped presenter answers, and every registration it held is retracted by then. -/
theorem answers_dropPresenter_retracts {p : Presenter} (hs : p.Scoped) (hm : w.Minted p.registrations)
    (hwf : w.WellFormedAt p.registrations) :
    (dropPresenter p).Answers w fun _ w' => w'.Retracted p.registrations ∧ w.RegistriesEvolve w' := by
  rw [dropPresenter_of_scoped hs]
  exact answers_deregisterQuietly_retracts hm hwf

end Registrations

/-! ## The presenters the card game hands out -/

section HandedOut

variable {w w' : World} {registry v : Nat} {hd : Handler} {r : Registration Nat} {p : Presenter}

/-- Adding a handler hands out its registration's token. -/
theorem World.minted_of_addHandler (h : addHandler registry hd w = .ok r w') : w'.Minted [r] := by
  rw [addHandler_apply] at h
  cases hr : w.registries[registry]? with
  | none =>
    rw [hr] at h
    cases h
  | some reg =>
    rw [hr] at h
    cases h
    intro r' tok hm
    obtain ⟨rfl, rfl⟩ : r' = registry ∧ tok = reg.next := by simpa using hm
    refine ⟨(reg.add hd).2, ?_, by rw [Registry.next_add]; exact Nat.lt_succ_self _⟩
    show (w.registries.modify r' _)[r']? = _
    rw [List.getElem?_modify_eq, hr]
    rfl

theorem World.minted_of_buttonAddClick {button : Nat} (h : buttonAddClick button hd w = .ok r w') :
    w'.Minted [r] := by
  obtain ⟨_, w₁, -, h₁⟩ := bind_apply_eq_ok h
  obtain ⟨_, w₂, -, h₂⟩ := bind_apply_eq_ok h₁
  exact minted_of_addHandler h₂

theorem World.minted_of_gameAddLayout (h : gameAddLayout v hd w = .ok r w') : w'.Minted [r] := by
  obtain ⟨⟨_, _⟩, w₁, -, h₁⟩ := bind_apply_eq_ok h
  exact minted_of_addHandler h₁

theorem World.minted_of_gameAddDrag (h : gameAddDrag v hd w = .ok r w') : w'.Minted [r] := by
  obtain ⟨_, w₁, -, h₁⟩ := bind_apply_eq_ok h
  obtain ⟨_, w₂, -, h₂⟩ := bind_apply_eq_ok h₁
  obtain ⟨⟨_, _⟩, w₃, -, h₃⟩ := bind_apply_eq_ok h₂
  obtain ⟨_, w₄, -, h₄⟩ := bind_apply_eq_ok h₃
  exact minted_of_addHandler h₄

/-- Turning faults into aborts changes no answer. -/
theorem faultsAreFatal_eq_ok {α : Type} {wrap : Fault → Fault} {x : Act α} {a : α}
    (h : faultsAreFatal wrap x w = .ok a w') : x w = .ok a w' := by
  unfold faultsAreFatal at h
  cases hx : x w with
  | ok b w₁ =>
    rw [hx] at h
    exact h
  | error e w₁ =>
    rw [hx] at h
    cases e <;> cases h

/-- The recorder's presenters hold no registrations. -/
theorem World.minted_of_recordBinding {kind : ScreenKind} (h : recordBinding kind w = .ok p w') :
    p.Scoped ∧ w'.Minted p.registrations := by
  obtain ⟨_, w₁, -, h₁⟩ := bind_apply_eq_ok h
  cases h₁
  exact ⟨trivial, fun _ _ hm => absurd hm List.not_mem_nil⟩

/-- The game presenter keeps its layout and drag registrations in a scoped bundle; the layout
handler's token stays handed out while the drag handler is added. -/
theorem World.minted_of_startGamePresenter {textures : CardTextures} {hand : List String}
    (h : startGamePresenter v textures hand w = .ok p w') : p.Scoped ∧ w'.Minted p.registrations := by
  obtain ⟨t, w₁, -, h₁⟩ := bind_apply_eq_ok h
  obtain ⟨layout, w₂, hl, h₂⟩ := bind_apply_eq_ok h₁
  obtain ⟨drag, w₃, hd, h₃⟩ := bind_apply_eq_ok h₂
  cases h₃
  have hl' := (minted_of_gameAddLayout hl).evolve ((keeps_gameAddDrag v _).frame_of_ok hd).registries
  exact ⟨rfl, hl'.cons (minted_of_gameAddDrag hd)⟩

/-- The card game's main-menu presenter keeps its start handler's registration in a scoped
bundle. -/
theorem World.minted_of_bindToMainMenu (h : bindToMainMenu v w = .ok p w') :
    p.Scoped ∧ w'.Minted p.registrations := by
  obtain ⟨bd, w₁, -, h₁⟩ := bind_apply_eq_ok h
  cases happ : bd.app with
  | recorder =>
    rw [happ] at h₁
    exact minted_of_recordBinding h₁
  | cardGame =>
    rw [happ] at h₁
    obtain ⟨view, w₂, -, h₂⟩ := bind_apply_eq_ok (faultsAreFatal_eq_ok h₁)
    cases hs : view.screen with
    | mainMenu button =>
      rw [hs] at h₂
      obtain ⟨_, w₃, -, h₃⟩ := bind_apply_eq_ok h₂
      obtain ⟨click, w₄, hc, h₄⟩ := bind_apply_eq_ok h₃
      cases h₄
      exact ⟨rfl, (minted_of_buttonAddClick hc).cons fun _ _ hm => absurd hm List.not_mem_nil⟩
    | loading _ =>
      rw [hs] at h₂
      cases h₂
    | game _ _ =>
      rw [hs] at h₂
      cases h₂

/-- The card game's game presenter keeps its layout and drag registrations in a scoped
bundle. -/
theorem World.minted_of_bindToGame (h : bindToGame v w = .ok p w') :
    p.Scoped ∧ w'.Minted p.registrations := by
  obtain ⟨bd, w₁, -, h₁⟩ := bind_apply_eq_ok h
  cases happ : bd.app with
  | recorder =>
    rw [happ] at h₁
    exact minted_of_recordBinding h₁
  | cardGame =>
    rw [happ] at h₁
    obtain ⟨_, w₂, -, h₂⟩ := bind_apply_eq_ok h₁
    obtain ⟨w₀, w₃, -, h₃⟩ := bind_apply_eq_ok h₂
    cases ht : w₀.appState.textures with
    | none =>
      rw [ht] at h₃
      cases h₃
    | some textures =>
      rw [ht] at h₃
      obtain ⟨p₀, w₄, hp₀, h₄⟩ := bind_apply_eq_ok h₃
      have hm := minted_of_startGamePresenter (faultsAreFatal_eq_ok hp₀)
      -- noting the table changes the application state alone
      cases p₀ with
      | game t regs =>
        obtain ⟨_, w₅, h₅, h₆⟩ := bind_apply_eq_ok h₄
        cases h₅
        cases h₆
        exact hm
      | named _ | loader | menu _ =>
        cases h₄
        exact hm

end HandedOut

/-! ## Where presenters are dropped -/

section Occasions

variable {w : World} {v next : Nat} {view nv : ViewState} {b : Binding} {p : Presenter}

/-- Retiring a view drops the presenter it holds. -/
theorem answers_retire_retracts (hv : w.views[v]? = some view) (hp : view.slot = .held p) (hs : p.Scoped)
    (hm : w.Minted p.registrations) (hwf : w.WellFormedAt p.registrations) :
    (retire v).Answers w fun _ w' => w'.Retracted p.registrations := by
  unfold retire
  refine Answers.bind ((answers_viewAt hv).mpr ?_)
  refine Answers.bind ((Answers.iff_of_apply (modifyView_apply _ _ _)).mpr ?_)
  rw [hp]
  exact (answers_dropPresenter_retracts hs (by exact hm) (by exact hwf)).mono fun _ _ h => h.1

/-- A transition retires `v` and so drops its presenter, before the swap to `next` has run. -/
theorem answers_transitionTo_retracts (hv : w.views[v]? = some view) (hb : view.binding = some b)
    (hp : view.slot = .held p) (hn : w.views[next]? = some nv) (hnb : nv.binding = none)
    (hlive : w.loopDropped = false) (hs : p.Scoped) (hm : w.Minted p.registrations)
    (hwf : w.WellFormedAt p.registrations) :
    (transitionTo v next).Answers w fun _ w' => w'.Retracted p.registrations := by
  have hne : next ≠ v := ne_of_bound_unbound hv hb hn hnb
  unfold Act.Answers
  rw [transitionTo_eq_retire hv hb hn hnb hlive]
  exact answers_retire_retracts (by rw [List.getElem?_modify_ne _ _ hne, hv]) hp hs hm hwf

/-- Handing a view a new presenter drops the one it held. -/
theorem answers_setPresenter_retracts (hv : w.views[v]? = some view) (hp : view.slot = .held p)
    (hs : p.Scoped) (hm : w.Minted p.registrations) (hwf : w.WellFormedAt p.registrations)
    (p' : Presenter) : (setPresenter v p').Answers w fun _ w' => w'.Retracted p.registrations := by
  unfold setPresenter
  refine Answers.bind ((answers_viewAt hv).mpr ?_)
  rw [hp]
  refine Answers.bind ((Answers.iff_of_apply (modifyView_apply _ _ _)).mpr ?_)
  exact (answers_dropPresenter_retracts hs (by exact hm) (by exact hwf)).mono fun _ _ h => h.1

theorem Act.Answers.frame {α : Type} {x : Act α} {Q : α → World → Prop} (hx : Keeps x) (h : x.Answers w Q) :
    x.Answers w fun a w' => Q a w' ∧ w.Frame w' := by
  obtain ⟨a, w', hxw, hq⟩ := h
  exact ⟨a, w', hxw, hq, hx.frame_of_ok hxw⟩

/-- What a sequence leaves is what its second part leaves from where the first answered. -/
theorem Act.Answers.after_bind {α β : Type} {x : Act α} {f : α → Act β} {P : World → Prop}
    (h : x.Answers w fun a w' => P ((f a).after w')) : P ((x >>= f).after w) := by
  obtain ⟨a, w', hx, hp⟩ := h
  unfold Act.after
  rw [bind_apply_ok hx]
  exact hp

/-- Leaving a bound view for a new game drops the view's presenter with the transition, whatever
binding the game view and handing it its presenter do afterwards. -/
theorem toGame_retracts (hv : w.views[v]? = some view) (hb : view.binding = some b) (hp : view.slot = .held p)
    (hlive : w.loopDropped = false) (hs : p.Scoped) (hm : w.Minted p.registrations)
    (hwf : w.WellFormedAt p.registrations) : ((toGame v).after w).Retracted p.registrations := by
  unfold toGame
  refine Answers.after_bind (P := fun w' => w'.Retracted p.registrations) (((answers_addView .game).frame (keeps_addView .game)).mono fun next wa ha => ?_)
  obtain ⟨⟨rfl, hg, node, screen, hviews, -⟩, hframe⟩ := ha
  -- the view is as it was, the new game view is unbound, and the loop is still there
  have hva : wa.views[v]? = some view := by
    rw [hviews, List.getElem?_append_left (List.getElem?_eq_some_iff.mp hv).1, hv]
  have hna : wa.views[w.views.length]? = some ⟨node, screen, none, .vacant, none⟩ := by
    rw [hviews, List.getElem?_concat_length]
  have hlivea : wa.loopDropped = false := by rw [hg.dropped, hlive]
  refine Answers.after_bind (P := fun w' => w'.Retracted p.registrations) ((answers_transitionTo_retracts hva hb hp hna rfl hlivea hs
    (hm.evolve hframe.registries) (hwf.evolve hframe.registries)).mono fun _ wb hwb => ?_)
  exact hwb.keeps ((keeps_bindToGame _).bind fun p' => (keeps_setPresenter _ p').bind fun _ => keeps_pure _)

/-- The start button's click handler leaves the menu for a game, and with it drops the menu's
presenter. -/
theorem startGame_retracts (hv : w.views[v]? = some view) (hb : view.binding = some b)
    (hp : view.slot = .held p) (hlive : w.loopDropped = false) (hs : p.Scoped)
    (hm : w.Minted p.registrations) (hwf : w.WellFormedAt p.registrations) :
    ((startGame v).after w).Retracted p.registrations := by
  have h := toGame_retracts hv hb hp hlive hs hm hwf
  unfold Act.after at h ⊢
  unfold startGame
  cases hx : toGame v w with
  | ok a w₁ =>
    rw [hx] at h
    exact h
  | error e w₁ =>
    rw [hx] at h
    cases e <;> exact h

/-- A dispatch of a registry whose one member is `h` leaves what `h` leaves. -/
theorem dispatch_after_single {registry : Nat} {reg : Registry Handler} {h : Handler}
    (hr : w.registries[registry]? = some reg) (hone : reg.snapshot = [h]) (signal : Signal) :
    (dispatch registry signal).after w = (h.run signal).after w := by
  unfold dispatch Act.after
  rw [bind_apply_ok (by rw [registryAt_apply, hr]), hone]
  have hrun : [h].forM (fun h => h.run signal) = (h.run signal >>= fun _ => pure ⟨⟩) := rfl
  rw [bind_apply, hrun, bind_apply]
  cases h.run signal w <;> rfl

/-- The start button's click: a dispatch of a registry whose one member is the start handler of
the menu view `v` drops the menu's presenter from inside that handler, and its registrations,
the start handler's own among them, are retracted once the dispatch is over. -/
theorem dispatch_retracts_of_startGame {clicks : Nat} {reg : Registry Handler}
    (hv : w.views[v]? = some view) (hb : view.binding = some b) (hp : view.slot = .held p)
    (hlive : w.loopDropped = false) (hs : p.Scoped) (hm : w.Minted p.registrations)
    (hwf : w.WellFormedAt p.registrations) (hr : w.registries[clicks]? = some reg)
    (hone : reg.snapshot = [.startGame v]) :
    ((dispatch clicks .click).after w).Retracted p.registrations := by
  rw [dispatch_after_single hr hone]
  exact startGame_retracts hv hb hp hlive hs hm hwf

end Occasions

/-- Routing a pointer event only adds and removes registry members. -/
theorem World.registriesEvolve_routePointer (raw : RawPointer) (w : World) :
    w.RegistriesEvolve ((routePointer raw).after w) := by
  cases hh : w.pointerHeight with
  | none =>
    unfold Act.after
    rw [routePointer_dropped raw w hh]
    exact .refl w
  | some height => exact (frame_routePointer raw w hh).registries

/-! ## Dropped presenters leave no handlers -/

/-- **Dropped presenters leave no handlers.** The card game's main-menu and game presenters keep
the registrations of their handlers in scoped bundles, each registration's token handed out by
its registry, and stay so while the registries evolve. Dropping such a presenter answers, and by
then no registry has a member under any of its registrations: removal erases the first member
under a token, and in a registry whose tokens increase from front to back, as in every registry
built by additions and removals from an empty one, that member is the only one. That is what
happens when its view is retired by a transition (before the swap has run), when it is replaced,
and when the drop happens inside its own handler, as when the start button's click moves to the
game. From then on the registries only gain and lose members, and a token is never handed out
twice, so no later state of a registry has a member under one of them: a dispatch, which calls
the members its registry has when it begins, never calls one of the presenter's handlers
again. -/
theorem dropped_presenters_leave_no_handlers :
    (∀ (w w' : World) (v : Nat) (p : Presenter), bindToMainMenu v w = .ok p w' →
      p.Scoped ∧ w'.Minted p.registrations) ∧
    (∀ (w w' : World) (v : Nat) (p : Presenter), bindToGame v w = .ok p w' →
      p.Scoped ∧ w'.Minted p.registrations) ∧
    (∀ (w : World) (p : Presenter), p.Scoped → w.Minted p.registrations → w.RegistriesWellFormed →
      (dropPresenter p).Answers w fun _ w' => w'.Retracted p.registrations) ∧
    (∀ (w : World) (v next : Nat) (view nv : ViewState) (b : Binding) (p : Presenter),
      w.views[v]? = some view → view.binding = some b → view.slot = .held p →
      w.views[next]? = some nv → nv.binding = none → w.loopDropped = false →
      p.Scoped → w.Minted p.registrations → w.RegistriesWellFormed →
      (transitionTo v next).Answers w fun _ w' => w'.Retracted p.registrations) ∧
    (∀ (w : World) (v : Nat) (view : ViewState) (p p' : Presenter),
      w.views[v]? = some view → view.slot = .held p → p.Scoped → w.Minted p.registrations →
      w.RegistriesWellFormed →
      (setPresenter v p').Answers w fun _ w' => w'.Retracted p.registrations) ∧
    (∀ (w : World) (menu clicks : Nat) (view : ViewState) (b : Binding) (p : Presenter)
      (reg : Registry Handler),
      w.views[menu]? = some view → view.binding = some b → view.slot = .held p →
      w.loopDropped = false → p.Scoped → w.Minted p.registrations → w.RegistriesWellFormed →
      w.registries[clicks]? = some reg → reg.snapshot = [.startGame menu] →
      ((dispatch clicks .click).after w).Retracted p.registrations) ∧
    (∀ (w w' : World) (rs : List (Registration Nat)), w.RegistriesEvolve w' →
      (w.Minted rs → w'.Minted rs) ∧ (w.Retracted rs → w'.Retracted rs)) ∧
    (∀ w : World, (∀ (i : Nat) (reg : Registry Handler), w.registries[i]? = some reg →
      Registry.empty.Evolves reg) → w.RegistriesWellFormed) := by
  refine ⟨?_, ?_, ?_, ?_, ?_, ?_, ?_, ?_⟩
  · intro w w' v p h
    exact minted_of_bindToMainMenu h
  · intro w w' v p h
    exact minted_of_bindToGame h
  · intro w p hs hm hwf
    exact (answers_dropPresenter_retracts hs hm (hwf.wellFormedAt hm)).mono fun _ _ h => h.1
  · intro w v next view nv b p hv hb hp hn hnb hlive hs hm hwf
    exact answers_transitionTo_retracts hv hb hp hn hnb hlive hs hm (hwf.wellFormedAt hm)
  · intro w v view p p' hv hp hs hm hwf
    exact answers_setPresenter_retracts hv hp hs hm (hwf.wellFormedAt hm) p'
  · intro w menu clicks view b p reg hv hb hp hlive hs hm hwf hr hone
    exact dispatch_retracts_of_startGame hv hb hp hlive hs hm (hwf.wellFormedAt hm) hr hone
  · intro w w' rs he
    exact ⟨fun h => h.evolve he, fun h => h.evolve he⟩
  · intro w hbuilt i reg hreg
    exact (hbuilt i reg hreg).wellFormed Registry.wellFormed_empty

/-- A main menu whose start button has one click handler, its presenter's: clicking it leaves
the handler's registration retracted. -/
theorem dropped_presenters_leave_no_handlers_on_the_start_click :
    let w : World := { World.fresh .topLeft none with
      views := [⟨1, .mainMenu 0, some ⟨.cardGame, 0⟩, .held (.menu ⟨[.entry 0 0], true⟩), none⟩]
      registries := [⟨1, [(0, .startGame 0)]⟩] }
    w.Minted [.entry 0 0] ∧ w.RegistriesWellFormed ∧
      ((dispatch 0 .click).after w).Retracted [.entry 0 0] := by
  intro w
  have hm : w.Minted [.entry 0 0] := by
    intro r tok h
    obtain ⟨rfl, rfl⟩ : r = 0 ∧ tok = 0 := by simpa using h
    exact ⟨_, rfl, by decide⟩
  -- the one registry holds one member, under token 0, below its counter 1
  have hwf : w.RegistriesWellFormed := fun i reg hreg => by
    cases i with
    | zero =>
      cases hreg
      exact ⟨List.pairwise_singleton _ _, fun i hi => by simp_all [Registry.tokens]⟩
    | succ i => simp [w] at hreg
  exact ⟨hm, hwf, dropped_presenters_leave_no_handlers.2.2.2.2.2.1 w 0 0 _ ⟨.cardGame, 0⟩
    (.menu ⟨[.entry 0 0], true⟩) _ rfl rfl rfl rfl rfl hm hwf rfl rfl⟩

end Proscenium
