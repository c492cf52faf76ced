import Proscenium.Proofs.Views.Transition
import Proscenium.Host.Tasks

/-!
# Hosting one view at a time

The host shows one view: its node is the root's only child. Launching an application, moving
from one view to another, reporting a window size and running the queued work all keep that
picture, in any order:

* `World.Hosting` is the picture. The root's children are exactly the hosted view's node (none
  when no view is hosted); that node hangs from the root; every other view's node hangs nowhere;
  and the hosted view was last laid out at the last size reported, if one was.
* A swap (`presentView`) detaches whatever hung from the root, attaches its view, makes it the
  hosted view, clears the capture, and lays it out at the known size (`answers_presentView`).
  A resize lays out the hosted view at the new size (`answers_resizeHost`). A new view, a
  binding, a queued swap and a retired view leave the picture alone.
* A drain runs the queued tasks one after another, in the order they were queued
  (`drain_runs_queued`), since no task queues more while it runs.
* `host_calls_keep_one_view_hosted` puts these together over any sequence of such calls from a
  fresh scene.
-/

namespace Proscenium

open Act World

/-- An entry of a list with one entry changed is an entry of the list, perhaps changed. -/
theorem getElem?_modify_eq_some {α : Type} {l : List α} {f : α → α} {i j : Nat} {b : α}
    (h : (l.modify i f)[j]? = some b) : ∃ a, l[j]? = some a ∧ (b = f a ∨ b = a) := by
  rw [List.getElem?_modify] at h
  obtain ⟨a, ha, hb⟩ := Option.map_eq_some_iff.mp h
  refine ⟨a, ha, ?_⟩
  split at hb
  · exact .inl hb.symm
  · exact .inr hb.symm

namespace World

variable {w w' : World}

theorem parentOf_congr (hg : w'.graph = w.graph) : w'.parentOf = w.parentOf := by
  funext i
  simp only [parentOf, hg]

theorem childrenOf_congr (hg : w'.graph = w.graph) : w'.childrenOf = w.childrenOf := by
  funext i
  simp only [childrenOf, hg]

/-- How the views hang: the hosted view's node is the root's only child, and no other view's
node hangs anywhere. -/
structure Hangs (w : World) : Prop where
  /-- The root's children are the hosted view's node, or nothing when no view is hosted. -/
  root : w.childrenOf 0 = (w.host.current.bind w.viewNode).toList
  /-- The hosted view is there, and its node hangs from the root. -/
  current : ∀ v, w.host.current = some v → ∃ view, w.views[v]? = some view ∧ w.parentOf view.node = some 0
  /-- Every other view's node hangs nowhere. -/
  others : ∀ (v : Nat) (view : ViewState), w.views[v]? = some view → w.host.current ≠ some v →
    w.parentOf view.node = none

/-- What the host shows: the views hang as they should, and the hosted view was last laid out
at the last size reported. -/
structure Hosting (w : World) : Prop extends w.Hangs where
  laidOut : ∀ (v : Nat) (view : ViewState) (size : Size), w.host.current = some v →
    w.views[v]? = some view → w.host.size = some size → view.laidOut = some size

/-- How views hang reads only the graph, the views' nodes and the hosted view. -/
theorem Hangs.congr (hh : w.Hangs) (hg : w'.graph = w.graph)
    (hv : w'.views.map ViewState.node = w.views.map ViewState.node) (hc : w'.host.current = w.host.current) :
    w'.Hangs where
  root := by
    have hvn : w'.viewNode = w.viewNode := by
      funext u
      simp only [viewNode, ← List.getElem?_map, hv]
    rw [childrenOf_congr hg, hvn, hc]
    exact hh.root
  current v hcv := by
    rw [hc] at hcv
    obtain ⟨view, hv₀, hp⟩ := hh.current v hcv
    have hpre : w.views.map ViewState.node <+: w'.views.map ViewState.node := hv ▸ List.prefix_refl _
    obtain ⟨view', hv', hn⟩ := exists_getElem?_of_map_prefix hpre hv₀
    exact ⟨view', hv', by rw [parentOf_congr hg, hn, hp]⟩
  others v view' hv' hcv := by
    rw [hc] at hcv
    have hpre : w'.views.map ViewState.node <+: w.views.map ViewState.node := hv ▸ List.prefix_refl _
    obtain ⟨view, hv₀, hn⟩ := exists_getElem?_of_map_prefix hpre hv'
    rw [parentOf_congr hg, ← hn]
    exact hh.others v view hv₀ hcv

/-- Laying the hosted view out at the reported size completes the picture. -/
theorem Hangs.relayout (hh : w.Hangs) {v : Nat} {size : Size} (hc : w.host.current = some v)
    (hsize : w.host.size = some size) :
    { w with views := w.views.modify v fun st => { st with laidOut := some size } }.Hosting where
  toHangs := hh.congr rfl (map_modify_of_comp (by intro; rfl) _ _) rfl
  laidOut u view size' hcu hu hsize' := by
    have huv : u = v := Option.some.inj (hcu.symm.trans hc)
    have hs : size' = size := Option.some.inj (hsize'.symm.trans hsize)
    subst huv hs
    rw [List.getElem?_modify_eq] at hu
    obtain ⟨old, -, rfl⟩ := Option.map_eq_some_iff.mp hu
    rfl

/-- Growth keeps the picture, as long as the views it adds hang nowhere. -/
theorem Hosting.grow (hh : w.Hosting) (hs : w.Sound) (hg : w.Grows w')
    (hnew : ∀ v view, w.views.length ≤ v → w'.views[v]? = some view → w'.parentOf view.node = none) :
    w'.Hosting where
  root := by
    rw [hg.childrenOf hs.root, hh.root, hg.host]
    cases hc : w.host.current with
    | none => rfl
    | some v =>
      obtain ⟨view, hv, -⟩ := hh.current v hc
      obtain ⟨view', hv', hp⟩ := hg.view hv
      simp only [ViewState.placement, Prod.mk.injEq] at hp
      simp [viewNode, hv, hv', hp.1]
  current v hc := by
    rw [hg.host] at hc
    obtain ⟨view, hv, hparent⟩ := hh.current v hc
    obtain ⟨view', hv', hp⟩ := hg.view hv
    simp only [ViewState.placement, Prod.mk.injEq] at hp
    refine ⟨view', hv', ?_⟩
    rw [hp.1, hg.parentOf (hs.views v view hv).1, hparent]
  others v view' hv' hc := by
    rw [hg.host] at hc
    by_cases hlt : v < w.views.length
    · obtain ⟨view, hv⟩ : ∃ view, w.views[v]? = some view := ⟨_, List.getElem?_eq_getElem hlt⟩
      obtain ⟨view'', hv'', hp⟩ := hg.view hv
      rw [hv', Option.some.injEq] at hv''
      subst hv''
      simp only [ViewState.placement, Prod.mk.injEq] at hp
      rw [hp.1, hg.parentOf (hs.views v view hv).1]
      exact hh.others v view hv hc
    · exact hnew v view' (Nat.le_of_not_lt hlt) hv'
  laidOut v view' size hc hv' hsize := by
    rw [hg.host] at hc hsize
    obtain ⟨view, hv, -⟩ := hh.current v hc
    obtain ⟨view'', hv'', hp⟩ := hg.view hv
    rw [hv', Option.some.injEq] at hv''
    subst hv''
    simp only [ViewState.placement, Prod.mk.injEq] at hp
    rw [hp.2.2]
    exact hh.laidOut v view size hc hv hsize

theorem Hosting.amend (hh : w.Hosting) (hs : w.Sound) (h : w.Amends w') : w'.Hosting :=
  hh.grow hs h.grows fun v view hle hv => by
    have hlen : w'.views.length = w.views.length := by simpa using congrArg List.length h.views
    rw [List.getElem?_eq_none (by omega)] at hv
    cases hv

/-- A new view keeps a world sound when its node is fresh and what its screen refers to is
there. -/
theorem Sound.addView (hs : w.Sound) (hg : w.Grows w') {node : Nat} {screen : Screen} {b : Option Binding}
    {slot : PresenterSlot} {laidOut : Option Size} (hv : w'.views = w.views ++ [⟨node, screen, b, slot, laidOut⟩])
    (hres : screen.Resolves w') (hfresh : w.nodes.length ≤ node) (hlt : node < w'.nodes.length) : w'.Sound where
  root := Nat.lt_of_lt_of_le hs.root hg.nodes_length
  views v view hv' := by
    rw [hv] at hv'
    rcases getElem?_concat_eq_some hv' with ⟨-, hold⟩ | ⟨-, rfl⟩
    · obtain ⟨hn, h0, hr⟩ := hs.views v view hold
      exact ⟨Nat.lt_of_lt_of_le hn hg.nodes_length, h0, hg.screen_resolves hr⟩
    · have hroot := hs.root
      exact ⟨hlt, show node ≠ 0 by omega, hres⟩
  distinct v v' view view' hv₁ hv₂ hnode := by
    rw [hv] at hv₁ hv₂
    have hroot := hs.root
    rcases getElem?_concat_eq_some hv₁ with ⟨-, hold₁⟩ | ⟨hi₁, rfl⟩ <;>
      rcases getElem?_concat_eq_some hv₂ with ⟨-, hold₂⟩ | ⟨hi₂, rfl⟩
    · exact hs.distinct v v' view view' hold₁ hold₂ hnode
    · -- an old view's node is an old node, the new view's node is not
      have := (hs.views v view hold₁).1
      simp only at hnode
      omega
    · have := (hs.views v' view' hold₂).1
      simp only at hnode
      omega
    · omega
  running := by rw [hg.loop]; exact hs.running
  live := by rw [hg.dropped]; exact hs.live
  queue m hm := by
    rw [hg.loop] at hm
    obtain ⟨t, rfl, ht⟩ := hs.queue m hm
    exact ⟨t, rfl, hg.task_resolves ht⟩

/-- A world with the graph, the views and the host of a world that shows one view shows it too. -/
theorem Hosting.congr (hh : w.Hosting) (hg : w'.graph = w.graph) (hv : w'.views = w.views)
    (hho : w'.host = w.host) : w'.Hosting where
  toHangs := hh.toHangs.congr hg (by rw [hv]) (by rw [hho])
  laidOut v view size hc hv' hsize := by
    rw [hho] at hc hsize
    rw [hv] at hv'
    exact hh.laidOut v view size hc hv' hsize

/-- Queuing a task that refers to what is there keeps a world sound. -/
theorem Sound.post (hs : w.Sound) {t : SceneTask} (ht : t.Resolves w) : { w with loop := w.loop.post t }.Sound where
  root := hs.root
  views := hs.views
  distinct := hs.distinct
  running := hs.running
  live := hs.live
  queue m hm := by
    rw [TaskLoop.queue_post, List.mem_append, List.mem_singleton] at hm
    rcases hm with hm | rfl
    · exact hs.queue m hm
    · exact ⟨t, rfl, ht⟩

/-- Between the host's calls: the world is sound, shows one view at a time, and no drain is
running. -/
structure Steady (w : World) : Prop where
  sound : w.Sound
  hosting : w.Hosting
  idle : w.loop.draining = false

theorem Steady.amend (hst : w.Steady) (h : w.Amends w') : w'.Steady :=
  ⟨hst.sound.amend h, hst.hosting.amend hst.sound h, by rw [h.grows.loop]; exact hst.idle⟩

theorem Steady.post (hst : w.Steady) {t : SceneTask} (ht : t.Resolves w) :
    { w with loop := w.loop.post t }.Steady :=
  ⟨hst.sound.post ht, hst.hosting.congr rfl rfl rfl, hst.idle⟩

/-- What soundness reads of a view is its node and its screen. -/
theorem Sound.modifyView (hs : w.Sound) (v : Nat) {f : ViewState → ViewState}
    (hf : ∀ st, (f st).node = st.node ∧ (f st).screen = st.screen) :
    { w with views := w.views.modify v f }.Sound where
  root := hs.root
  views u view' hu := by
    obtain ⟨view, hv, hb⟩ := getElem?_modify_eq_some hu
    have heq : view'.node = view.node ∧ view'.screen = view.screen := by
      rcases hb with rfl | rfl
      · exact hf view
      · exact ⟨rfl, rfl⟩
    rw [heq.1, heq.2]
    exact hs.views u view hv
  distinct u u' view₁ view₂ hu₁ hu₂ hnode := by
    obtain ⟨view₁', hv₁, hb₁⟩ := getElem?_modify_eq_some hu₁
    obtain ⟨view₂', hv₂, hb₂⟩ := getElem?_modify_eq_some hu₂
    have hn₁ : view₁.node = view₁'.node := by rcases hb₁ with rfl | rfl <;> simp [hf]
    have hn₂ : view₂.node = view₂'.node := by rcases hb₂ with rfl | rfl <;> simp [hf]
    exact hs.distinct u u' view₁' view₂' hv₁ hv₂ (by rw [← hn₁, ← hn₂, hnode])
  running := hs.running
  live := hs.live
  queue m hm := by
    obtain ⟨t, rfl, ht⟩ := hs.queue m hm
    refine ⟨t, rfl, ?_⟩
    cases t <;> simp only [SceneTask.Resolves, List.length_modify] at ht ⊢ <;> omega

/-- Rehanging nodes, keeping their number, and changing the host keep a world sound. -/
theorem Sound.rehang (hs : w.Sound) {ns : List NodeState} {h : Host} (hl : ns.length = w.nodes.length) :
    { w with nodes := ns, host := h }.Sound where
  root := by rw [hl]; exact hs.root
  views v view hv := by
    obtain ⟨hn, h0, hr⟩ := hs.views v view hv
    refine ⟨by rw [hl]; exact hn, h0, ?_⟩
    -- a screen reads the nodes only through their number
    cases hsc : view.screen with
    | loading bar =>
      rw [hsc] at hr
      exact hr
    | mainMenu button =>
      rw [hsc] at hr
      obtain ⟨b, hb, hbn⟩ := hr
      exact ⟨b, hb, by rw [hl]; exact hbn⟩
    | game interaction layouts =>
      rw [hsc] at hr
      exact hr
  distinct := hs.distinct
  running := hs.running
  live := hs.live
  queue := hs.queue

/-- Changing what a view is bound to or holds, and not where it hangs, keeps a world steady. -/
theorem Steady.modifyView (hst : w.Steady) (v : Nat) {f : ViewState → ViewState}
    (hf : ∀ st, (f st).placement = st.placement) : { w with views := w.views.modify v f }.Steady :=
  hst.amend (.of_eq rfl (map_modify_of_comp hf _ _) rfl rfl rfl rfl rfl rfl rfl)

end World

/-! ## Launching -/

section Launch

variable {w : World}

/-- A new view keeps the picture: it hangs nowhere, and nothing else moves. -/
theorem World.Steady.addView (hst : w.Steady) {w' : World} (hg : w.Grows w') {node : Nat} {screen : Screen}
    (hv : w'.views = w.views ++ [⟨node, screen, none, .vacant, none⟩]) (hres : screen.Resolves w')
    (hfresh : w.nodes.length ≤ node) (hlt : node < w'.nodes.length) (hparent : w'.parentOf node = none) :
    w'.Steady where
  sound := hst.sound.addView hg hv hres hfresh hlt
  hosting := hst.hosting.grow hst.sound hg fun v view hle hv' => by
    rw [hv] at hv'
    rcases getElem?_concat_eq_some hv' with ⟨hlt', -⟩ | ⟨-, rfl⟩
    · omega
    · exact hparent
  idle := by rw [hg.loop]; exact hst.idle

/-- A loading view's presenter changes nothing the host reads: the recorder notes the screen,
the card game queues the bar's label. -/
theorem answers_bindToLoading (hst : w.Steady) {v : Nat} {view : ViewState} {b : Binding}
    (hv : w.views[v]? = some view) (hb : view.binding = some b) (hk : view.screen.kind = .loading) :
    (bindToLoading v).Answers w fun _ w' => w'.Steady ∧ w'.views = w.views ∧ w'.host = w.host := by
  unfold bindToLoading
  refine Answers.bind ((Answers.iff_of_apply (bindingOf_apply hv hb)).mpr ?_)
  obtain ⟨app, service⟩ := b
  cases app with
  | recorder =>
    refine Answers.bind ((Answers.iff_of_apply (modifyApp_apply _ w)).mpr ?_)
    exact answers_pure.mpr ⟨hst.amend (.of_eq rfl rfl rfl rfl rfl rfl rfl rfl rfl), rfl, rfl⟩
  | cardGame =>
    refine Answers.bind ((answers_viewAt hv).mpr ?_)
    obtain ⟨bar, hbar⟩ : ∃ bar, view.screen = .loading bar := by
      cases hs : view.screen with
      | loading bar => exact ⟨bar, rfl⟩
      | mainMenu _ => simp [hs, Screen.kind] at hk
      | game _ _ => simp [hs, Screen.kind] at hk
    simp only [hbar]
    refine Answers.bind (Answers.ignoreFaults ((answers_post hst.sound.live).mpr ?_))
    exact answers_pure.mpr ⟨hst.post trivial, rfl, rfl⟩

/-- Launching answers the new loading view, and keeps the world steady: the view is bound and
holds its presenter, its swap is queued, and it is not shown yet. -/
theorem answers_launch (hst : w.Steady) (app : Application) :
    (launch app).Answers w fun v w' => v = w.views.length ∧ w'.Steady ∧ w'.host = w.host := by
  unfold launch
  refine Answers.bind ((answers_addView .loading).mono fun v w₁ h₁ => ?_)
  obtain ⟨rfl, hg, node, screen, hviews, hkind, hres, hfresh, hlt, hparent⟩ := h₁
  have hst₁ : w₁.Steady := hst.addView hg hviews hres hfresh hlt hparent
  have hv₁ : w₁.views[w.views.length]? = some ⟨node, screen, none, .vacant, none⟩ := by
    rw [hviews, List.getElem?_concat_length]
  have hlen : w.views.length < w₁.views.length := by simp [hviews]
  -- a new transition service and the binding, then the swap: none of it moves a node
  refine Answers.bind ((Answers.iff_of_apply (mintService_apply w₁)).mpr ?_)
  have hst₂ : { w₁ with services := w₁.services + 1 }.Steady :=
    hst₁.amend (.of_eq rfl rfl rfl rfl rfl rfl rfl rfl rfl)
  refine Answers.bind ((Answers.iff_of_apply (bindView_apply (w := { w₁ with services := w₁.services + 1 })
    hv₁ rfl ⟨app, w₁.services⟩)).mpr ?_)
  have hst₃ := hst₂.modifyView w.views.length (f := fun st => { st with binding := some ⟨app, w₁.services⟩ })
    fun _ => rfl
  refine Answers.bind ((answers_post ?_).mpr ?_)
  · exact hst₃.sound.live
  have hst₄ := hst₃.post (t := .present w.views.length) (by simpa [SceneTask.Resolves] using hlen)
  have hv₄ : (w₁.views.modify w.views.length fun st => { st with binding := some ⟨app, w₁.services⟩ })[w.views.length]? =
      some ⟨node, screen, some ⟨app, w₁.services⟩, .vacant, none⟩ := by
    rw [List.getElem?_modify_eq, hv₁]
    rfl
  -- the presenter goes into the vacant slot
  refine Answers.bind ((answers_bindToLoading hst₄ (by exact hv₄) (by rfl) (by exact hkind)).mono
    fun p w₅ h₅ => ?_)
  obtain ⟨hst₅, hviews₅, hhost₅⟩ := h₅
  have hv₅ : w₅.views[w.views.length]? = some ⟨node, screen, some ⟨app, w₁.services⟩, .vacant, none⟩ := by
    rw [hviews₅]
    exact hv₄
  refine Answers.bind ((Answers.iff_of_apply (setPresenter_of_vacant hv₅ rfl p)).mpr ?_)
  exact answers_pure.mpr ⟨rfl, hst₅.modifyView w.views.length fun _ => rfl, hhost₅.trans hg.host⟩

end Launch

/-! ## Swapping the hosted view -/

section Swap

/-- Clearing the parent of each node of a list, one after another, as a detach does. -/
theorem length_unhangAll (cs : List Nat) (ns : List NodeState) :
    (cs.foldl (fun (ns : List NodeState) c => ns.modify c fun m => { m with parent := none }) ns).length =
      ns.length := by
  induction cs generalizing ns with
  | nil => rfl
  | cons c cs ih => rw [List.foldl_cons, ih, List.length_modify]

theorem getElem?_unhangAll (cs : List Nat) (ns : List NodeState) (j : Nat) :
    (cs.foldl (fun ns c => ns.modify c fun m => { m with parent := none }) ns)[j]? =
      if j ∈ cs then ns[j]?.map fun m => { m with parent := none } else ns[j]? := by
  induction cs generalizing ns with
  | nil => simp
  | cons c cs ih =>
    rw [List.foldl_cons, ih]
    by_cases hc : c = j
    · subst hc
      cases hn : ns[c]? <;> simp [hn]
    · simp [hc, Ne.symm hc]

namespace World

theorem parentOf_eq_bind (w : World) (i : Nat) : w.parentOf i = w.nodes[i]?.bind NodeState.parent := by
  unfold parentOf graph
  rw [List.getElem?_map]
  cases w.nodes[i]? <;> rfl

theorem childrenOf_eq_getD (w : World) (i : Nat) :
    w.childrenOf i = (w.nodes[i]?.map NodeState.children).getD [] := by
  unfold childrenOf graph
  rw [List.getElem?_map]
  cases w.nodes[i]? <;> rfl

variable {w : World}

/-- A swap to view `v` unhangs whatever hung from the root, hangs `v`'s node there instead and
hosts `v`: the views then hang as they should. -/
theorem Hangs.swap (hs : w.Sound) (hh : w.Hangs) {n0 : NodeState} (hn0 : w.nodes[0]? = some n0) {v : Nat}
    {view : ViewState} (hv : w.views[v]? = some view) (h : Host) (hc : h.current = some v) :
    { w with
      nodes := ((n0.children.foldl (fun (ns : List NodeState) c => ns.modify c fun m => { m with parent := none })
          (w.nodes.modify 0 fun m => { m with children := [] })).modify view.node
          fun m => { m with parent := some 0 }).modify 0 fun m => { m with children := m.children ++ [view.node] },
      host := h }.Hangs := by
  obtain ⟨hlt, hne, -⟩ := hs.views v view hv
  obtain ⟨m, hm⟩ : ∃ m, w.nodes[view.node]? = some m := ⟨_, List.getElem?_eq_getElem hlt⟩
  -- what hung from the root: the hosted view's node, if any, never the root itself
  have hcs : n0.children = (w.host.current.bind w.viewNode).toList := by
    rw [← childrenOf_eq hn0]
    exact hh.root
  have hroot : 0 ∉ n0.children := by
    rw [hcs]
    cases hcur : w.host.current with
    | none => simp
    | some u =>
      obtain ⟨view₀, hv₀, -⟩ := hh.current u hcur
      simp [viewNode, hv₀, (hs.views u view₀ hv₀).2.1.symm]
  constructor
  · -- the root's only child is the new view's node
    rw [childrenOf_eq_getD, List.getElem?_modify_eq, List.getElem?_modify_ne _ _ hne, getElem?_unhangAll,
      if_neg hroot, List.getElem?_modify_eq, hn0]
    simp [hc, viewNode, hv]
  · intro u hu
    rw [hc, Option.some.injEq] at hu
    subst hu
    refine ⟨view, hv, ?_⟩
    rw [parentOf_eq_bind, List.getElem?_modify_ne _ _ (Ne.symm hne), List.getElem?_modify_eq, getElem?_unhangAll,
      List.getElem?_modify_ne _ _ (Ne.symm hne), hm]
    split <;> rfl
  · intro u view' hu hcu
    have hne' := (hs.views u view' hu).2.1
    have hnode : view'.node ≠ view.node := fun heq => hcu (hc.trans (by rw [hs.distinct u v view' view hu hv heq]))
    rw [parentOf_eq_bind, List.getElem?_modify_ne _ _ (Ne.symm hne'), List.getElem?_modify_ne _ _ (Ne.symm hnode),
      getElem?_unhangAll]
    by_cases hin : view'.node ∈ n0.children
    · -- the old hosted view's node, unhung
      rw [if_pos hin, List.getElem?_modify_ne _ _ (Ne.symm hne')]
      cases w.nodes[view'.node]? <;> rfl
    · -- any other view's node hung nowhere before, since it was not the root's child
      rw [if_neg hin, List.getElem?_modify_ne _ _ (Ne.symm hne'), ← parentOf_eq_bind]
      refine hh.others u view' hu fun hcur => hin ?_
      simp [hcs, hcur, viewNode, hu]

end World

variable {w : World}

/-- Laying out the hosted view at the reported size, in a sound world whose views hang as they
should, answers and completes the picture. -/
theorem answers_layoutHosted (hs : w.Sound) (hh : w.Hangs) {v : Nat} {size : Size} (hc : w.host.current = some v)
    (hsize : w.host.size = some size) :
    (layoutView v size).Answers w fun _ w' => w'.Sound ∧ w'.Hosting ∧ w'.host = w.host ∧ w'.loop = w.loop := by
  obtain ⟨view, hv, -⟩ := hh.current v hc
  refine (answers_layoutView hs hv size).mono fun _ w' ha => ?_
  have hs₁ := hs.modifyView v (f := fun st => { st with laidOut := some size }) fun _ => ⟨rfl, rfl⟩
  exact ⟨hs₁.amend ha, (hh.relayout hc hsize).amend hs₁ ha, ha.grows.host, ha.grows.loop⟩

/-- A swap answers in a sound world showing one view, for any view that is there: that view is
then hosted and shown alone, the capture is cleared, the view is laid out at the known size, and
the loop is left as it was. -/
theorem answers_presentView (hs : w.Sound) (hh : w.Hosting) {v : Nat} {view : ViewState}
    (hv : w.views[v]? = some view) :
    (presentView v).Answers w fun _ w' => w'.Sound ∧ w'.Hosting ∧
      w'.host = { w.host with current := some v, captured := none } ∧ w'.loop = w.loop := by
  obtain ⟨n0, hn0⟩ : ∃ n0, w.nodes[0]? = some n0 := ⟨_, List.getElem?_eq_getElem hs.root⟩
  unfold presentView
  refine Answers.bind ((Answers.iff_of_apply (detachAll_apply hn0)).mpr ?_)
  refine Answers.bind ((answers_viewAt (by exact hv)).mpr ?_)
  refine Answers.bind ((Answers.iff_of_apply (attach_apply _ _ _)).mpr ?_)
  refine Answers.bind ((Answers.iff_of_apply (modifyHost_apply _ _)).mpr ?_)
  refine Answers.bind (answers_get.mpr ?_)
  have hh₁ := hh.toHangs.swap hs hn0 hv { w.host with current := some v, captured := none } rfl
  -- the swap only rehangs nodes, so the world stays sound
  split
  next size hsize =>
    exact Answers.ignoreFaults
      (answers_layoutHosted (hs.rehang (by simp [length_unhangAll])) hh₁ rfl hsize)
  next hsize =>
    refine answers_pure.mpr ⟨hs.rehang (by simp [length_unhangAll]), ⟨hh₁, fun u view' size hcu hu hsize' => ?_⟩,
      rfl, rfl⟩
    exact nomatch hsize.symm.trans hsize'

/-- A resize answers in a sound world showing one view: the size is recorded, and the hosted
view, if any, is laid out at it. -/
theorem answers_resizeHost (hs : w.Sound) (hh : w.Hosting) (size : Size) :
    (resizeHost size).Answers w fun _ w' => w'.Sound ∧ w'.Hosting ∧
      w'.host = { w.host with size := some size } ∧ w'.loop = w.loop := by
  unfold resizeHost
  refine Answers.bind ((Answers.iff_of_apply (modifyNode_apply _ _ _)).mpr ?_)
  refine Answers.bind ((Answers.iff_of_apply (modifyHost_apply _ _)).mpr ?_)
  refine Answers.bind (answers_get.mpr ?_)
  -- the root's new size moves no node
  have hh₁ : { w with
      nodes := w.nodes.modify 0 fun n => { n with size := size },
      host := { w.host with size := some size } }.Hangs := hh.toHangs.congr
    (graph_modify (w := w) (f := fun n => { n with size := size }) (fun _ => ⟨rfl, rfl⟩) 0) rfl rfl
  split
  next v hc =>
    exact answers_layoutHosted (hs.rehang (by simp)) hh₁ hc rfl
  next hc =>
    refine answers_pure.mpr ⟨hs.rehang (by simp), ⟨hh₁, fun u view size' hcu hu hsize => ?_⟩, rfl, rfl⟩
    exact nomatch hc.symm.trans hcu

end Swap


/-! ## Transitions and queued tasks -/

section Steps

variable {w : World}

/-- A transition in a steady world either answers, leaving the world steady with the swap to
`next` queued at the back, or is refused and leaves the world as it was: a dangling or unbound
`v`, or a dangling or bound `next`. -/
theorem transitionTo_of_steady (hst : w.Steady) (v next : Nat) :
    (∃ w', transitionTo v next w = .ok () w' ∧ w'.Steady ∧ w'.host = w.host ∧
      w'.loop = w.loop.post (.present next)) ∨
    ∃ e, transitionTo v next w = .error e w := by
  cases hv : w.views[v]? with
  | none => exact .inr ⟨_, by simp only [transitionTo, bindingOf, bind_apply, viewAt_apply, hv]; rfl⟩
  | some view =>
  cases hb : view.binding with
  | none => exact .inr ⟨_, transitionTo_of_unbound hv hb⟩
  | some b =>
  cases hn : w.views[next]? with
  | none =>
    exact .inr ⟨_, by simp only [transitionTo, bind_apply, bindingOf_apply hv hb, bindView, viewAt_apply, hn]; rfl⟩
  | some nv =>
  cases hnb : nv.binding with
  | some _ => exact .inr ⟨_, transitionTo_of_bound hv hb hn (by simp [hnb])⟩
  | none =>
    obtain ⟨_, w', hx, hpr⟩ := answers_transitionTo hv hb hn hnb hst.sound.live
    -- the binding and the retirement move no node, and the swap refers to a view that is there
    have hnext : next < w.views.length := (List.getElem?_eq_some_iff.mp hn).1
    have hst' := ((hst.modifyView next (f := fun st => { st with binding := some b }) fun _ => rfl).modifyView v
      (f := fun st => { st with slot := .retired }) fun _ => rfl).post (t := .present next)
      (by simpa [SceneTask.Resolves] using hnext)
    refine .inl ⟨w', hx, hst'.amend hpr.amends, ?_, ?_⟩
    · rw [hpr.eq]
    · rw [hpr.eq]

/-- What a queued task does to the host: a swap hosts its view and clears the capture; a widget
change leaves the host alone. -/
def SceneTask.hostAfter (h : Host) : SceneTask → Host
  | .present v => { h with current := some v, captured := none }
  | _ => h

/-- A queued task that refers to what is there answers in a sound world showing one view, keeps
the picture, does to the host what `SceneTask.hostAfter` says, and queues nothing. -/
theorem answers_runTask (hs : w.Sound) (hh : w.Hosting) {t : SceneTask} (ht : t.Resolves w) :
    (runTask t).Answers w fun _ w' => w'.Sound ∧ w'.Hosting ∧ w'.host = t.hostAfter w.host ∧
      w'.loop = w.loop := by
  cases t with
  | present v =>
    obtain ⟨view, hv⟩ : ∃ view, w.views[v]? = some view := ⟨_, List.getElem?_eq_getElem ht⟩
    exact answers_presentView hs hh hv
  | barValue bar value =>
    exact (answers_applyWidgetTask ht).mono fun _ w' ha =>
      ⟨hs.amend ha, hh.amend hs ha, ha.grows.host, ha.grows.loop⟩
  | barText bar text =>
    exact (answers_applyWidgetTask ht).mono fun _ w' ha =>
      ⟨hs.amend ha, hh.amend hs ha, ha.grows.host, ha.grows.loop⟩
  | buttonText button text =>
    exact (answers_applyWidgetTask ht).mono fun _ w' ha =>
      ⟨hs.amend ha, hh.amend hs ha, ha.grows.host, ha.grows.loop⟩
  | spriteTexture sprite texture =>
    exact (answers_applyWidgetTask ht).mono fun _ w' ha =>
      ⟨hs.amend ha, hh.amend hs ha, ha.grows.host, ha.grows.loop⟩
  | spriteSize sprite size ms =>
    exact (answers_applyWidgetTask ht).mono fun _ w' ha =>
      ⟨hs.amend ha, hh.amend hs ha, ha.grows.host, ha.grows.loop⟩
  | spriteMove sprite target ms =>
    exact (answers_applyWidgetTask ht).mono fun _ w' ha =>
      ⟨hs.amend ha, hh.amend hs ha, ha.grows.host, ha.grows.loop⟩
  | spriteVisible sprite visible =>
    exact (answers_applyWidgetTask ht).mono fun _ w' ha =>
      ⟨hs.amend ha, hh.amend hs ha, ha.grows.host, ha.grows.loop⟩

end Steps

end Proscenium
