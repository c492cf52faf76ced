import Proscenium.Proofs.CardGame.Play

/-!
# Dealing a table

Dealing a hand on a game view makes, face by face, the card's back sprite and then its symbol
sprite, each on a node of its own, and queues their textures. So the `i`-th card dealt is sprites
`m + 2i` and `m + 2i + 1`, for the `m` sprites there before, and they stand on the next two nodes
made (`dealtCards`, `dealBoard_deals`).

What dealing changes is said once, by `World.Deals`: nodes, interactions, registries and sprites
are added, each new sprite on the next new node, and texture changes for the new sprites are
queued; the rest of the world stays as it was. Making a sprite deals one sprite
(`createSprite_deals`), queuing a texture none, and dealings compose (`World.Deals.trans`).
-/

namespace Proscenium

open Act

/-- The cards dealing `faces` makes, their sprites numbered from `first` on, two to a card: the
back, then the symbol. Each card is at the zero place, with its symbol's aspect ratio. -/
def dealtCards (textures : CardTextures) : Nat → List String → List Card
  | _, [] => []
  | first, face :: faces =>
    ⟨face, first, first + 1, ((textures.symbol? face).map Texture.aspectRatio).getD 0, ⟨0, 0, 0, 0⟩⟩ ::
      dealtCards textures (first + 2) faces

/-- The table dealing `faces` makes, its sprites numbered from `first` on: the cards in the
order of the faces, of the card texture's aspect ratio, and nothing grabbed. -/
def Board.dealt (textures : CardTextures) (first : Nat) (faces : List String) : Board :=
  ⟨dealtCards textures first faces, textures.card.aspectRatio, none⟩

/-- The dealt cards' sprites are the next `2n` sprites, in order. -/
theorem sprites_dealtCards (textures : CardTextures) : ∀ (first : Nat) (faces : List String),
    (dealtCards textures first faces).flatMap Card.sprites = List.range' first (2 * faces.length)
  | _, [] => rfl
  | first, face :: faces => by
    rw [dealtCards, List.flatMap_cons, sprites_dealtCards textures (first + 2) faces,
      show 2 * (face :: faces).length = 2 * faces.length + 1 + 1 by simp; omega,
      List.range'_succ, List.range'_succ]
    rfl

theorem length_dealtCards (textures : CardTextures) : ∀ (first : Nat) (faces : List String),
    (dealtCards textures first faces).length = faces.length
  | _, [] => rfl
  | first, _ :: faces => by rw [dealtCards, List.length_cons, length_dealtCards textures (first + 2) faces]; rfl

@[simp] theorem Board.sprites_dealt (textures : CardTextures) (first : Nat) (faces : List String) :
    (Board.dealt textures first faces).sprites = List.range' first (2 * faces.length) :=
  sprites_dealtCards textures first faces

/-- Dealing one face on view `v`: the back sprite, then the symbol sprite, each made and given
its texture. -/
def dealOne (v : Nat) (textures : CardTextures) (face : String) : Act Card := do
  match textures.symbol? face with
  | none => throw (Failure.violation ("no symbol for card face " ++ face))
  | some symbolTexture =>
    let (back, _) ← createSprite v
    spriteSetTexture back textures.card
    let (symbol, _) ← createSprite v
    spriteSetTexture symbol symbolTexture
    pure (Card.mk face back symbol symbolTexture.aspectRatio ⟨0, 0, 0, 0⟩)

/-- Dealing is dealing each face in turn, then putting the new table after the others. -/
theorem dealBoard_eq (v : Nat) (textures : CardTextures) (faces : List String) :
    dealBoard v textures faces = (do
      let cards ← faces.mapM (dealOne v textures)
      modifyGet fun w =>
        (w.boards.length, { w with boards := w.boards ++ [⟨cards, textures.card.aspectRatio, none⟩] })) :=
  rfl

/-! ## What dealing changes -/

namespace World

/-- A sprite has a look exactly when it is there and so is its node. -/
theorem isSome_spriteLook_iff {w : World} {k : Nat} :
    (w.spriteLook k).isSome ↔ k < w.sprites.length ∧ w.nodeOf k < w.nodes.length := by
  unfold spriteLook
  cases hk : w.sprites[k]? with
  | none =>
    have hle := List.getElem?_eq_none_iff.mp hk
    simp only [Option.bind_none, Option.isSome_none, Bool.false_eq_true, false_iff, not_and]
    omega
  | some st =>
    obtain ⟨hlt, -⟩ := List.getElem?_eq_some_iff.mp hk
    simp [nodeOf_eq hk, hlt]

/-- World `u` with its nodes, interactions, registries and sprites replaced, `tasks` queued and
the stacking counter at `z`: the parts of a world dealing changes. -/
def dealtTo (u : World) (nodes : List NodeState) (interactions : List Interaction)
    (registries : List (Registry Handler)) (sprites : List SpriteState) (tasks : List SceneTask) (z : Int) :
    World :=
  { u with
    nodes := nodes, interactions := interactions, registries := registries, sprites := sprites,
    loop := { u.loop with queue := u.loop.queue ++ tasks.map .run, nextZ := z } }

@[simp] theorem dealtTo_dealtTo (u : World) (n₁ n₂ : List NodeState) (i₁ i₂ : List Interaction)
    (r₁ r₂ : List (Registry Handler)) (s₁ s₂ : List SpriteState) (t₁ t₂ : List SceneTask) (z₁ z₂ : Int) :
    (u.dealtTo n₁ i₁ r₁ s₁ t₁ z₁).dealtTo n₂ i₂ r₂ s₂ t₂ z₂ = u.dealtTo n₂ i₂ r₂ s₂ (t₁ ++ t₂) z₂ := by
  simp [dealtTo]

/-- `u'` is `u` after dealing made `n` sprites: only the nodes, interactions, registries,
sprites and the loop's queue and stacking counter changed; `n` nodes were added, and `n`
sprites, the new sprites on the new nodes in order; interactions and registries were added after
the others; and `tasks`, queued, are changes to the new sprites. -/
structure Deals (u u' : World) (n : Nat) (tasks : List SceneTask) : Prop where
  eq : u' = u.dealtTo u'.nodes u'.interactions u'.registries u'.sprites tasks u'.loop.nextZ
  nodes : u'.nodes.length = u.nodes.length + n
  sprites : u'.sprites.map SpriteState.node = u.sprites.map SpriteState.node ++ List.range' u.nodes.length n
  interactions : u.interactions <+: u'.interactions
  registries : u.registries <+: u'.registries
  tasks : ∀ t ∈ tasks, ∃ k, t.sprite? = some k ∧ k < u.sprites.length + n

namespace Deals

variable {u u' u'' : World} {n m : Nat} {ts ts' : List SceneTask}

theorem refl (u : World) : u.Deals u 0 [] :=
  ⟨by simp only [dealtTo, List.map_nil, List.append_nil], rfl, by simp, List.prefix_refl _, List.prefix_refl _,
    fun _ ht => absurd ht List.not_mem_nil⟩

variable (h : u.Deals u' n ts)
include h

theorem sprites_length : u'.sprites.length = u.sprites.length + n := by
  have := congrArg List.length h.sprites
  simpa using this

theorem views : u'.views = u.views := by
  have := congrArg World.views h.eq
  exact this
theorem boards : u'.boards = u.boards := by
  have := congrArg World.boards h.eq
  exact this
theorem host : u'.host = u.host := by
  have := congrArg World.host h.eq
  exact this
theorem game : u'.game = u.game := by
  have := congrArg World.game h.eq
  exact this
theorem appState : u'.appState = u.appState := by
  have := congrArg World.appState h.eq
  exact this
theorem loopDropped : u'.loopDropped = u.loopDropped := by
  have := congrArg World.loopDropped h.eq
  exact this
theorem queue : u'.loop.queue = u.loop.queue ++ ts.map .run := by
  have := congrArg (·.loop.queue) h.eq
  exact this
theorem draining : u'.loop.draining = u.loop.draining := by
  have := congrArg (·.loop.draining) h.eq
  exact this
theorem stopped : u'.loop.stopped = u.loop.stopped := by
  have := congrArg (·.loop.stopped) h.eq
  exact this

/-- The new sprites stand on the new nodes, in order. -/
theorem nodesOf_dealt : u'.nodesOf (List.range' u.sprites.length n) = List.range' u.nodes.length n := by
  apply List.ext_getElem (by simp [nodesOf])
  intro i h₁ _
  simp only [nodesOf, List.length_map, List.length_range'] at h₁
  simp [nodesOf, nodeOf, h.sprites, List.getD_eq_getElem?_getD, h₁]

/-- The new sprites all have looks. -/
theorem isSome_spriteLook_dealt : ∀ k ∈ List.range' u.sprites.length n, (u'.spriteLook k).isSome := by
  intro k hk
  have hnode : u'.nodeOf k ∈ List.range' u.nodes.length n := by
    rw [← h.nodesOf_dealt]
    exact List.mem_map_of_mem hk
  rw [List.mem_range'_1] at hk hnode
  rw [isSome_spriteLook_iff, h.sprites_length, h.nodes]
  omega

omit h

theorem trans (h₁ : u.Deals u' n ts) (h₂ : u'.Deals u'' m ts') : u.Deals u'' (n + m) (ts ++ ts') where
  eq := by
    have e₂ := h₂.eq
    rw [h₁.eq, dealtTo_dealtTo] at e₂
    exact e₂
  nodes := by rw [h₂.nodes, h₁.nodes, Nat.add_assoc]
  sprites := by rw [h₂.sprites, h₁.sprites, h₁.nodes, List.append_assoc, List.range'_append_1]
  interactions := h₁.interactions.trans h₂.interactions
  registries := h₁.registries.trans h₂.registries
  tasks t ht := by
    rcases List.mem_append.mp ht with ht | ht
    · obtain ⟨k, hk, hlt⟩ := h₁.tasks t ht
      exact ⟨k, hk, by omega⟩
    · obtain ⟨k, hk, hlt⟩ := h₂.tasks t ht
      rw [h₁.sprites_length] at hlt
      exact ⟨k, hk, by omega⟩

end Deals

end World

section Dealing

variable {u : World} {v : Nat} {view : ViewState}

/-- Queuing a texture for a sprite that is there deals nothing more. -/
theorem post_deals (hlive : u.loopDropped = false) {t : SceneTask} {k : Nat} (ht : t.sprite? = some k)
    (hk : k < u.sprites.length) :
    post t u = .ok () { u with loop := u.loop.post t } ∧ u.Deals { u with loop := u.loop.post t } 0 [t] :=
  ⟨post_apply hlive, ⟨by simp only [World.dealtTo, List.map_cons, List.map_nil]; rfl, rfl, by simp,
    List.prefix_refl _, List.prefix_refl _, fun t' ht' => ⟨k, List.mem_singleton.mp ht' ▸ ht, hk⟩⟩⟩

/-- Making a sprite on a view deals one sprite, on a new node. -/
theorem createSprite_deals (hv : u.views[v]? = some view) :
    ∃ u', createSprite v u = .ok (u.sprites.length, u.loop.nextZ) u' ∧ u.Deals u' 1 [] := by
  refine ⟨_, by simp only [createSprite, bind_apply, addSprite_apply, spriteAt_apply, List.getElem?_concat_length,
    nextZ_apply, modifyNode_apply, viewAt_apply, hv, attach_apply, pure_apply, modify_concat_length]; rfl,
    ⟨by simp only [World.dealtTo, List.map_nil, List.append_nil]; rfl, by simp, by simp, List.prefix_append _ _,
      List.prefix_append _ _, fun _ ht => absurd ht List.not_mem_nil⟩⟩

/-- Dealing a face with a symbol deals its two sprites and queues their textures: the card's
back, with the card texture, then its symbol. -/
theorem dealOne_deals (hv : u.views[v]? = some view) (hlive : u.loopDropped = false) {textures : CardTextures}
    {face : String} {sym : Texture} (hsym : textures.symbol? face = some sym) :
    ∃ u', dealOne v textures face u =
        .ok ⟨face, u.sprites.length, u.sprites.length + 1, sym.aspectRatio, ⟨0, 0, 0, 0⟩⟩ u' ∧
      u.Deals u' 2 [.spriteTexture u.sprites.length textures.card, .spriteTexture (u.sprites.length + 1) sym] := by
  -- the back: made, then given the card texture
  obtain ⟨u₁, h₁, d₁⟩ := createSprite_deals hv
  obtain ⟨hp₁, d₂⟩ := post_deals (d₁.loopDropped.trans hlive) (t := .spriteTexture u.sprites.length textures.card)
    rfl (by rw [d₁.sprites_length]; omega)
  -- the symbol: made, then given its texture
  obtain ⟨u₃, h₃, d₃⟩ := createSprite_deals (u := { u₁ with loop := u₁.loop.post _ }) (by rw [← hv, d₁.views])
  have hS : u₁.sprites.length = u.sprites.length + 1 := d₁.sprites_length
  obtain ⟨hp₃, d₄⟩ := post_deals (d₃.loopDropped.trans (d₁.loopDropped.trans hlive))
    (t := .spriteTexture (u.sprites.length + 1) sym) rfl (by rw [d₃.sprites_length, ← hS]; exact Nat.lt_succ_self _)
  refine ⟨_, ?_, ((d₁.trans d₂).trans d₃).trans d₄⟩
  unfold dealOne
  simp only [hsym, bind_apply, h₁, spriteSetTexture, hp₁, h₃, pure_apply]
  rw [hS, hp₃]

/-- Dealing faces that all have symbols deals two sprites a face, and answers the dealt cards. -/
theorem mapM_dealOne_deals {textures : CardTextures} : ∀ (faces : List String) {u : World},
    u.views[v]? = some view → u.loopDropped = false → (∀ face ∈ faces, (textures.symbol? face).isSome) →
    ∃ u' tasks, faces.mapM (dealOne v textures) u = .ok (dealtCards textures u.sprites.length faces) u' ∧
      u.Deals u' (2 * faces.length) tasks
  | [], u, _, _, _ => ⟨u, [], rfl, World.Deals.refl u⟩
  | face :: faces, u, hv, hlive, hfaces => by
    obtain ⟨sym, hsym⟩ := Option.isSome_iff_exists.mp (hfaces face List.mem_cons_self)
    obtain ⟨u₁, h₁, d₁⟩ := dealOne_deals hv hlive hsym
    obtain ⟨u', tasks, h', d'⟩ := mapM_dealOne_deals faces (by rw [← hv, d₁.views]) (d₁.loopDropped.trans hlive)
      fun f hf => hfaces f (List.mem_cons_of_mem _ hf)
    refine ⟨u', _, ?_, (show 2 * (face :: faces).length = 2 + 2 * faces.length by simp; omega) ▸ d₁.trans d'⟩
    rw [List.mapM_cons, bind_apply, h₁]
    simp only [bind_apply, h', pure_apply, d₁.sprites_length, dealtCards, hsym, Option.map_some, Option.getD_some]

/-- **Dealing.** Dealing faces that all have symbols on a game view deals two sprites a face, and
puts the dealt table after the others. -/
theorem dealBoard_deals (hv : u.views[v]? = some view) (hlive : u.loopDropped = false) {textures : CardTextures}
    {faces : List String} (hfaces : ∀ face ∈ faces, (textures.symbol? face).isSome) :
    ∃ u' tasks, dealBoard v textures faces u =
        .ok u.boards.length { u' with boards := u.boards ++ [Board.dealt textures u.sprites.length faces] } ∧
      u.Deals u' (2 * faces.length) tasks := by
  obtain ⟨u', tasks, h', d'⟩ := mapM_dealOne_deals faces hv hlive hfaces
  refine ⟨u', tasks, ?_, d'⟩
  rw [dealBoard_eq, bind_apply, h', ← d'.boards]
  rfl

end Dealing

end Proscenium
