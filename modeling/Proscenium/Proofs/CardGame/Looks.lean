import Mathlib.Data.List.Basic
import Proscenium.Proofs.Host.Calls

/-!
# How the cards look

A card shows on its table as two sprites. Its *back* has exactly the card's place: the place's
size, at `(left, -top)` (a sprite's location is the window point with `y` flipped). Its *symbol*
is 60% of the card's width, at the symbol's own aspect ratio, centred on the card. Placing a
card queues the four sprite changes that give it that look (`Card.placeTasks`).

A queued sprite change touches its sprite and its sprite's node, and nothing else: the node's
size, position or visibility, and the sprite's texture or animation (`World.restyle`). So a
sprite's look after a run of changes is decided by the changes to its own node, and changes to
other nodes leave it alone (`spriteLook_restyle`). From this:

* running the placing changes of cards whose sprites have nodes of their own shows every one of
  them at its place, whatever the sprites looked like before (`shows_placeTasks_flatMap`), and
  changes to other sprites keep a card shown (`shows_foldl_restyle`);
* a drain of a queue of sprite changes runs them in order and does nothing else
  (`drain_restyles`).
-/

namespace Proscenium

open Act

/-! ## Looks -/

namespace World

/-- A sprite's look: its node's size and position. -/
def spriteLook (w : World) (s : Nat) : Option (Size × Point) :=
  (w.sprites[s]?).bind fun st => (w.nodes[st.node]?).map fun n => (n.size, n.position)

/-- The node of sprite `s`. -/
def nodeOf (w : World) (s : Nat) : Nat := (w.sprites.map SpriteState.node).getD s 0

/-- The nodes of a list of sprites. -/
def nodesOf (w : World) (ss : List Nat) : List Nat := ss.map w.nodeOf

end World

namespace Card

/-- A card's two sprites, back then symbol. -/
def sprites (c : Card) : List Nat := [c.back, c.symbol]

/-- How the back shows a card: the place's size, at `(left, -top)`. -/
def backLook (c : Card) : Size × Point :=
  (⟨c.place.width, c.place.height⟩, ⟨c.place.left, -c.place.top⟩)

/-- How the symbol shows a card: 60% of the card's width at the symbol's aspect ratio, centred on
the card. -/
def symbolLook (c : Card) : Size × Point :=
  let w := c.place.width * symbolWidthFraction
  let h := w / c.symbolAspect
  (⟨w, h⟩, ⟨c.place.left + c.place.width / 2 - w / 2, -(c.place.top + c.place.height / 2 - h / 2)⟩)

/-- The sprite changes that show a card at its place, in the order they are queued. -/
def placeTasks (c : Card) : List SceneTask :=
  [.spriteSize c.back c.backLook.1 0, .spriteMove c.back c.backLook.2 0,
    .spriteSize c.symbol c.symbolLook.1 0, .spriteMove c.symbol c.symbolLook.2 0]

end Card

/-- The world shows card `c`: its back and its symbol look as the card's place says. -/
def World.Shows (w : World) (c : Card) : Prop :=
  w.spriteLook c.back = some c.backLook ∧ w.spriteLook c.symbol = some c.symbolLook

/-- Placing a card's sprites at `place` queues the changes that show the card there. -/
theorem placeSprites_apply {w : World} (hlive : w.loopDropped = false) (card : Card) (place : Place) :
    placeSprites card place w = .ok ()
      { w with loop := { w.loop with
          queue := w.loop.queue ++ ({ card with place := place } : Card).placeTasks.map .run } } := by
  simp only [placeSprites, spriteSetSize, spriteSetLocation, bind_apply, post_apply, hlive]
  simp [TaskLoop.post, Card.placeTasks, Card.backLook, Card.symbolLook]

/-! ## Sprite changes -/

namespace SceneTask

/-- The sprite a queued sprite change is for. -/
def sprite? : SceneTask → Option Nat
  | .spriteTexture s _ => some s
  | .spriteSize s _ _ => some s
  | .spriteMove s _ _ => some s
  | .spriteVisible s _ => some s
  | _ => none

/-- What a sprite change does to its sprite's node. -/
def onNode : SceneTask → NodeState → NodeState
  | .spriteTexture _ t, n => { n with size := ⟨Float.ofInt t.width, Float.ofInt t.height⟩ }
  | .spriteSize _ size _, n => { n with size := size }
  | .spriteMove _ target _, n => { n with position := target }
  | .spriteVisible _ visible, n => { n with visible := visible }
  | _, n => n

/-- What a sprite change does to the sprite: its texture, or the animation it is given. -/
def onSprite : SceneTask → SpriteState → SpriteState
  | .spriteTexture _ t, st => { st with texture := some t }
  | .spriteSize _ size ms, st => { st with motion := some (.resize size ms) }
  | .spriteMove _ target ms, st => { st with motion := some (.move target ms) }
  | _, st => st

/-- What a sprite change does to a look. -/
def onLook : SceneTask → Size × Point → Size × Point
  | .spriteTexture _ t, (_, p) => (⟨Float.ofInt t.width, Float.ofInt t.height⟩, p)
  | .spriteSize _ size _, (_, p) => (size, p)
  | .spriteMove _ target _, (s, _) => (s, target)
  | _, look => look

theorem look_onNode (t : SceneTask) (n : NodeState) :
    ((t.onNode n).size, (t.onNode n).position) = t.onLook (n.size, n.position) := by
  cases t <;> rfl

@[simp] theorem node_onSprite (t : SceneTask) (st : SpriteState) : (t.onSprite st).node = st.node := by
  cases t <;> rfl

end SceneTask

namespace World

/-- The world after sprite change `t` has run, its sprite being there. -/
def restyle (w : World) (t : SceneTask) : World :=
  match t.sprite? with
  | some s => { w with nodes := w.nodes.modify (w.nodeOf s) t.onNode, sprites := w.sprites.modify s t.onSprite }
  | none => w

/-- The world after widget change `t` has run: a bar's new value or text, a button's new text, or
a sprite change as `restyle` says. -/
def retouch (w : World) : SceneTask → World
  | .barValue bar value =>
    { w with bars := w.bars.modify bar fun st => { st with value := value, bar := st.geometry.bar value } }
  | .barText bar text => { w with bars := w.bars.modify bar fun st => { st with text := text } }
  | .buttonText button text => { w with buttons := w.buttons.modify button fun st => { st with text := text } }
  | t => w.restyle t

/-- Task `t` changes a widget of `w`: a bar, a button, or a sprite that is there. -/
def WidgetChange (w : World) : SceneTask → Prop
  | .present _ => False
  | t => ∀ k, t.sprite? = some k → k < w.sprites.length

/-- `w'` is `w` with some widgets changed: nodes and sprites, the same number of each and every
sprite on the node it had, and bars and buttons. -/
structure Restyles (w w' : World) : Prop where
  eq : w' = { w with nodes := w'.nodes, sprites := w'.sprites, bars := w'.bars, buttons := w'.buttons }
  nodes : w'.nodes.length = w.nodes.length
  sprites : w'.sprites.map SpriteState.node = w.sprites.map SpriteState.node

namespace Restyles

variable {w w' w'' : World}

theorem refl (w : World) : w.Restyles w := ⟨rfl, rfl, rfl⟩

theorem trans (h₁ : w.Restyles w') (h₂ : w'.Restyles w'') : w.Restyles w'' where
  eq := by rw [h₂.eq, h₁.eq]
  nodes := h₂.nodes.trans h₁.nodes
  sprites := h₂.sprites.trans h₁.sprites

theorem sprites_length (h : w.Restyles w') : w'.sprites.length = w.sprites.length := by
  simpa using congrArg List.length h.sprites

theorem nodeOf (h : w.Restyles w') (s : Nat) : w'.nodeOf s = w.nodeOf s := by
  unfold World.nodeOf
  rw [h.sprites]

theorem nodesOf (h : w.Restyles w') (ss : List Nat) : w'.nodesOf ss = w.nodesOf ss :=
  List.map_congr_left fun s _ => h.nodeOf s

end Restyles

theorem nodeOf_eq {w : World} {s : Nat} {st : SpriteState} (h : w.sprites[s]? = some st) :
    w.nodeOf s = st.node := by
  simp [nodeOf, List.getD_eq_getElem?_getD, h]

theorem restyles_restyle (w : World) (t : SceneTask) : w.Restyles (w.restyle t) := by
  unfold restyle
  split
  · exact ⟨rfl, List.length_modify _ _ _, map_modify_of_comp (SceneTask.node_onSprite t) _ _⟩
  · exact .refl w

theorem restyles_retouch (w : World) (t : SceneTask) : w.Restyles (w.retouch t) := by
  cases t with
  | barValue | barText | buttonText => exact ⟨rfl, rfl, rfl⟩
  | _ => unfold retouch; exact restyles_restyle w _

/-- Changes that each change only widgets, made one after another, change only widgets. -/
theorem restyles_foldl_of {f : World → SceneTask → World} (hf : ∀ (w : World) t, w.Restyles (f w t)) (ts : List SceneTask)
    (w : World) : w.Restyles (ts.foldl f w) := by
  induction ts generalizing w with
  | nil => exact .refl w
  | cons t ts ih => exact (hf w t).trans (ih _)

theorem restyles_foldl (ts : List SceneTask) (w : World) : w.Restyles (ts.foldl restyle w) :=
  restyles_foldl_of restyles_restyle ts w

theorem restyles_foldl_retouch (ts : List SceneTask) (w : World) : w.Restyles (ts.foldl retouch w) :=
  restyles_foldl_of restyles_retouch ts w

/-- A widget change to a world stays one when the world has as many sprites or more. -/
theorem WidgetChange.of_le {w w' : World} {t : SceneTask} (h : w.sprites.length ≤ w'.sprites.length)
    (ht : w.WidgetChange t) : w'.WidgetChange t := by
  cases t with
  | present v => exact ht.elim
  | _ => exact fun k hk => Nat.lt_of_lt_of_le (ht k hk) h

/-- The look of a sprite after a sprite change: changed as the change says if the sprite shares
the changed sprite's node, as it was otherwise. -/
theorem spriteLook_restyle {w : World} {t : SceneTask} {k : Nat} (ht : t.sprite? = some k) (s : Nat) :
    (w.restyle t).spriteLook s =
      if w.nodeOf s = w.nodeOf k then (w.spriteLook s).map t.onLook else w.spriteLook s := by
  have hrs : w.restyle t =
      { w with nodes := w.nodes.modify (w.nodeOf k) t.onNode, sprites := w.sprites.modify k t.onSprite } := by
    unfold restyle
    rw [ht]
  rw [hrs]
  unfold spriteLook
  cases hs : w.sprites[s]? with
  | none => simp [List.getElem?_modify, hs]
  | some st =>
    rw [nodeOf_eq hs]
    -- the sprite keeps its node; only that node can have changed
    obtain ⟨st', hs', hn⟩ : ∃ st', (w.sprites.modify k t.onSprite)[s]? = some st' ∧ st'.node = st.node := by
      rw [List.getElem?_modify, hs]
      exact ⟨_, rfl, by split <;> simp⟩
    simp only [hs', Option.bind_some, hn, List.getElem?_modify, Option.map_eq_map, Option.map_map]
    by_cases he : st.node = w.nodeOf k
    · simp only [if_pos he, if_pos he.symm]
      congr 1
      funext n
      exact SceneTask.look_onNode t n
    · simp only [if_neg he, if_neg (Ne.symm he)]
      rfl

/-! ## Showing cards -/

section Showing

variable {w : World} {t : SceneTask} {k s : Nat}

@[simp] theorem nodeOf_restyle (w : World) (t : SceneTask) (s : Nat) : (w.restyle t).nodeOf s = w.nodeOf s :=
  (restyles_restyle w t).nodeOf s

theorem spriteLook_restyle_self (ht : t.sprite? = some k) :
    (w.restyle t).spriteLook k = (w.spriteLook k).map t.onLook := by
  rw [spriteLook_restyle ht, if_pos rfl]

theorem spriteLook_restyle_of_ne (ht : t.sprite? = some k) (hne : w.nodeOf s ≠ w.nodeOf k) :
    (w.restyle t).spriteLook s = w.spriteLook s := by
  rw [spriteLook_restyle ht, if_neg hne]

/-- A sprite with a look keeps one through a sprite change. -/
theorem isSome_spriteLook_restyle (h : (w.spriteLook s).isSome) (t : SceneTask) :
    ((w.restyle t).spriteLook s).isSome := by
  cases ht : t.sprite? with
  | none =>
    unfold restyle
    rw [ht]
    exact h
  | some k =>
    rw [spriteLook_restyle ht]
    split
    · simpa using h
    · exact h

theorem isSome_spriteLook_foldl (h : (w.spriteLook s).isSome) (ts : List SceneTask) :
    ((ts.foldl restyle w).spriteLook s).isSome := by
  induction ts generalizing w with
  | nil => exact h
  | cons t ts ih => exact ih (isSome_spriteLook_restyle h t)

/-- A change to a sprite on neither of a card's nodes keeps the card as it is shown. -/
theorem shows_restyle {c : Card} (ht : t.sprite? = some k) (hk : w.nodeOf k ∉ w.nodesOf c.sprites) :
    (w.restyle t).Shows c ↔ w.Shows c := by
  simp only [nodesOf, Card.sprites, List.map_cons, List.map_nil, List.mem_cons, List.not_mem_nil,
    or_false, not_or] at hk
  unfold Shows
  rw [spriteLook_restyle_of_ne ht (Ne.symm hk.1), spriteLook_restyle_of_ne ht (Ne.symm hk.2)]

/-- Changes to sprites on neither of a card's nodes keep the card shown. -/
theorem shows_foldl_restyle {c : Card} :
    ∀ (ts : List SceneTask) {w : World}, w.Shows c →
      (∀ t ∈ ts, ∀ k, t.sprite? = some k → w.nodeOf k ∉ w.nodesOf c.sprites) → (ts.foldl restyle w).Shows c
  | [], _, hc, _ => hc
  | t :: ts, w, hc, hts => by
    have hc₁ : (w.restyle t).Shows c := by
      cases ht : t.sprite? with
      | none =>
        unfold restyle
        rw [ht]
        exact hc
      | some k => exact (shows_restyle ht (hts t List.mem_cons_self k ht)).mpr hc
    refine shows_foldl_restyle ts hc₁ fun t' ht' k hk => ?_
    rw [nodeOf_restyle, (restyles_restyle w t).nodesOf]
    exact hts t' (List.mem_cons_of_mem _ ht') k hk

/-- The changes placing a card show it at its place, whatever its sprites looked like, once its
back and its symbol are on nodes of their own. -/
theorem shows_placeTasks {c : Card} (hne : w.nodeOf c.back ≠ w.nodeOf c.symbol)
    (hb : (w.spriteLook c.back).isSome) (hs : (w.spriteLook c.symbol).isSome) :
    (c.placeTasks.foldl restyle w).Shows c := by
  obtain ⟨lb, hlb⟩ := Option.isSome_iff_exists.mp hb
  obtain ⟨ls, hls⟩ := Option.isSome_iff_exists.mp hs
  simp only [Card.placeTasks, List.foldl_cons, List.foldl_nil]
  constructor
  · -- the back's own two changes, then two that pass it by
    rw [spriteLook_restyle_of_ne rfl (by simpa using hne), spriteLook_restyle_of_ne rfl (by simpa using hne),
      spriteLook_restyle_self rfl, spriteLook_restyle_self rfl, hlb]
    rfl
  · rw [spriteLook_restyle_self rfl, spriteLook_restyle_self rfl,
      spriteLook_restyle_of_ne rfl (by simpa using Ne.symm hne),
      spriteLook_restyle_of_ne rfl (by simpa using Ne.symm hne), hls]
    rfl

/-- Every change placing a card is to one of its sprites. -/
theorem sprite?_of_mem_placeTasks {c : Card} (ht : t ∈ c.placeTasks) : ∃ k ∈ c.sprites, t.sprite? = some k := by
  simp only [Card.placeTasks, List.mem_cons, List.not_mem_nil, or_false] at ht
  rcases ht with rfl | rfl | rfl | rfl <;> simp [Card.sprites, SceneTask.sprite?]

/-- The changes placing a list of cards, run in order, show every one of them, whatever their
sprites looked like, once all their sprites are on nodes of their own. -/
theorem shows_placeTasks_flatMap :
    ∀ (cs : List Card) {w : World}, (w.nodesOf (cs.flatMap Card.sprites)).Nodup →
      (∀ c ∈ cs, ∀ s ∈ c.sprites, (w.spriteLook s).isSome) →
      ∀ c ∈ cs, ((cs.flatMap Card.placeTasks).foldl restyle w).Shows c
  | [], _, _, _ => fun _ h => absurd h List.not_mem_nil
  | c :: cs, w, hnd, hlook => by
    simp only [List.flatMap_cons, nodesOf, List.map_append, List.nodup_append] at hnd
    obtain ⟨hnd₁, hnd₂, hapart⟩ := hnd
    have hw₁ := restyles_foldl c.placeTasks w
    -- the rest's changes are to sprites on other nodes than this card's
    have hother : ∀ t ∈ cs.flatMap Card.placeTasks, ∀ k, t.sprite? = some k →
        (c.placeTasks.foldl restyle w).nodeOf k ∉ (c.placeTasks.foldl restyle w).nodesOf c.sprites := by
      intro t ht k hk hmem
      obtain ⟨c', hc', ht'⟩ := List.mem_flatMap.mp ht
      obtain ⟨k', hk', hsk'⟩ := sprite?_of_mem_placeTasks ht'
      rw [hsk', Option.some.injEq] at hk
      subst hk
      rw [hw₁.nodeOf, hw₁.nodesOf] at hmem
      exact hapart _ hmem _ (List.mem_map_of_mem (List.mem_flatMap.mpr ⟨c', hc', hk'⟩)) rfl
    intro c' hc'
    rw [List.flatMap_cons, List.foldl_append]
    rcases List.mem_cons.mp hc' with rfl | hc'
    · have hne : w.nodeOf c'.back ≠ w.nodeOf c'.symbol := by
        simp only [Card.sprites, List.map_cons, List.map_nil, List.nodup_cons, List.mem_cons,
          List.not_mem_nil, or_false] at hnd₁
        exact hnd₁.1
      exact shows_foldl_restyle _
        (shows_placeTasks hne (hlook c' List.mem_cons_self _ (by simp [Card.sprites]))
          (hlook c' List.mem_cons_self _ (by simp [Card.sprites]))) hother
    · refine shows_placeTasks_flatMap cs (by rw [hw₁.nodesOf]; exact hnd₂) (fun c'' hc'' s hs => ?_) c' hc'
      exact isSome_spriteLook_foldl (hlook c'' (List.mem_cons_of_mem _ hc'') s hs) _

end Showing

/-! ## Draining sprite changes -/

section Draining

variable {w : World} {t : SceneTask} {k : Nat}

/-- A sprite change whose sprite is there runs as `restyle` says. -/
theorem runTask_of_sprite (ht : t.sprite? = some k) (hk : k < w.sprites.length) :
    runTask t w = .ok () (w.restyle t) := by
  obtain ⟨st, hst⟩ : ∃ st, w.sprites[k]? = some st := ⟨_, List.getElem?_eq_getElem hk⟩
  have hn := nodeOf_eq hst
  cases t with
  | spriteTexture s tex =>
    cases ht
    simp only [runTask, applyWidgetTask, bind_apply, spriteAt_apply, hst, modifySprite_apply, modifyNode_apply,
      restyle, SceneTask.sprite?, hn]
    rfl
  | spriteSize s size ms =>
    cases ht
    simp only [runTask, applyWidgetTask, bind_apply, spriteAt_apply, hst, modifySprite_apply, modifyNode_apply,
      restyle, SceneTask.sprite?, hn]
    rfl
  | spriteMove s target ms =>
    cases ht
    simp only [runTask, applyWidgetTask, bind_apply, spriteAt_apply, hst, modifySprite_apply, modifyNode_apply,
      restyle, SceneTask.sprite?, hn]
    rfl
  | spriteVisible s visible =>
    cases ht
    -- visibility is the node's alone
    have hid : (SceneTask.spriteVisible k visible).onSprite = id := rfl
    simp only [runTask, applyWidgetTask, bind_apply, spriteAt_apply, hst, modifyNode_apply, restyle,
      SceneTask.sprite?, hn, hid, List.modify_id]
    rfl
  | present v => cases ht
  | barValue bar value => cases ht
  | barText bar text => cases ht
  | buttonText button text => cases ht

/-- A change to a sprite that is there is a widget change, and `retouch` makes it as `restyle` does. -/
theorem widgetChange_of_sprite (ht : t.sprite? = some k) (hk : k < w.sprites.length) : w.WidgetChange t := by
  cases t with
  | present v => cases ht
  | _ =>
    intro k' hk'
    rw [ht, Option.some.injEq] at hk'
    exact hk' ▸ hk

theorem retouch_of_sprite (ht : t.sprite? = some k) : w.retouch t = w.restyle t := by
  cases t with
  | barValue | barText | buttonText => cases ht
  | _ => rfl

/-- A widget change runs as `retouch` says: a bar's or a button's always, a sprite's when its
sprite is there. -/
theorem runTask_of_widgetChange (ht : w.WidgetChange t) : runTask t w = .ok () (w.retouch t) := by
  cases t with
  | present v => exact ht.elim
  | barValue | barText | buttonText => rfl
  | _ => unfold retouch; exact runTask_of_sprite rfl (ht _ rfl)

/-- Sprite changes leave the loop alone. -/
theorem restyle_withLoop (w : World) (l : TaskLoop SceneTask) (t : SceneTask) :
    { w with loop := l }.restyle t = { w.restyle t with loop := l } := by
  unfold restyle
  split <;> rfl

theorem retouch_withLoop (w : World) (l : TaskLoop SceneTask) (t : SceneTask) :
    { w with loop := l }.retouch t = { w.retouch t with loop := l } := by
  cases t with
  | barValue | barText | buttonText => rfl
  | _ => unfold retouch; exact restyle_withLoop w l _

/-- Changes that each leave the loop alone, made one after another, leave it alone. -/
theorem foldl_withLoop_of {f : World → SceneTask → World}
    (hf : ∀ (w : World) l t, f { w with loop := l } t = { f w t with loop := l }) (ts : List SceneTask) (w : World)
    (l : TaskLoop SceneTask) : ts.foldl f { w with loop := l } = { ts.foldl f w with loop := l } := by
  induction ts generalizing w with
  | nil => rfl
  | cons t ts ih => rw [List.foldl_cons, List.foldl_cons, hf, ih]

theorem foldl_restyle_withLoop (ts : List SceneTask) (w : World) (l : TaskLoop SceneTask) :
    ts.foldl restyle { w with loop := l } = { ts.foldl restyle w with loop := l } :=
  foldl_withLoop_of restyle_withLoop ts w l

theorem foldl_retouch_withLoop (ts : List SceneTask) (w : World) (l : TaskLoop SceneTask) :
    ts.foldl retouch { w with loop := l } = { ts.foldl retouch w with loop := l } :=
  foldl_withLoop_of retouch_withLoop ts w l

/-- A drain that finds widget changes at the front of its queue runs them one after another,
then goes on as a drain of the rest of the queue from the world they leave: the two end alike,
apart from the log of what they took. -/
theorem drainLog_retouches : ∀ (ts : List SceneTask) {u : World} {fuel n : Nat} {rest : List (Message SceneTask)},
    u.loop.stopped = false → u.loop.queue = ts.map .run ++ rest → (∀ t ∈ ts, u.WidgetChange t) →
    ∃ taken, sceneEngine.drainLog (ts.length + fuel) u n = { sceneEngine.drainLog fuel
      (ts.foldl retouch { u with loop := { u.loop with queue := rest } }) (n + ts.length) with taken := taken }
  | [], u, fuel, n, rest, hs, hq, _ => by
    have hloop : { u.loop with queue := rest } = u.loop := by
      cases hl : u.loop
      simp_all
    refine ⟨(sceneEngine.drainLog fuel u n).taken, ?_⟩
    rw [List.foldl_nil, hloop, List.length_nil, Nat.zero_add, Nat.add_zero]
  | t :: ts, u, fuel, n, rest, hs, hq, hts => by
    -- the change taken off the front runs on the world holding the rest of the queue
    have hexec : sceneEngine.exec t (sceneEngine.setLoop u { sceneEngine.loop u with queue := ts.map Message.run ++ rest }) =
        ({ u with loop := { u.loop with queue := ts.map Message.run ++ rest } }.retouch t, none) := by
      simp only [sceneEngine, runTask_of_widgetChange
        (w := { u with loop := { u.loop with queue := ts.map Message.run ++ rest } }) (hts t List.mem_cons_self)]
    have hfuel : (t :: ts).length + fuel = ts.length + fuel + 1 := by
      rw [List.length_cons]
      omega
    rw [hfuel, Engine.drainLog_of_run_ok hs (by rw [sceneEngine_loop, hq, List.map_cons, List.cons_append]) hexec]
    have hrest := restyles_retouch { u with loop := { u.loop with queue := ts.map Message.run ++ rest } } t
    obtain ⟨taken, htaken⟩ := @drainLog_retouches ts
      ({ u with loop := { u.loop with queue := ts.map Message.run ++ rest } }.retouch t) fuel (n + 1) rest
      (by rw [retouch_withLoop]; exact hs) (by rw [retouch_withLoop])
      (fun t' ht' => (hts t' (List.mem_cons_of_mem _ ht')).of_le (Nat.le_of_eq hrest.sprites_length.symm))
    -- the rest of the queue runs on the world the change left, whichever loop it was made under
    have hw : { ({ u with loop := { u.loop with queue := ts.map Message.run ++ rest } }.retouch t) with
        loop := { ({ u with loop := { u.loop with queue := ts.map Message.run ++ rest } }.retouch t).loop with
          queue := rest } } = { u with loop := { u.loop with queue := rest } }.retouch t := by
      rw [retouch_withLoop u { u.loop with queue := ts.map Message.run ++ rest } t,
        retouch_withLoop u { u.loop with queue := rest } t]
    rw [htaken, hw, List.foldl_cons, List.length_cons, Nat.add_right_comm, Nat.add_assoc]
    exact ⟨_, rfl⟩

/-- A drain that finds sprite changes queued, each to a sprite that is there, runs them one
after another and ends with the queue empty. -/
theorem drainLog_restyles : ∀ (ts : List SceneTask) {u : World} {fuel n : Nat}, u.loop.stopped = false →
    u.loop.queue = ts.map .run → (∀ t ∈ ts, ∃ k, t.sprite? = some k ∧ k < u.sprites.length) →
    ts.length ≤ fuel →
    (sceneEngine.drainLog fuel u n).abort = none ∧ (sceneEngine.drainLog fuel u n).ran = n + ts.length ∧
      (sceneEngine.drainLog fuel u n).world = ts.foldl restyle { u with loop := { u.loop with queue := [] } } := by
  intro ts u fuel n hs hq hts hfuel
  obtain ⟨f, rfl⟩ : ∃ f, fuel = ts.length + f := ⟨fuel - ts.length, by omega⟩
  -- sprite changes are widget changes with nothing queued behind them
  obtain ⟨taken, hlog⟩ := @drainLog_retouches ts u f n [] hs (by rw [hq, List.append_nil]) fun t ht => by
    obtain ⟨k, hk, hlt⟩ := hts t ht
    exact widgetChange_of_sprite hk hlt
  have hfold : ts.foldl retouch { u with loop := { u.loop with queue := [] } } =
      ts.foldl restyle { u with loop := { u.loop with queue := [] } } :=
    List.foldl_ext _ _ _ fun w t ht => by
      obtain ⟨k, hk, -⟩ := hts t ht
      exact retouch_of_sprite hk
  -- so the drain finds the queue empty once they have run
  have hend : sceneEngine.drainLog f (ts.foldl restyle { u with loop := { u.loop with queue := [] } }) (n + ts.length) =
      ⟨ts.foldl restyle { u with loop := { u.loop with queue := [] } }, n + ts.length, none, []⟩ := by
    rw [foldl_restyle_withLoop]
    cases f with
    | zero => rfl
    | succ f => exact Engine.drainLog_of_empty hs rfl
  rw [hlog, hfold, hend]
  exact ⟨rfl, rfl, rfl⟩

/-- **Draining sprite changes.** Between drains, with only sprite changes queued, each to a
sprite that is there, a drain runs them all in the order they were queued, answers how many there
were, and leaves the queue empty and the rest of the loop as it was. -/
theorem drain_restyles {ts : List SceneTask} (hd : w.loop.draining = false) (hs : w.loop.stopped = false)
    (hq : w.loop.queue = ts.map .run) (hts : ∀ t ∈ ts, ∃ k, t.sprite? = some k ∧ k < w.sprites.length) :
    drain w = .ok ts.length (ts.foldl restyle { w with loop := { w.loop with queue := [] } }) := by
  have hbudget := queue_length_lt_budget w
  rw [hq, List.length_map] at hbudget
  obtain ⟨habort, hran, hworld⟩ := drainLog_restyles ts (n := 0)
    (u := { w with loop := { w.loop with draining := true } }) hs hq hts (Nat.le_of_lt hbudget)
  have hrun := sceneEngine.runPending_of_idle hd
  have hmark : sceneEngine.modifyLoop w (fun l => { l with draining := true }) =
      { w with loop := { w.loop with draining := true } } := rfl
  rw [Engine.pendingLog, hmark] at hrun
  unfold drain
  rw [hrun]
  simp only [Drained.outcome, habort, hran, Nat.zero_add, hworld, Engine.modifyLoop, sceneEngine_loop,
    sceneEngine_setLoop, foldl_restyle_withLoop]
  -- the draining mark comes off again
  congr 2
  rw [hd]

end Draining

end World

end Proscenium
