import Proscenium.Proofs.Host.Delivery

/-!
# Actions that answer

`Act.Answers x w Q` says that from the world `w` the action `x` answers, without failing, and
that its answer and the world it leaves satisfy `Q`: total correctness at one starting world.
It follows the structure of an action (`Answers.bind`, `Answers.forM`, `Answers.ite`), so a
function's specification is assembled from the specifications of what it calls, and nothing
later unfolds the callee.

The second half says what each arena primitive does when it answers: a lookup of an index that
is present answers its entry, a change answers at once, and queuing answers while the loop is
there.
-/

namespace Proscenium

namespace Act

variable {α β : Type}

/-- From `w`, `x` answers, and its answer and the world it leaves satisfy `Q`. -/
def Answers (x : Act α) (w : World) (Q : α → World → Prop) : Prop :=
  ∃ a w', x w = .ok a w' ∧ Q a w'

namespace Answers

variable {x : Act α} {w : World} {Q Q' : α → World → Prop}

theorem of_apply {a : α} {w' : World} (h : x w = .ok a w') (hq : Q a w') : x.Answers w Q :=
  ⟨a, w', h, hq⟩

/-- Once an action has been run to an answer, answering is its postcondition there. -/
theorem iff_of_apply {a : α} {w' : World} (h : x w = .ok a w') : x.Answers w Q ↔ Q a w' := by
  constructor
  · rintro ⟨b, w₁, hx, hq⟩
    rw [h] at hx
    cases hx
    exact hq
  · exact of_apply h

theorem mono (h : x.Answers w Q) (hq : ∀ a w', Q a w' → Q' a w') : x.Answers w Q' := by
  obtain ⟨a, w', hx, ha⟩ := h
  exact ⟨a, w', hx, hq a w' ha⟩

/-- An action that answers leaves a world its postcondition describes. -/
theorem after (h : x.Answers w Q) : ∃ a, Q a (x.after w) := by
  obtain ⟨a, w', hx, ha⟩ := h
  refine ⟨a, ?_⟩
  unfold Act.after
  rw [hx]
  exact ha

theorem bind {f : α → Act β} {R : β → World → Prop}
    (h : x.Answers w fun a w₁ => (f a).Answers w₁ R) : (x >>= f).Answers w R := by
  obtain ⟨a, w₁, hx, b, w', hf, hr⟩ := h
  exact ⟨b, w', by rw [bind_apply_ok hx, hf], hr⟩

theorem ite {c : Prop} [Decidable c] {y : Act α} (hx : c → x.Answers w Q) (hy : ¬c → y.Answers w Q) :
    (if c then x else y).Answers w Q := by
  split
  · next hc => exact hx hc
  · next hc => exact hy hc

/-- A loop whose every round keeps `P` and answers keeps `P` and answers. -/
theorem forM {l : List α} {f : α → Act PUnit} {P : World → Prop}
    (hf : ∀ a ∈ l, ∀ w, P w → (f a).Answers w fun _ => P) (hw : P w) :
    (l.forM f).Answers w fun _ => P := by
  induction l generalizing w with
  | nil => exact ⟨⟨⟩, w, rfl, hw⟩
  | cons a l ih =>
    refine bind ((hf a List.mem_cons_self w hw).mono fun _ w₁ hw₁ => ?_)
    exact ih (fun b hb => hf b (List.mem_cons_of_mem _ hb)) hw₁

/-- Passing over faults keeps an answer. -/
theorem ignoreFaults {x : Act Unit} {Q : Unit → World → Prop} (h : x.Answers w Q) :
    (Act.ignoreFaults x).Answers w Q := by
  obtain ⟨a, w', hx, ha⟩ := h
  refine ⟨(), w', ?_, ha⟩
  unfold Act.ignoreFaults
  rw [hx]

end Answers

theorem answers_pure {a : α} {w : World} {Q : α → World → Prop} :
    (pure a : Act α).Answers w Q ↔ Q a w :=
  ⟨fun ⟨_, _, h, hq⟩ => by cases h; exact hq, fun h => ⟨a, w, rfl, h⟩⟩

theorem answers_get {w : World} {Q : World → World → Prop} : (get : Act World).Answers w Q ↔ Q w w :=
  answers_pure

theorem answers_modify {f : World → World} {w : World} {Q : Unit → World → Prop} :
    (modify f : Act Unit).Answers w Q ↔ Q () (f w) :=
  answers_pure

theorem answers_modifyGet {f : World → α × World} {w : World} {Q : α → World → Prop} :
    (modifyGet f : Act α).Answers w Q ↔ Q (f w).1 (f w).2 :=
  answers_pure

theorem not_answers_throw {e : Failure} {w : World} {Q : α → World → Prop} :
    ¬(throw e : Act α).Answers w Q :=
  fun ⟨_, _, h, _⟩ => by cases h

/-- Reading an arena at an index: its entry, or an abort naming the arena. -/
theorem read_apply (sel : World → List β) (i : Nat) (what : String) (w : World) :
    (get >>= fun w => lookup (sel w) i what : Act β) w = match (sel w)[i]? with
      | some b => .ok b w
      | none => .error (.abort ("dangling " ++ what ++ " " ++ toString i)) w := by
  rw [bind_apply_ok (get_apply w)]
  unfold lookup
  cases (sel w)[i]? <;> rfl

end Act

open Act

/-! ## The arena primitives -/

section Primitives

variable {α : Type} {w : World} {Q : Unit → World → Prop}

theorem viewAt_apply (w : World) (i : Nat) : viewAt i w = match w.views[i]? with
    | some v => .ok v w
    | none => .error (.abort ("dangling view " ++ toString i)) w :=
  by unfold viewAt; rw [read_apply]; cases w.views[i]? <;> rfl

theorem barAt_apply (w : World) (i : Nat) : barAt i w = match w.bars[i]? with
    | some b => .ok b w
    | none => .error (.abort ("dangling progress bar " ++ toString i)) w :=
  by unfold barAt; rw [read_apply]; cases w.bars[i]? <;> rfl

theorem buttonAt_apply (w : World) (i : Nat) : buttonAt i w = match w.buttons[i]? with
    | some b => .ok b w
    | none => .error (.abort ("dangling button " ++ toString i)) w :=
  by unfold buttonAt; rw [read_apply]; cases w.buttons[i]? <;> rfl

theorem spriteAt_apply (w : World) (i : Nat) : spriteAt i w = match w.sprites[i]? with
    | some s => .ok s w
    | none => .error (.abort ("dangling sprite " ++ toString i)) w :=
  by unfold spriteAt; rw [read_apply]; cases w.sprites[i]? <;> rfl

theorem registryAt_apply (w : World) (i : Nat) : registryAt i w = match w.registries[i]? with
    | some r => .ok r w
    | none => .error (.abort ("dangling registry " ++ toString i)) w :=
  by unfold registryAt; rw [read_apply]; cases w.registries[i]? <;> rfl

theorem answers_nodeAt {i : Nat} {n : NodeState} (h : w.nodes[i]? = some n)
    {Q : NodeState → World → Prop} : (nodeAt i).Answers w Q ↔ Q n w :=
  Answers.iff_of_apply (by rw [nodeAt_apply, h])

theorem answers_viewAt {i : Nat} {v : ViewState} (h : w.views[i]? = some v)
    {Q : ViewState → World → Prop} : (viewAt i).Answers w Q ↔ Q v w :=
  Answers.iff_of_apply (by rw [viewAt_apply, h])

theorem answers_barAt {i : Nat} {b : ProgressState} (h : w.bars[i]? = some b)
    {Q : ProgressState → World → Prop} : (barAt i).Answers w Q ↔ Q b w :=
  Answers.iff_of_apply (by rw [barAt_apply, h])

theorem answers_buttonAt {i : Nat} {b : ButtonState} (h : w.buttons[i]? = some b)
    {Q : ButtonState → World → Prop} : (buttonAt i).Answers w Q ↔ Q b w :=
  Answers.iff_of_apply (by rw [buttonAt_apply, h])

theorem answers_spriteAt {i : Nat} {s : SpriteState} (h : w.sprites[i]? = some s)
    {Q : SpriteState → World → Prop} : (spriteAt i).Answers w Q ↔ Q s w :=
  Answers.iff_of_apply (by rw [spriteAt_apply, h])

theorem answers_interactionAt {i : Nat} {it : Interaction} (h : w.interactions[i]? = some it)
    {Q : Interaction → World → Prop} : (interactionAt i).Answers w Q ↔ Q it w :=
  Answers.iff_of_apply (by rw [interactionAt_apply, h])

theorem answers_registryAt {i : Nat} {r : Registry Handler} (h : w.registries[i]? = some r)
    {Q : Registry Handler → World → Prop} : (registryAt i).Answers w Q ↔ Q r w :=
  Answers.iff_of_apply (by rw [registryAt_apply, h])

/-- While the loop is there, queuing puts the task at the back. -/
theorem post_apply {t : SceneTask} (h : w.loopDropped = false) :
    post t w = .ok () { w with loop := w.loop.post t } := by
  unfold post
  rw [bind_apply_ok (get_apply w), if_neg (by simp [h])]
  rfl

/-- Once the loop is dropped, queuing fails with its fault and changes nothing. -/
theorem post_of_dropped {t : SceneTask} (h : w.loopDropped = true) :
    post t w = .error (.fault loopDroppedFault) w := by
  unfold post
  rw [bind_apply_ok (get_apply w), h]
  rfl

theorem answers_post {t : SceneTask} (h : w.loopDropped = false) :
    (post t).Answers w Q ↔ Q () { w with loop := w.loop.post t } :=
  Answers.iff_of_apply (post_apply h)

theorem modifyNode_apply (i : Nat) (f : NodeState → NodeState) (w : World) :
    modifyNode i f w = .ok () { w with nodes := w.nodes.modify i f } := rfl

theorem modifyView_apply (i : Nat) (f : ViewState → ViewState) (w : World) :
    modifyView i f w = .ok () { w with views := w.views.modify i f } := rfl

theorem modifyRegistry_apply (i : Nat) (f : Registry Handler → Registry Handler) (w : World) :
    modifyRegistry i f w = .ok () { w with registries := w.registries.modify i f } := rfl

theorem modifyBar_apply (i : Nat) (f : ProgressState → ProgressState) (w : World) :
    modifyBar i f w = .ok () { w with bars := w.bars.modify i f } := rfl

theorem modifyButton_apply (i : Nat) (f : ButtonState → ButtonState) (w : World) :
    modifyButton i f w = .ok () { w with buttons := w.buttons.modify i f } := rfl

theorem modifySprite_apply (i : Nat) (f : SpriteState → SpriteState) (w : World) :
    modifySprite i f w = .ok () { w with sprites := w.sprites.modify i f } := rfl

theorem modifyApp_apply (f : AppState → AppState) (w : World) :
    modifyApp f w = .ok () { w with appState := f w.appState } := rfl

theorem record_apply (e : SceneEvent) (w : World) :
    record e w = .ok () { w with events := w.events ++ [e] } := rfl

theorem addNode_apply (n : NodeState) (w : World) :
    addNode n w = .ok w.nodes.length { w with nodes := w.nodes ++ [n] } := rfl

theorem addRegistry_apply (w : World) :
    addRegistry w = .ok w.registries.length { w with registries := w.registries ++ [Registry.empty] } :=
  rfl

theorem mintService_apply (w : World) :
    mintService w = .ok w.services { w with services := w.services + 1 } := rfl

theorem nextZ_apply (w : World) :
    nextZ w = .ok w.loop.nextZ { w with loop := w.loop.allocateZ.2 } := rfl

/-- A new interaction takes two new, empty registries: clicks, then drags. -/
theorem addInteraction_apply (w : World) :
    addInteraction w = .ok w.interactions.length
      { w with
        registries := w.registries ++ [Registry.empty, Registry.empty],
        interactions := w.interactions ++ [⟨w.registries.length, w.registries.length + 1, none⟩] } := by
  simp only [addInteraction, bind_apply, addRegistry_apply, List.length_append, List.length_singleton,
    List.append_assoc, List.singleton_append]
  rfl

theorem addBar_apply (name : String) (w : World) :
    addBar name w = .ok w.bars.length
      { w with
        nodes := w.nodes ++ [NodeState.fresh name .centered true none],
        bars := w.bars ++ [⟨w.nodes.length, BarGeometry.empty, 0, ⟨Point.zero, ⟨0, 0⟩⟩, ""⟩] } := rfl

theorem addButton_apply (name : String) (w : World) :
    addButton name w = .ok w.buttons.length
      { w with
        registries := w.registries ++ [Registry.empty, Registry.empty],
        interactions := w.interactions ++ [⟨w.registries.length, w.registries.length + 1, none⟩],
        nodes := w.nodes ++ [NodeState.fresh name .centered true (some w.interactions.length)],
        buttons := w.buttons ++
          [⟨w.nodes.length, "", 0, .darkGrey, .clear, ⟨Point.zero, ⟨0, 0⟩⟩, w.interactions.length⟩] } := by
  simp only [addButton, bind_apply, addInteraction_apply, addNode_apply]
  rfl

theorem addSprite_apply (w : World) :
    addSprite w = .ok w.sprites.length
      { w with
        registries := w.registries ++ [Registry.empty, Registry.empty],
        interactions := w.interactions ++ [⟨w.registries.length, w.registries.length + 1, none⟩],
        nodes := w.nodes ++ [NodeState.fresh "sprite" .hanging false (some w.interactions.length)],
        sprites := w.sprites ++ [⟨w.nodes.length, none, none, w.interactions.length⟩] } := by
  simp only [addSprite, bind_apply, addInteraction_apply, addNode_apply]
  rfl

theorem attach_apply (parent child : Nat) (w : World) :
    attach parent child w = .ok ()
      { w with
        nodes := (w.nodes.modify child (fun n => { n with parent := some parent })).modify parent
          (fun n => { n with children := n.children ++ [child] }) } := rfl

theorem forM_nil_apply {β : Type} (f : β → Act PUnit) (w : World) : ([] : List β).forM f w = .ok ⟨⟩ w :=
  rfl

theorem forM_cons_apply {β : Type} (b : β) (bs : List β) (f : β → Act PUnit) (w : World) :
    (b :: bs).forM f w = (f b >>= fun _ => bs.forM f) w := rfl

/-- Changing a node at each index of a list, one after another. -/
theorem forM_modifyNode_apply (cs : List Nat) (f : NodeState → NodeState) (w : World) :
    cs.forM (fun c => modifyNode c f) w =
      .ok () { w with nodes := cs.foldl (fun ns c => ns.modify c f) w.nodes } := by
  induction cs generalizing w with
  | nil => rfl
  | cons c cs ih => exact ih _

theorem detachAll_apply {p : Nat} {n : NodeState} (h : w.nodes[p]? = some n) :
    detachAll p w = .ok n.children
      { w with
        nodes := n.children.foldl (fun ns c => ns.modify c (fun m => { m with parent := none }))
          (w.nodes.modify p (fun m => { m with children := [] })) } := by
  simp only [detachAll, bind_apply, nodeAt_apply, h, modifyNode_apply, forM_modifyNode_apply, pure_apply]

end Primitives

end Proscenium
