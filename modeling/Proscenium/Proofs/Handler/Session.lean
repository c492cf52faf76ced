import Proscenium.Handler.TaggedRegistry
import Proscenium.Proofs.Handler.Tokens

/-!
# Sessions of tagged handlers

A registry session is a list model of its members: whatever commands run, and whatever
handlers do while a dispatch runs, the registry is changed only by appending a member under a
new token and by removing the member under a token.

* `Changes` says once what any command, handler call or removal may do: the registry lives on
  changed only by additions and removals (or is dropped), and every registration held
  afterwards was held before or names a token already handed out.
* From it, `WellFormed` (tokens increasing and below the counter, registrations naming issued
  tokens) holds of every session a script reaches, and a member once removed never comes back.
* A dispatch calls the members it found when it began, once each and in order, and nothing
  else; it answers their number unless one of them aborts.
-/

namespace Proscenium

namespace RegistrySession

variable {α : Type}

/-! ## What a session holds -/

/-- Every registration the session holds: those in their slots, in order, then those in the
bundle. -/
def registrations (s : RegistrySession α) : List (Registration Unit) :=
  s.held.filterMap id ++ (s.bundle.map Bundle.items).getD []

/-- A registration names a token the live registry has handed out (one that removes nothing
names none). -/
def Issued (s : RegistrySession α) (g : Registration Unit) : Prop :=
  ∀ r, s.registry = some r → ∀ tok, g = .entry () tok → tok < r.next

/-- The live registry is well formed, and every registration held names an issued token. -/
structure WellFormed (s : RegistrySession α) : Prop where
  registry : ∀ r, s.registry = some r → r.WellFormed
  issued : ∀ g ∈ s.registrations, s.Issued g

/-- What a step may do: the registry lives on, changed only by additions and removals, or is
dropped; a registration held afterwards was held before or names an issued token. -/
structure Changes (s s' : RegistrySession α) : Prop where
  registry : s'.registry = none ∨
    ∃ r r', s.registry = some r ∧ s'.registry = some r' ∧ r.Evolves r'
  kept : ∀ g ∈ s'.registrations, g ∈ s.registrations ∨ s'.Issued g

namespace Changes

variable {s s' s'' : RegistrySession α}

theorem refl (s : RegistrySession α) : Changes s s :=
  ⟨match s.registry with
    | none => .inl rfl
    | some r => .inr ⟨r, r, rfl, rfl, .refl r⟩,
   fun _ hg => .inl hg⟩

/-- An issued token stays issued while the registry evolves. -/
theorem issued (hc : Changes s s') {g : Registration Unit} (hg : s.Issued g) : s'.Issued g := by
  intro r' hr' tok htok
  rcases hc.registry with h | ⟨r, r'', hr, hr'', he⟩
  · rw [h] at hr'
    cases hr'
  · rw [hr''] at hr'
    cases hr'
    exact Nat.lt_of_lt_of_le (hg r hr tok htok) he.next_le

theorem trans (h₁ : Changes s s') (h₂ : Changes s' s'') : Changes s s'' := by
  refine ⟨?_, fun g hg => ?_⟩
  · rcases h₂.registry with h | ⟨r', r'', hr', hr'', he₂⟩
    · exact .inl h
    · rcases h₁.registry with h | ⟨r, r₁, hr, hr₁, he₁⟩
      · rw [h] at hr'
        cases hr'
      · rw [hr'] at hr₁
        cases hr₁
        exact .inr ⟨r, r'', hr, hr'', he₁.trans he₂⟩
  · rcases h₂.kept g hg with hg' | hi
    · rcases h₁.kept g hg' with hg'' | hi
      · exact .inl hg''
      · exact .inr (h₂.issued hi)
    · exact .inr hi

/-- A well-formed session stays well formed. -/
theorem wellFormed (hc : Changes s s') (hw : s.WellFormed) : s'.WellFormed := by
  refine ⟨fun r' hr' => ?_, fun g hg => ?_⟩
  · rcases hc.registry with h | ⟨r, r'', hr, hr'', he⟩
    · rw [h] at hr'
      cases hr'
    · rw [hr''] at hr'
      cases hr'
      exact he.wellFormed (hw.registry r hr)
  · rcases hc.kept g hg with hg' | hi
    · exact hc.issued (hw.issued g hg')
    · exact hi

/-- The events recorded so far do not matter to what a session holds. -/
theorem clear_left (es : List (RegistryEvent α)) (h : Changes { s with events := es } s') :
    Changes s s' :=
  ⟨h.registry, h.kept⟩

theorem clear_right {es : List (RegistryEvent α)} (h : Changes s s') :
    Changes s { s' with events := es } :=
  ⟨h.registry, h.kept⟩

/-- A step that keeps the registry and holds no registration it did not hold before. -/
theorem of_subset (hr : s'.registry = s.registry)
    (hg : ∀ g ∈ s'.registrations, g ∈ s.registrations) : Changes s s' := by
  refine ⟨?_, fun g h => .inl (hg g h)⟩
  rw [hr]
  exact (Changes.refl s).registry

/-- Replacing the bundle, after some change, by one holding only registrations held. -/
theorem of_bundle (hc : Changes s s') (hreg : s''.registry = s'.registry) (hheld : s''.held = s'.held)
    (hb : ∀ g ∈ (s''.bundle.map Bundle.items).getD [], g ∈ s'.registrations) : Changes s s'' := by
  refine hc.trans (.of_subset hreg fun g hg => ?_)
  rcases List.mem_append.mp hg with hg | hg
  · rw [hheld] at hg
    exact List.mem_append_left _ hg
  · exact hb g hg

end Changes

/-! ## What each operation changes -/

section Operations

variable {s : RegistrySession α} {reg : Registry (TaggedHandler α)}

@[simp] theorem registry_record (s : RegistrySession α) (e : RegistryEvent α) :
    (s.record e).registry = s.registry := rfl

@[simp] theorem held_record (s : RegistrySession α) (e : RegistryEvent α) :
    (s.record e).held = s.held := rfl

@[simp] theorem poisoned_record (s : RegistrySession α) (e : RegistryEvent α) :
    (s.record e).poisoned = s.poisoned := rfl

@[simp] theorem bundle_record (s : RegistrySession α) (e : RegistryEvent α) :
    (s.record e).bundle = s.bundle := rfl

@[simp] theorem registry_register (s : RegistrySession α) (reg : Registry (TaggedHandler α))
    (tag : α) (action : HandlerAction α) :
    (s.register reg tag action).2.registry = some (reg.add ⟨tag, s.held.length, action⟩).2 := rfl

@[simp] theorem poisoned_register (s : RegistrySession α) (reg : Registry (TaggedHandler α))
    (tag : α) (action : HandlerAction α) : (s.register reg tag action).2.poisoned = s.poisoned := rfl

@[simp] theorem fst_register (s : RegistrySession α) (reg : Registry (TaggedHandler α))
    (tag : α) (action : HandlerAction α) : (s.register reg tag action).1 = reg.next := rfl

theorem changes_record (s : RegistrySession α) (e : RegistryEvent α) : Changes s (s.record e) :=
  .of_subset rfl fun _ h => h

theorem changes_remove (s : RegistrySession α) (g : Registration Unit) : Changes s (s.remove g).1 := by
  cases g with
  | entry u token =>
    cases hr : s.registry with
    | none => exact .of_subset (by simp [remove, hr]) fun _ h => by simpa [remove, hr] using h
    | some r =>
      have hs : (s.remove (.entry u token)).1 = { s with registry := some (r.remove token).2 } := by
        simp [remove, hr]
      rw [hs]
      exact ⟨.inr ⟨r, _, hr, rfl, .remove token (.refl r)⟩, fun _ h => .inl h⟩
  | nothing => exact .refl s
  | failing f => exact changes_record s .failingRan

/-- Removing several registrations in turn. -/
theorem changes_removeAll (gs : List (Registration Unit)) (s : RegistrySession α) :
    Changes s (Bundle.removeAll remove s gs).1 := by
  induction gs generalizing s with
  | nil => exact .refl s
  | cons g gs ih => exact (changes_remove s g).trans (ih _)

theorem changes_removeHeld (s : RegistrySession α) (k : Nat) : Changes s (s.removeHeld k).1 := by
  unfold removeHeld
  cases hh : s.held? k with
  | none => exact .refl s
  | some g =>
    simp only
    cases hrm : s.remove g with
    | mk s' res =>
      have hc : Changes s s' := by
        have := changes_remove s g
        rwa [hrm] at this
      cases res with
      | ok u => exact hc
      | error f => exact hc.trans (.of_subset rfl fun _ h => h)

theorem changes_register (hr : s.registry = some reg) (tag : α) (action : HandlerAction α) :
    Changes s (s.register reg tag action).2 :=
  ⟨.inr ⟨reg, _, hr, rfl, .add _ (.refl reg)⟩, fun _ h => .inl h⟩

theorem registrations_mint (s : RegistrySession α) (g : Registration Unit) :
    (s.mint g).2.registrations = s.held.filterMap id ++ g :: (s.bundle.map Bundle.items).getD [] := by
  simp [mint, registrations]

/-- Minting a registration that names an issued token. -/
theorem changes_mint (s : RegistrySession α) (g : Registration Unit) (hg : s.Issued g) :
    Changes s (s.mint g).2 := by
  refine ⟨(Changes.refl s).registry, fun g' h => ?_⟩
  rw [registrations_mint, List.mem_append, List.mem_cons] at h
  rcases h with h | rfl | h
  · exact .inl (List.mem_append_left _ h)
  · exact .inr hg
  · exact .inl (List.mem_append_right _ h)

/-- Adding a handler mints the registration of the token just handed out. -/
theorem changes_addHandler (hr : s.registry = some reg) (tag : α) (action : HandlerAction α) :
    Changes s (s.addHandler reg tag action).2 := by
  refine (changes_register hr tag action).trans (changes_mint _ _ ?_)
  intro r hr' tok htok
  cases hr'
  cases htok
  exact Nat.lt_succ_self _

/-- Calling a handler: it records its tag, then removes a registration or adds a handler. -/
theorem changes_call (s : RegistrySession α) (h : TaggedHandler α) : Changes s (s.call h).1 := by
  have hrec := changes_record s (.called h.tag)
  unfold call
  cases ha : h.action with
  | none => exact hrec
  | removeSelf =>
    simp only
    split
    · exact hrec
    · exact hrec.trans (changes_removeHeld _ _)
  | remove k =>
    simp only
    split
    · exact hrec
    · exact hrec.trans (changes_removeHeld _ _)
  | add t =>
    simp only [registry_record]
    cases hr : s.registry with
    | none => exact hrec
    | some reg =>
      have hreg : (s.record (.called h.tag)).registry = some reg := hr
      simp only
      split
      · exact hrec.trans (changes_register hreg _ _)
      · refine hrec.trans ((changes_register hreg _ _).trans (changes_mint _ _ ?_))
        intro r hr' tok htok
        cases hr'
        cases htok
        exact Nat.lt_succ_self _

/-- Calling handlers in turn, up to the first that aborts. -/
theorem changes_callAll (hs : List (TaggedHandler α)) (s : RegistrySession α) :
    Changes s (s.callAll hs).1 := by
  induction hs generalizing s with
  | nil => exact .refl s
  | cons h hs ih =>
    unfold callAll
    have hc := changes_call s h
    cases hcall : s.call h with
    | mk s' r =>
      rw [hcall] at hc
      cases r with
      | none => exact hc.trans (ih s')
      | some e => exact hc

/-! ## Moving registrations into the bundle -/

/-- Emptying a slot holds no registration that was not held before. -/
theorem mem_filterMap_set_none {l : List (Option (Registration Unit))} {k : Nat}
    {g : Registration Unit} (h : g ∈ (l.set k none).filterMap id) : g ∈ l.filterMap id := by
  obtain ⟨a, ha, hg⟩ := List.mem_filterMap.mp h
  rcases List.mem_or_eq_of_mem_set ha with ha | rfl
  · exact List.mem_filterMap.mpr ⟨a, ha, hg⟩
  · cases hg

theorem mem_of_slot {k : Nat} {g : Registration Unit} (h : s.slot k = .ok g) :
    g ∈ s.held.filterMap id := by
  unfold slot at h
  split at h
  · cases h
  · cases h
  · next r hk =>
    cases h
    exact List.mem_filterMap.mpr ⟨some g, List.mem_of_getElem? hk, rfl⟩

/-- Moving registrations out of their slots keeps the registry and the bundle, and everything
moved or left in a slot was held before. -/
theorem takeAll_moves (rs : List (Field Nat)) (s : RegistrySession α) :
    (s.takeAll rs).1.registry = s.registry ∧ (s.takeAll rs).1.bundle = s.bundle ∧
    (∀ g ∈ (s.takeAll rs).1.held.filterMap id, g ∈ s.held.filterMap id) ∧
    (∀ taken, (s.takeAll rs).2 = .ok taken → ∀ g ∈ taken, g ∈ s.held.filterMap id) := by
  induction rs generalizing s with
  | nil => simp [takeAll]
  | cons f rs ih =>
    cases f with
    | error m => simp [takeAll]
    | ok k =>
      by_cases hp : s.poisoned = true
      · simp [takeAll, hp]
      · cases hk : s.slot k with
        | error e => simp [takeAll, hp, hk]
        | ok g =>
          obtain ⟨hreg, hb, hheld, htaken⟩ := ih { s with held := s.held.set k none }
          rw [takeAll, if_neg hp, hk]
          refine ⟨hreg, hb, fun g' hg' => mem_filterMap_set_none (hheld g' hg'), ?_⟩
          intro taken ht g' hg'
          cases hrest : ({ s with held := s.held.set k none }.takeAll rs).2 with
          | error e => simp [hrest, Except.map] at ht
          | ok rest =>
            simp only [hrest, Except.map, Except.ok.injEq] at ht
            subst ht
            rcases List.mem_cons.mp hg' with rfl | hg'
            · exact mem_of_slot hk
            · exact mem_filterMap_set_none (htaken rest hrest g' hg')

theorem changes_of_takeAll {rs : List (Field Nat)} {s' : RegistrySession α}
    {res : Except Failure (List (Registration Unit))} (h : s.takeAll rs = (s', res)) :
    Changes s s' := by
  obtain ⟨hreg, hbundle, hheld, -⟩ := takeAll_moves rs s
  rw [h] at hreg hbundle hheld
  refine .of_subset hreg fun g hg => ?_
  rw [registrations, hbundle] at hg
  rcases List.mem_append.mp hg with hg | hg
  · exact List.mem_append_left _ (hheld g hg)
  · exact List.mem_append_right _ hg

/-- Moving registrations into the bundle, which must exist. -/
theorem changes_move {rs : List (Field Nat)} {s' : RegistrySession α} {b : Bundle Unit}
    {taken : List (Registration Unit)} (h : s.takeAll rs = (s', .ok taken))
    (hb : s'.bundle = some b) : Changes s { s' with bundle := some (b.extend taken) } := by
  obtain ⟨hreg, hbundle, hheld, htaken⟩ := takeAll_moves rs s
  rw [h] at hreg hbundle hheld htaken
  refine .of_subset hreg fun g hg => ?_
  simp only [registrations, Option.map_some, Option.getD_some, Bundle.items_extend,
    List.mem_append] at hg
  rw [hbundle] at hb
  rcases hg with hg | hg | hg
  · exact List.mem_append_left _ (hheld g hg)
  · exact List.mem_append_right _ (by simp [hb, hg])
  · exact List.mem_append_left _ (htaken taken rfl g hg)

/-- Dropping a bundle: a scoped one deregisters what it holds. -/
theorem changes_release (s : RegistrySession α) (b : Bundle Unit) :
    Changes s (Bundle.release remove s b) := by
  unfold Bundle.release
  split
  · exact changes_removeAll _ _
  · exact .refl s

end Operations

/-- Every command changes a session only as `Changes` allows. -/
theorem changes_step (s : RegistrySession α) (c : RegistryCommand α) :
    Changes s (s.step c).world := by
  apply Changes.clear_left []
  -- every branch ends in `done` on the session it made, which clears the events again
  cases c with
  | add tag action =>
    simp only [step]
    split
    · next reg hr =>
      split
      · exact (Changes.refl _).clear_right
      · -- the action is read first, then the tag; only with both is a handler added
        cases action with
        | error e => exact (Changes.refl _).clear_right
        | ok a =>
          cases tag with
          | error e => exact (Changes.refl _).clear_right
          | ok t => exact (changes_addHandler (s := { s with events := [] }) hr _ _).clear_right
    · exact (Changes.refl _).clear_right
  | deregister r =>
    simp only [step]
    split
    · exact (Changes.refl _).clear_right
    · split
      · exact (Changes.refl _).clear_right
      · exact (changes_remove _ _).clear_right
  | dispatch =>
    simp only [step]
    split
    · next reg hr =>
      have hc := changes_callAll reg.snapshot { s with events := [] }
      split
      · next s' hcall =>
        rw [hcall] at hc
        exact hc.clear_right
      · next s' e hcall =>
        rw [hcall] at hc
        exact hc.clear_right
    · exact (Changes.refl _).clear_right
  | len | isEmpty | snapshot | bundleLen =>
    simp only [step]
    split <;> exact (Changes.refl _).clear_right
  | dropRegistry => exact ⟨.inl rfl, fun g hg => .inl hg⟩
  | noop | failing _ =>
    simp only [step]
    split
    · exact (Changes.refl _).clear_right
    · exact (changes_mint _ _ fun _ _ _ h => by cases h).clear_right
  | bundleNew _ | bundleDrop =>
    simp only [step]
    split
    · exact Changes.of_bundle (changes_release _ _) rfl rfl (by simp [Bundle.empty])
    · exact Changes.of_bundle (.refl _) rfl rfl (by simp [Bundle.empty])
  | bundlePush _ | bundleExtend _ =>
    simp only [step]
    split
    · next s' e hta => exact (changes_of_takeAll hta).clear_right
    · next s' taken hta =>
      split
      · next b hb => exact (changes_move hta hb).clear_right
      · exact (changes_of_takeAll hta).clear_right
  | bundleDeregisterAll =>
    simp only [step]
    split
    · next b hb =>
      exact Changes.of_bundle (changes_removeAll b.items _) rfl rfl (by simp)
    · exact (Changes.refl _).clear_right

/-! ## What the registry commands answer -/

section Commands

variable {s : RegistrySession α} {r : Registry (TaggedHandler α)}

/-- Adding appends the handler under the counter's token and mints its registration. -/
theorem step_add (hr : s.registry = some r) (hp : s.poisoned = false) (t : α) (a : HandlerAction α) :
    s.step (.add (.ok t) (.ok a)) =
      ⟨{ s with
          registry := some ⟨r.next + 1, r.items ++ [(r.next, ⟨t, s.held.length, a⟩)]⟩
          held := s.held ++ [some (.entry () r.next)]
          events := [] },
        .ok (.index s.held.length), []⟩ := by
  simp [step, hr, hp, addHandler, register, mint, Registry.add]

theorem slot_eq_ok {s : RegistrySession α} {k : Nat} {g : Registration Unit} :
    s.slot k = .ok g ↔ s.held[k]? = some (some g) := by
  unfold slot
  split <;> simp_all

/-- Deregistering removes the member under the registration's token, if the registry is live. -/
theorem step_deregister (hp : s.poisoned = false) {k i : Nat} (hk : s.slot k = .ok (.entry () i)) :
    s.step (.deregister k) =
      ⟨{ s with registry := s.registry.map fun r => (r.remove i).2, events := [] }, .ok .none, []⟩ := by
  have hheld := slot_eq_ok.mp hk
  cases hr : s.registry with
  | none => simp [step, hp, slot, hheld, remove, hr, faultOutcome]
  | some r => simp [step, hp, slot, hheld, remove, hr, faultOutcome]

theorem step_len (hr : s.registry = some r) :
    s.step .len = ⟨{ s with events := [] }, .ok (.count r.items.length), []⟩ := by
  simp [step, hr, Registry.size]

theorem step_snapshot (hr : s.registry = some r) :
    s.step .snapshot = ⟨{ s with events := [] }, .ok (.tags (r.items.map (·.2.tag))), []⟩ := by
  simp [step, hr, Registry.snapshot]

end Commands

/-! ## Dispatching

A dispatch calls the members it found when it began; what matters is that a call which does
not abort records its handler's tag and nothing else, and that no call aborts while the lock is
sound and no failing registration is held (`Quiet`). -/

section Dispatch

variable {s : RegistrySession α}

/-- A removal that succeeds records nothing. -/
theorem remove_events {g : Registration Unit} {s' : RegistrySession α} (h : s.remove g = (s', .ok ())) :
    s'.events = s.events := by
  cases g with
  | entry u token =>
    cases hr : s.registry <;> simp [remove, hr] at h <;> rw [← h]
  | nothing =>
    simp only [remove, Prod.mk.injEq] at h
    rw [← h.1]
  | failing f => simp [remove] at h

theorem removeHeld_events {k : Nat} {s' : RegistrySession α} (h : s.removeHeld k = (s', none)) :
    s'.events = s.events := by
  unfold removeHeld at h
  cases hh : s.held? k with
  | none =>
    rw [hh, Prod.mk.injEq] at h
    rw [← h.1]
  | some g =>
    cases hrm : s.remove g with
    | mk s₁ res =>
      simp only [hh, hrm] at h
      cases res with
      | ok u =>
        simp only [Prod.mk.injEq] at h
        rw [← h.1]
        exact remove_events hrm
      | error f => simp at h

/-- A call that does not abort records its handler's tag and nothing else. -/
theorem call_events {h : TaggedHandler α} {s' : RegistrySession α} (hc : s.call h = (s', none)) :
    s'.events = s.events ++ [.called h.tag] := by
  unfold call at hc
  cases ha : h.action with
  | none =>
    simp only [ha, Prod.mk.injEq] at hc
    rw [← hc.1]
    rfl
  | removeSelf | remove k =>
    by_cases hp : s.poisoned = true
    · simp [ha, hp] at hc
    · simp only [ha, poisoned_record, hp, Bool.false_eq_true, if_false] at hc
      exact removeHeld_events hc
  | add t =>
    cases hr : s.registry with
    | none =>
      simp only [ha, registry_record, hr, Prod.mk.injEq] at hc
      rw [← hc.1]
      rfl
    | some reg =>
      by_cases hp : s.poisoned = true
      · simp [ha, hp, hr] at hc
      · simp only [ha, registry_record, hr, poisoned_register, poisoned_record, hp,
          Bool.false_eq_true, if_false, Prod.mk.injEq] at hc
        rw [← hc.1]
        rfl

theorem callAll_events {hs : List (TaggedHandler α)} {s' : RegistrySession α}
    (hc : s.callAll hs = (s', none)) : s'.events = s.events ++ hs.map (.called ·.tag) := by
  induction hs generalizing s with
  | nil =>
    simp only [callAll, Prod.mk.injEq] at hc
    simp [hc.1]
  | cons h hs ih =>
    unfold callAll at hc
    cases hcall : s.call h with
    | mk s₁ r =>
      rw [hcall] at hc
      cases r with
      | some e => cases hc
      | none =>
        rw [ih hc, call_events hcall, List.map_cons, List.append_assoc, List.singleton_append]

/-- The lock is sound and no failing registration is held, so no handler aborts. -/
def Quiet (s : RegistrySession α) : Prop := s.poisoned = false ∧ ∀ f, some (.failing f) ∉ s.held

theorem removeHeld_quiet {k : Nat} (hq : s.Quiet) :
    (s.removeHeld k).2 = none ∧ (s.removeHeld k).1.Quiet := by
  unfold removeHeld
  cases hh : s.held? k with
  | none => exact ⟨rfl, hq⟩
  | some g =>
    have hmem : some g ∈ s.held := by
      unfold held? at hh
      cases hk : s.held[k]? with
      | none => simp [hk] at hh
      | some o =>
        rw [hk, Option.getD_some] at hh
        exact hh ▸ List.mem_of_getElem? hk
    cases g with
    | entry u token =>
      cases hr : s.registry <;> simp [remove, hr] <;> exact hq
    | nothing => exact ⟨rfl, hq⟩
    | failing f => exact absurd hmem (hq.2 f)

theorem call_quiet {h : TaggedHandler α} (hq : s.Quiet) : (s.call h).2 = none ∧ (s.call h).1.Quiet := by
  obtain ⟨hp, hf⟩ := hq
  have hrec : (s.record (.called h.tag)).Quiet := ⟨hp, hf⟩
  unfold call
  cases h.action with
  | none => exact ⟨rfl, hrec⟩
  | removeSelf | remove k =>
    simp only [poisoned_record, hp, Bool.false_eq_true, if_false]
    exact removeHeld_quiet hrec
  | add t =>
    simp only [registry_record]
    cases s.registry with
    | none => exact ⟨rfl, hrec⟩
    | some reg =>
      have hnp : ¬((s.record (.called h.tag)).register reg t .none).2.poisoned = true := by
        simp [hp]
      dsimp only
      rw [if_neg hnp]
      refine ⟨rfl, hp, fun f hmem => ?_⟩
      simp only [mint, List.mem_append, List.mem_singleton] at hmem
      rcases hmem with hmem | hmem
      · exact hf f hmem
      · cases hmem

theorem callAll_quiet {hs : List (TaggedHandler α)} {s' : RegistrySession α} {e : Failure}
    (hc : s.callAll hs = (s', some e)) (hq : s.Quiet) : False := by
  induction hs generalizing s with
  | nil => cases hc
  | cons h hs ih =>
    obtain ⟨hn, hq'⟩ := call_quiet (h := h) hq
    unfold callAll at hc
    cases hcall : s.call h with
    | mk s₁ r =>
      rw [hcall] at hc hn hq'
      cases hn
      exact ih hc hq'

/-- A dispatch that answers has called the members as they stood when it began, once each and
in order, and answers their number. -/
theorem step_dispatch {r : Registry (TaggedHandler α)} (hr : s.registry = some r)
    {a : RegistryAnswer α} (ha : (s.step .dispatch).answer = .ok a) :
    a = .count r.items.length ∧ (s.step .dispatch).events = r.items.map (.called ·.2.tag) := by
  simp only [step, hr] at ha ⊢
  split at ha
  · next s' hcall =>
    simp only [Except.ok.injEq] at ha
    refine ⟨by rw [← ha, Registry.snapshot, List.length_map], ?_⟩
    simp [callAll_events hcall, Registry.snapshot]
  · cases ha

/-- A dispatch answers whenever no handler can abort. -/
theorem step_dispatch_quiet {r : Registry (TaggedHandler α)} (hr : s.registry = some r)
    (hq : s.Quiet) : (s.step .dispatch).answer = .ok (.count r.items.length) := by
  simp only [step, hr]
  split
  · simp [Registry.snapshot]
  · next s' e hcall => exact (callAll_quiet hcall hq).elim

end Dispatch

/-! ## Sessions a script reaches -/

/-- `s'` is what some commands make of `s`, one after another. -/
inductive Reaches (s : RegistrySession α) : RegistrySession α → Prop
  | refl : Reaches s s
  | step {s' : RegistrySession α} (c : RegistryCommand α) : Reaches s s' → Reaches s (s'.step c).world

/-- A session some script makes of a fresh one. -/
def Reachable (s : RegistrySession α) : Prop := Reaches fresh s

section Runs

variable {s s' : RegistrySession α}

theorem Reaches.changes (h : Reaches s s') : Changes s s' := by
  induction h with
  | refl => exact .refl s
  | step c _ ih => exact ih.trans (changes_step _ c)

theorem wellFormed_fresh : (fresh : RegistrySession α).WellFormed := by
  refine ⟨fun r hr => ?_, fun g hg => ?_⟩
  · cases hr
    exact Registry.wellFormed_empty
  · simp [registrations, fresh] at hg

theorem Reachable.wellFormed (h : Reachable s) : s.WellFormed :=
  h.changes.wellFormed wellFormed_fresh

/-- A token handed out and no longer a member never comes back, whatever commands follow. -/
theorem Reaches.not_mem (h : Reaches s s') {r r' : Registry (TaggedHandler α)} {i : Nat}
    (hr : s.registry = some r) (hi : i < r.next) (hn : i ∉ r.tokens) (hr' : s'.registry = some r') :
    i ∉ r'.tokens := by
  rcases h.changes.registry with h' | ⟨r₀, r₁, h₀, h₁, he⟩
  · rw [h'] at hr'
    cases hr'
  · rw [hr] at h₀
    rw [hr'] at h₁
    cases h₀
    cases h₁
    exact he.not_mem hi hn

/-- Deregistering in a well-formed session takes out exactly the member under the
registration's token, a token the registry has handed out, and changes nothing if that member is
gone. -/
theorem WellFormed.deregister (hw : s.WellFormed) {r : Registry (TaggedHandler α)}
    (hr : s.registry = some r) (hp : s.poisoned = false) {k i : Nat}
    (hk : s.slot k = .ok (.entry () i)) :
    i < r.next ∧ (s.step (.deregister k)).answer = .ok .none ∧
      ∃ r', (s.step (.deregister k)).world.registry = some r' ∧
        (∀ pre x post, r.items = pre ++ (i, x) :: post → r'.items = pre ++ post) ∧
        (i ∉ r.tokens → r' = r) := by
  have hi : i < r.next := hw.issued _ (List.mem_append_left _ (mem_of_slot hk)) r hr i rfl
  rw [step_deregister hp hk]
  refine ⟨hi, rfl, (r.remove i).2, by simp [hr], fun pre x post h => ?_, fun hn => ?_⟩
  · exact (hw.registry r hr).items_remove_eq h
  · rw [Registry.remove_of_not_mem hn]

end Runs

/-! ## The registry as a list of members -/

/-- A registry behaves as the list of its members under their tokens, whatever commands came
before and whatever handlers did while dispatches ran. In a live registry the tokens increase
from front to back and stay below the counter. Adding appends the handler under the counter's
token, which no member has (even when the same handler is a member already), and mints the
registration naming it. Deregistering takes out exactly the member under the registration's
token, or changes nothing if it is gone, and succeeds, also once the registry is dropped; a
token gone stays gone whatever follows. `len` and `snapshot` read the list. A dispatch that
answers has called the members as they stood when it began, once each and in order, and answers
their number; it answers whenever no handler can abort. -/
theorem registry_session_is_list_model (s : RegistrySession α) (hs : Reachable s) :
    (∀ r, s.registry = some r →
      (r.tokens.Pairwise (· < ·) ∧ ∀ i ∈ r.tokens, i < r.next) ∧
      (s.poisoned = false → ∀ (t : α) (a : HandlerAction α),
        r.next ∉ r.tokens ∧
        s.step (.add (.ok t) (.ok a)) =
          ⟨{ s with
              registry := some ⟨r.next + 1, r.items ++ [(r.next, ⟨t, s.held.length, a⟩)]⟩
              held := s.held ++ [some (.entry () r.next)]
              events := [] },
            .ok (.index s.held.length), []⟩) ∧
      (s.poisoned = false → ∀ k i, s.slot k = .ok (.entry () i) →
        i < r.next ∧ (s.step (.deregister k)).answer = .ok .none ∧
        ∃ r', (s.step (.deregister k)).world.registry = some r' ∧
          (∀ pre x post, r.items = pre ++ (i, x) :: post → r'.items = pre ++ post) ∧
          (i ∉ r.tokens → r' = r)) ∧
      (∀ i, i < r.next → i ∉ r.tokens → ∀ s' r', Reaches s s' → s'.registry = some r' →
        i ∉ r'.tokens) ∧
      (s.step .len).answer = .ok (.count r.items.length) ∧
      (s.step .snapshot).answer = .ok (.tags (r.items.map (·.2.tag))) ∧
      (∀ a, (s.step .dispatch).answer = .ok a →
        a = .count r.items.length ∧ (s.step .dispatch).events = r.items.map (.called ·.2.tag)) ∧
      (s.Quiet → (s.step .dispatch).answer = .ok (.count r.items.length))) ∧
    (s.registry = none → s.poisoned = false → ∀ k i, s.slot k = .ok (.entry () i) →
      s.step (.deregister k) = ⟨{ s with events := [] }, .ok .none, []⟩) := by
  have hw := hs.wellFormed
  refine ⟨fun r hr => ?_, fun hr hp k i hk => ?_⟩
  · have hwr := hw.registry r hr
    refine ⟨⟨hwr.sorted, hwr.below⟩, fun hp t a => ⟨hwr.next_not_mem, step_add hr hp t a⟩,
      fun hp k i hk => hw.deregister hr hp hk, fun i hi hn s' r' hss' hr' => hss'.not_mem hr hi hn hr',
      by rw [step_len hr], by rw [step_snapshot hr], fun a ha => step_dispatch hr ha,
      step_dispatch_quiet hr⟩
  · rw [step_deregister hp hk, hr]
    rfl

theorem registry_session_is_list_model_after_add :
    let s : RegistrySession Nat := (fresh.step (.add (.ok 7) (.ok .none))).world
    Reachable s ∧ s.registry = some ⟨1, [(0, ⟨7, 0, .none⟩)]⟩ ∧ s.poisoned = false ∧
      s.slot 0 = .ok (.entry () 0) ∧ (s.step (.deregister 0)).answer = .ok .none ∧
      (s.step .len).answer = .ok (.count 1) :=
  have h := (registry_session_is_list_model
    (fresh.step (.add (.ok 7) (.ok .none))).world (.step _ .refl)).1 ⟨1, [(0, ⟨7, 0, .none⟩)]⟩ rfl
  ⟨.step _ .refl, rfl, rfl, rfl, (h.2.2.1 rfl 0 0 rfl).2.1, h.2.2.2.2.1⟩

end RegistrySession

end Proscenium
