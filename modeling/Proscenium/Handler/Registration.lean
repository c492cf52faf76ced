import Proscenium.Failure

/-!
# Registrations and bundles

Adding a handler mints a *registration*: the means to remove exactly that handler again. Removing
twice is harmless, and so is removing after the registry itself is gone. Some registrations
remove nothing, and a registration may carry a removal that fails with a fault.

A *bundle* holds registrations in the order they were pushed. Deregistering a bundle attempts
every removal in order, even after one fails, answers the first fault, and leaves the bundle
empty. A *scoped* bundle deregisters what it still holds when it is dropped, ignoring faults; a
plain bundle leaves its handlers alone.

Removals act on a world `σ`; a world says what a removal does with a function
`σ → Registration ρ → σ × Except Fault Unit`, where `ρ` names a registry of that world.
-/

namespace Proscenium

/-- How to remove one handler again. -/
inductive Registration (ρ : Type) where
  /-- Remove the member under `token` from the registry `registry`, if both still exist. -/
  | entry (registry : ρ) (token : Nat)
  /-- Nothing to remove. -/
  | nothing
  /-- A removal that fails with `fault`. -/
  | failing (fault : Fault)
deriving Inhabited

/-- Registrations held together, and whether dropping the bundle removes them. -/
structure Bundle (ρ : Type) where
  items : List (Registration ρ)
  removeOnDrop : Bool
deriving Inhabited

namespace Bundle

variable {ρ σ : Type}

/-- An empty bundle. -/
def empty (removeOnDrop : Bool) : Bundle ρ := ⟨[], removeOnDrop⟩

/-- Keep one more registration. -/
def push (b : Bundle ρ) (r : Registration ρ) : Bundle ρ := { b with items := b.items ++ [r] }

/-- Keep several more, in order. -/
def extend (b : Bundle ρ) (rs : List (Registration ρ)) : Bundle ρ := { b with items := b.items ++ rs }

@[simp] theorem items_push (b : Bundle ρ) (r : Registration ρ) : (b.push r).items = b.items ++ [r] :=
  rfl

@[simp] theorem items_extend (b : Bundle ρ) (rs : List (Registration ρ)) :
    (b.extend rs).items = b.items ++ rs := rfl

/-- Attempt every removal in order; answer the first fault. -/
def removeAll (remove : σ → Registration ρ → σ × Except Fault Unit) :
    σ → List (Registration ρ) → σ × Except Fault Unit
  | w, [] => (w, .ok ())
  | w, r :: rs =>
    let (w', first) := remove w r
    let (w'', rest) := removeAll remove w' rs
    (w'', match first with
      | .error f => .error f
      | .ok () => rest)

/-- Deregister everything held: every removal is attempted, the first fault is answered, and
the bundle is left empty. -/
def deregisterAll (remove : σ → Registration ρ → σ × Except Fault Unit) (w : σ) (b : Bundle ρ) :
    σ × Except Fault Unit × Bundle ρ :=
  let (w', r) := removeAll remove w b.items
  (w', r, { b with items := [] })

/-- A bundle is empty after deregistering. -/
@[simp] theorem items_deregisterAll (remove : σ → Registration ρ → σ × Except Fault Unit) (w : σ)
    (b : Bundle ρ) : (deregisterAll remove w b).2.2.items = [] := rfl

/-- Drop the bundle: a scoped bundle deregisters what it holds, ignoring faults. -/
def release (remove : σ → Registration ρ → σ × Except Fault Unit) (w : σ) (b : Bundle ρ) : σ :=
  if b.removeOnDrop then (removeAll remove w b.items).1 else w

end Bundle

end Proscenium
