import Proscenium.Handler.Registry
import Proscenium.Handler.Registration
import Proscenium.Loop.TaggedTasks

/-!
# A registry of tagged handlers

A session holds one registry of handlers that record a tag when called, the registrations it has
minted (numbered from 0 in the order they were minted), and at most one bundle. A handler may
also act every time it is called, after recording its tag: deregister its own registration,
deregister another one, or add a plain handler.

A registration moved into the bundle can no longer be used directly: its slot stays, empty, and
naming it is refused (`registration moved`), unlike a number never handed out (`no such
registration`). Moving several takes them one by one and stops at the first that cannot be
taken; those taken before it are gone. A handler acting on an empty or unknown slot does nothing.
Deregistering is idempotent, and so is deregistering after the registry is gone; a failing
registration fails every time, recording that it ran.

The minted registrations are held under a lock. A handler that deregisters a failing
registration insists on success, so it aborts while holding the lock, and the lock stays
poisoned: from then on every use of the registrations (minting, deregistering, moving one, and
any handler action) aborts as well. Dispatching itself, the registry's own queries and the
bundle are not behind that lock. Three uses take the lock at a point worth noting. Adding a
handler by command takes it before reading the command's action and then its tag, so a poisoned
lock is reported before a malformed argument. A handler that adds a plain handler adds it to the
registry first and takes the lock only to keep the new registration, so on a poisoned lock the
new handler stays in the registry with no number. Moving registrations reads each number, takes
the lock and moves that registration before reading the next number, so moving none never
touches the lock, and a malformed number leaves the ones before it moved and out of the bundle.
-/

namespace Proscenium

/-- What a tagged handler does after recording its tag. -/
inductive HandlerAction (α : Type) where
  | none
  | removeSelf
  | remove (k : Nat)
  | add (tag : α)
deriving Inhabited

/-- A handler: its tag, the number of its own registration, and its action. -/
structure TaggedHandler (α : Type) where
  tag : α
  own : Nat
  action : HandlerAction α
deriving Inhabited

/-- What handlers and removals record. -/
inductive RegistryEvent (α : Type) where
  | called (tag : α)
  | failingRan

/-- The registry (gone once dropped), the minted registrations by number (empty once moved into
the bundle), whether their lock is poisoned, the bundle, and the events recorded so far. -/
structure RegistrySession (α : Type) where
  registry : Option (Registry (TaggedHandler α))
  held : List (Option (Registration Unit))
  poisoned : Bool
  bundle : Option (Bundle Unit)
  events : List (RegistryEvent α)
deriving Inhabited

/-- The commands a session takes. -/
inductive RegistryCommand (α : Type) where
  | add (tag : Field α) (action : Field (HandlerAction α))
  | deregister (r : Nat)
  | dispatch
  | len
  | isEmpty
  | snapshot
  | dropRegistry
  | noop
  | failing (fault : Fault)
  | bundleNew (removeOnDrop : Bool)
  | bundlePush (r : Nat)
  | bundleExtend (rs : List (Field Nat))
  | bundleLen
  | bundleDeregisterAll
  | bundleDrop

/-- What a command answers. -/
inductive RegistryAnswer (α : Type) where
  | none
  | index (r : Nat)
  | count (n : Nat)
  | flag (b : Bool)
  | tags (ts : List α)
  | bundleSize (n : Nat)

namespace RegistrySession

variable {α : Type}

/-- A fresh session: an empty registry, nothing minted, no bundle. -/
def fresh : RegistrySession α := ⟨some Registry.empty, [], false, none, []⟩

/-- The abort on taking a poisoned lock. -/
def poisonAbort : Failure := Failure.unwrapFailed "PoisonError \x7b .. \x7d"

/-- Record an event. -/
def record (s : RegistrySession α) (e : RegistryEvent α) : RegistrySession α :=
  { s with events := s.events ++ [e] }

/-- Carry out one removal. -/
def remove (s : RegistrySession α) : Registration Unit → RegistrySession α × Except Fault Unit
  | .entry () token =>
    (match s.registry with
      | some r => { s with registry := some (r.remove token).2 }
      | none => s, .ok ())
  | .nothing => (s, .ok ())
  | .failing f => (s.record .failingRan, .error f)

/-- The registration numbered `k`, unless it is unknown or moved. -/
def held? (s : RegistrySession α) (k : Nat) : Option (Registration Unit) :=
  (s.held[k]?).getD none

/-- The registration numbered `k`, or why it cannot be used. -/
def slot (s : RegistrySession α) (k : Nat) : Except Failure (Registration Unit) :=
  match s.held[k]? with
  | none => .error (.request "no such registration")
  | some none => .error (.request "registration moved")
  | some (some r) => .ok r

/-- Mint a registration. -/
def mint (s : RegistrySession α) (r : Registration Unit) : Nat × RegistrySession α :=
  (s.held.length, { s with held := s.held ++ [some r] })

/-- Add a handler to the live registry `reg`, numbered as the next registration to be minted;
answer its token. -/
def register (s : RegistrySession α) (reg : Registry (TaggedHandler α)) (tag : α)
    (action : HandlerAction α) : Nat × RegistrySession α :=
  let (token, reg') := reg.add ⟨tag, s.held.length, action⟩
  (token, { s with registry := some reg' })

/-- Add a handler to the live registry `reg`; answer its registration's number. -/
def addHandler (s : RegistrySession α) (reg : Registry (TaggedHandler α)) (tag : α)
    (action : HandlerAction α) : Nat × RegistrySession α :=
  let (token, s') := s.register reg tag action
  s'.mint (.entry () token)

/-- Deregister the registration numbered `k` from inside a handler, which insists on success:
a failure aborts and poisons the lock. Nothing happens if `k` is unknown or moved. -/
def removeHeld (s : RegistrySession α) (k : Nat) : RegistrySession α × Option Failure :=
  match s.held? k with
  | some r =>
    match s.remove r with
    | (s', .ok ()) => (s', none)
    | (s', .error f) => ({ s' with poisoned := true }, some (Failure.unwrapFailed f.describe))
  | none => (s, none)

/-- Call one handler: record its tag, then act. A removal takes the lock first; an addition
adds to the registry, then takes the lock to keep the new registration. -/
def call (s : RegistrySession α) (h : TaggedHandler α) : RegistrySession α × Option Failure :=
  let s := s.record (.called h.tag)
  match h.action with
  | .none => (s, none)
  | .removeSelf => if s.poisoned then (s, some poisonAbort) else s.removeHeld h.own
  | .remove k => if s.poisoned then (s, some poisonAbort) else s.removeHeld k
  | .add t =>
    match s.registry with
    | some reg =>
      let (token, s') := s.register reg t .none
      if s'.poisoned then (s', some poisonAbort) else ((s'.mint (.entry () token)).2, none)
    | none => (s, none)

/-- Call handlers in order, stopping at the first abort. -/
def callAll (s : RegistrySession α) : List (TaggedHandler α) → RegistrySession α × Option Failure
  | [] => (s, none)
  | h :: hs =>
    match s.call h with
    | (s', none) => s'.callAll hs
    | stopped => stopped

/-- Move the registrations numbered `rs` out of their slots, in order, reading each number and
taking the lock for each, and stopping at the first one that cannot be taken; the ones moved
before it stay moved. -/
def takeAll (s : RegistrySession α) :
    List (Field Nat) → RegistrySession α × Except Failure (List (Registration Unit))
  | [] => (s, .ok [])
  | .error m :: _ => (s, .error (.request m))
  | .ok k :: ks =>
    if s.poisoned then (s, .error poisonAbort) else
    match s.slot k with
    | .error e => (s, .error e)
    | .ok r =>
      let (s', rest) := { s with held := s.held.set k none }.takeAll ks
      (s', rest.map (r :: ·))

/-- The failure a registration's fault is reported as. -/
def faultOutcome : Except Fault Unit → Outcome (RegistryAnswer α)
  | .ok () => .ok .none
  | .error f => .error (.fault f)

/-- Run one command. -/
def step (s : RegistrySession α) (c : RegistryCommand α) :
    Step (RegistrySession α) (RegistryEvent α) (RegistryAnswer α) :=
  let s := { s with events := [] }
  let done (s' : RegistrySession α) (a : Outcome (RegistryAnswer α)) : Step _ _ _ :=
    ⟨{ s' with events := [] }, a, s'.events⟩
  let live (k : Registry (TaggedHandler α) → Step (RegistrySession α) (RegistryEvent α) (RegistryAnswer α)) :=
    match s.registry with
    | some reg => k reg
    | none => done s (.error (.request "registry dropped"))
  let locked (k : Unit → Step (RegistrySession α) (RegistryEvent α) (RegistryAnswer α)) :=
    if s.poisoned then done s (.error poisonAbort) else k ()
  let move (rs : List (Field Nat)) :=
    match s.takeAll rs with
    | (s', .error e) => done s' (.error e)
    | (s', .ok taken) =>
      match s'.bundle with
      | some b => done { s' with bundle := some (b.extend taken) } (.ok .none)
      | none => done s' (.error (.request "no bundle"))
  let read {β : Type} (f : Field β)
      (k : β → Step (RegistrySession α) (RegistryEvent α) (RegistryAnswer α)) :=
    match f with
    | .ok b => k b
    | .error m => done s (.error (.request m))
  let withBundle (k : Bundle Unit → Step (RegistrySession α) (RegistryEvent α) (RegistryAnswer α)) :=
    match s.bundle with
    | some b => k b
    | none => done s (.error (.request "no bundle"))
  match c with
  | .add tag action => live fun reg => locked fun () => read action fun a => read tag fun t =>
    let (k, s') := s.addHandler reg t a
    done s' (.ok (.index k))
  | .deregister r => locked fun () =>
    match s.slot r with
    | .error e => done s (.error e)
    | .ok reg =>
      let (s', res) := s.remove reg
      done s' (faultOutcome res)
  | .dispatch => live fun reg =>
    let members := reg.snapshot
    match s.callAll members with
    | (s', none) => done s' (.ok (.count members.length))
    | (s', some e) => done s' (.error e)
  | .len => live fun reg => done s (.ok (.count reg.size))
  | .isEmpty => live fun reg => done s (.ok (.flag (reg.size == 0)))
  | .snapshot => live fun reg => done s (.ok (.tags (reg.snapshot.map (·.tag))))
  | .dropRegistry => done { s with registry := none } (.ok .none)
  | .noop => locked fun () =>
    let (k, s') := s.mint .nothing
    done s' (.ok (.index k))
  | .failing f => locked fun () =>
    let (k, s') := s.mint (.failing f)
    done s' (.ok (.index k))
  | .bundleNew onDrop =>
    let s' := match s.bundle with
      | some b => Bundle.release remove s b
      | none => s
    done { s' with bundle := some (Bundle.empty onDrop) } (.ok .none)
  | .bundlePush r => move [.ok r]
  | .bundleExtend rs => move rs
  | .bundleLen => withBundle fun b => done s (.ok (.bundleSize b.items.length))
  | .bundleDeregisterAll => withBundle fun b =>
    let (s', res, b') := Bundle.deregisterAll remove s b
    done { s' with bundle := some b' } (faultOutcome res)
  | .bundleDrop =>
    let s' := match s.bundle with
      | some b => Bundle.release remove s b
      | none => s
    done { s' with bundle := none } (.ok .none)

end RegistrySession

end Proscenium
