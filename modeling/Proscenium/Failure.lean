import Proscenium.Geometry.Basic
import Proscenium.Text.Quoted

/-!
# Failures

An operation that does not produce its value fails in one of four ways. It may *return* a
`Fault` (a load that found nothing, a refused geometry), or a `SizeError` from a size check. It
may *abort*: an unrecoverable condition (a broken precondition, a fatal load, an arithmetic
overflow, a task's own failure) unwinds with a text, and whoever catches it sees only that text.
Or a request may name something that does not exist (`no view 9`).

An abort's text decides its kind: `precondition violated: …` is a broken precondition and
`fatal: …` an unrecoverable fault; any other text is a plain abort.

A script command's effect (`Step`) is the session it leaves with such an outcome.
-/

namespace Proscenium

/-- A failure that a call reports by returning it. -/
inductive Fault where
  | precondition (detail : String)
  | resourceLoad (detail : String)
  | runLoop (detail : String)
  | geometry (detail : String)
  | internal (detail : String)
deriving Repr, DecidableEq

/-- The text of a fault: its class, a colon, then the detail. -/
def Fault.message : Fault → String
  | .precondition d => "precondition violated: " ++ d
  | .resourceLoad d => "resource load: " ++ d
  | .runLoop d => "runloop: " ++ d
  | .geometry d => "geometry: " ++ d
  | .internal d => "internal: " ++ d

/-- A fault as diagnostics describe it: the name of its class, then the detail quoted. -/
def Fault.describe : Fault → String
  | .precondition d => "Precondition(" ++ Text.quoted d ++ ")"
  | .resourceLoad d => "ResourceLoad(" ++ Text.quoted d ++ ")"
  | .runLoop d => "RunLoop(" ++ Text.quoted d ++ ")"
  | .geometry d => "Geometry(" ++ Text.quoted d ++ ")"
  | .internal d => "Internal(" ++ Text.quoted d ++ ")"

/-- A refused size seen as a geometry fault, its text kept as the detail. -/
def Fault.ofSizeError (e : SizeError) : Fault := .geometry e.message

/-- Why an operation produced no value. -/
inductive Failure where
  /-- A fault returned by the operation. -/
  | fault (f : Fault)
  /-- A size refused by `Size.validate`. -/
  | size (e : SizeError)
  /-- An abort, with its text. -/
  | abort (text : String)
  /-- The request names something that does not exist. -/
  | request (text : String)

namespace Failure

/-- The abort raised by a broken precondition. -/
def violation (detail : String) : Failure := .abort ("precondition violated: " ++ detail)

/-- The abort raised when a fault cannot be recovered from. -/
def fatal (f : Fault) : Failure := .abort ("fatal: " ++ f.message)

/-- The abort raised by insisting on the value of a result that holds an error, described by
`what`. -/
def unwrapFailed (what : String) : Failure :=
  .abort ("called `Result::unwrap()` on an `Err` value: " ++ what)

/-- The abort raised by a sum outside the signed 64-bit range. -/
def addOverflow : Failure := .abort "attempt to add with overflow"

/-- The abort raised by a product outside the signed 64-bit range. -/
def mulOverflow : Failure := .abort "attempt to multiply with overflow"

/-- The text a failure carries. -/
def message : Failure → String
  | .fault f => f.message
  | .size e => e.message
  | .abort t => t
  | .request t => t

end Failure

/-- The classes a failure falls into when it is reported. -/
inductive FailureKind where
  | precondition | resourceLoad | runLoop | geometry | internal
  | negativeSize | nonFiniteSize
  | violation | fatal | abort
  | request
deriving Repr, DecidableEq

/-- The class of a failure; an abort is classed by the start of its text. -/
def Failure.kind : Failure → FailureKind
  | .fault (.precondition _) => .precondition
  | .fault (.resourceLoad _) => .resourceLoad
  | .fault (.runLoop _) => .runLoop
  | .fault (.geometry _) => .geometry
  | .fault (.internal _) => .internal
  | .size (.negative _ _) => .negativeSize
  | .size (.nonFinite _ _) => .nonFiniteSize
  | .abort t =>
    if t.startsWith "precondition violated: " then .violation
    else if t.startsWith "fatal: " then .fatal
    else .abort
  | .request _ => .request

/-- A computation that may fail. -/
abbrev Outcome (α : Type) := Except Failure α

/-! ## Script steps

A script drives a session one command at a time. Each command leaves the session in a new state,
answers a value or a failure, and reports the events recorded while it ran, in order. -/

/-- One command's effect: the session after it, its answer, and the events recorded while it
ran. -/
structure Step (σ ε ρ : Type) where
  world : σ
  answer : Outcome ρ
  events : List ε

/-- A command argument as decoded: its value, or why it is malformed. A command that checks
something else first (a lock, a lookup) takes such arguments and reads them only when it gets
to them, so that the earlier check is the one reported. -/
abbrev Field (α : Type) := Except String α

/-! ## Signed 64-bit words

Integer quantities of the domain (texture sizes, tile coordinates, stacking indices) are signed
64-bit words. They are kept as `Int` values inside the word range; arithmetic that would leave the
range aborts instead of wrapping. -/

/-- The least word, `-2^63`. -/
def wordMin : Int := -Int.ofNat (Nat.pow 2 63)

/-- The greatest word, `2^63 - 1`. -/
def wordMax : Int := Int.ofNat (Nat.pow 2 63) - 1

/-- Is the integer a signed 64-bit word? -/
def IsWord (i : Int) : Prop := wordMin ≤ i ∧ i ≤ wordMax

instance (i : Int) : Decidable (IsWord i) := inferInstanceAs (Decidable (_ ∧ _))

/-- The word sum, or the overflow abort. -/
def wordAdd (a b : Int) : Outcome Int :=
  if IsWord (a + b) then .ok (a + b) else .error .addOverflow

/-- The word product, or the overflow abort. -/
def wordMul (a b : Int) : Outcome Int :=
  if IsWord (a * b) then .ok (a * b) else .error .mulOverflow

/-- The nearest word to an integer. -/
def saturate (i : Int) : Int := max wordMin (min wordMax i)

end Proscenium
