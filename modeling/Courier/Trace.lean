import Courier.Error
import Courier.Http.Method

/-!
# Trace events

What is reported while a request is carried out.  Looking a credential up reports what is wrong with
the secret store; the dispatcher reports that a plan is carried out and how each attempt ended.
-/

namespace Courier

/-- One report. -/
inductive Event where
  /-- The secret store cannot be opened. -/
  | storeUnavailable (error : String)
  /-- The secret store has no token for a session. -/
  | noEntry (session error : String)
  /-- A lookup in the secret store did not end. -/
  | lookupAborted (error : String)
  | begun (method : Http.Method) (path : String) (hasBody : Bool) (queryLength : Nat)
      (autoRetry : Bool)
  | succeeded (method : Http.Method) (path : String) (status : Nat) (attempt : UInt32)
  | failed (method : Http.Method) (path : String) (status : Option Nat) (attempt : UInt32)
      (error : String)
  deriving DecidableEq, Repr

/-- How much a report matters. -/
inductive Level where
  | debug
  | info
  deriving DecidableEq, Repr

/-- The part of the program that makes a report. -/
inductive Reporter where
  | credentials
  | dispatcher
  deriving DecidableEq, Repr

namespace Event

/-- A failed attempt matters more than the rest. -/
def level : Event → Level
  | .failed .. => .info
  | _ => .debug

/-- The wording of a report. -/
def message : Event → String
  | .storeUnavailable _ => "keyring unavailable"
  | .noEntry .. => "no keyring entry"
  | .lookupAborted _ => "keyring lookup task failed"
  | .begun .. => "dispatching request"
  | .succeeded .. => "request succeeded"
  | .failed .. => "request attempt failed"

/-- Who makes a report. -/
def reporter : Event → Reporter
  | .storeUnavailable _ => .credentials
  | .noEntry .. => .credentials
  | .lookupAborted _ => .credentials
  | .begun .. => .dispatcher
  | .succeeded .. => .dispatcher
  | .failed .. => .dispatcher

/-- The trace of the dispatcher: the reports that it makes itself. -/
def trace (events : List Event) : List Event := events.filter fun e => e.reporter == .dispatcher

end Event

/-! ## Results with reports -/

/-- What something came to, and what was reported meanwhile. -/
structure Reported (α : Type) where
  result : Except Error α
  events : List Event

namespace Reported

variable {α β : Type}

/-- A result without a report. -/
def silent (result : Except Error α) : Reported α := ⟨result, []⟩

/-- One thing after another, unless the first one fails. -/
def andThen (x : Reported α) (f : α → Reported β) : Reported β :=
  match x.result with
  | .error e => ⟨.error e, x.events⟩
  | .ok a => ⟨(f a).result, x.events ++ (f a).events⟩

instance : Monad Reported where
  pure a := silent (.ok a)
  bind := andThen

end Reported

end Courier
