import Courier.Http.FailureCode
import Courier.Json.Error
import Courier.Yaml.Error

/-!
# Errors

Every way in which preparing or sending a request can fail.  A cause carries its data; `message` has
the wording.  Only failures of a server that may pass and failures to reach it are worth another
attempt.
-/

namespace Courier

/-- Where an error belongs: the field that is at fault, details, and the part that found it. -/
structure Context where
  fieldPath : Option String
  details : Option String
  source : Option String
  deriving DecidableEq, Repr, Inhabited

namespace Context

/-- Nothing is known. -/
def none : Context := ⟨.none, .none, .none⟩

/-- Sets the field at fault. -/
def withFieldPath (c : Context) (path : String) : Context := { c with fieldPath := some path }

/-- Sets the details. -/
def withDetails (c : Context) (details : String) : Context := { c with details := some details }

/-- Sets the part that found the error. -/
def withSource (c : Context) (source : String) : Context := { c with source := some source }

/-- The parts that are known, each behind its label. -/
def parts (c : Context) : List String :=
  (c.fieldPath.map ("field: " ++ ·)).toList ++ (c.details.map ("details: " ++ ·)).toList
    ++ (c.source.map ("source: " ++ ·)).toList

/-- What stands behind a message: the known parts in parentheses, or nothing. -/
def suffix (c : Context) : String :=
  if c.parts = [] then "" else " (" ++ String.intercalate ", " c.parts ++ ")"

end Context

/-- Why an exchange with a server gave no response. -/
inductive ExchangeFailure where
  | timeout
  | connect
  | other
  deriving DecidableEq, Repr

/-- Why a request did not get through. -/
inductive TransportFailure where
  | exchange (f : ExchangeFailure)
  | other (message : String)
  deriving DecidableEq, Repr

/-- Why a file could not be read as text. -/
inductive FileFault where
  | missing
  | directory
  | denied
  | notText
  deriving DecidableEq, Repr

/-- A response other than 200 to 299. -/
structure Rejection where
  status : Nat
  code : Http.FailureCode
  message : String
  retryable : Bool
  retryAfter : Option UInt32
  deriving DecidableEq, Repr

/-- Why a request failed. -/
inductive Error where
  | missingCredential (path : String)
  | invalidPath (path reason : String)
  | unsupportedMethod (method : String)
  | configuration (message : String) (context : Context)
  | validation (message : String) (context : Context)
  | transport (failure : TransportFailure)
  | file (fault : FileFault)
  | json (error : Json.Error)
  | yaml (error : Yaml.Error)
  | rejected (r : Rejection)

/-- The wording of an exchange failure. -/
def ExchangeFailure.message : ExchangeFailure → String
  | .timeout => "operation timed out"
  | .connect => "error trying to connect"
  | .other => "error sending request"

/-- Whether another attempt may get through. -/
def ExchangeFailure.transient : ExchangeFailure → Bool
  | .other => false
  | _ => true

namespace TransportFailure

/-- The wording of a transport failure. -/
def message : TransportFailure → String
  | .exchange f => "HTTP error: " ++ f.message
  | .other m => "Transport error: " ++ m

/-- Whether another attempt may get through. -/
def transient : TransportFailure → Bool
  | .exchange f => f.transient
  | .other _ => false

end TransportFailure

/-- The wording of a file fault. -/
def FileFault.message : FileFault → String
  | .missing => "No such file or directory (os error 2)"
  | .directory => "Is a directory (os error 21)"
  | .denied => "Permission denied (os error 13)"
  | .notText => "stream did not contain valid UTF-8"

namespace Error

/-- The wording of an error. -/
def message : Error → String
  | .missingCredential path =>
    "Missing credential: " ++ path ++ " requires authentication but no credential was resolved"
  | .invalidPath path reason => "Invalid path " ++ Text.quoted path ++ ": " ++ reason
  | .unsupportedMethod method => "Unsupported HTTP method: " ++ method
  | .configuration m context => "Configuration error: " ++ m ++ context.suffix
  | .validation m context => "Validation error: " ++ m ++ context.suffix
  | .transport f => "Network transport error: " ++ f.message
  | .file f => "I/O error: " ++ f.message
  | .json e => "Serialization error: " ++ e.message
  | .yaml e => "YAML error: " ++ e.message
  | .rejected r =>
    "Remote error: HTTP " ++ Text.decimal r.status ++ " (" ++ r.code.text ++ "): " ++ r.message

/-- The messages of an error and of what caused it, outermost first. -/
def chain (e : Error) : List String :=
  e.message ::
    (match e with
      | .transport (.exchange f) => [(TransportFailure.exchange f).message, f.message]
      | .transport f => [f.message]
      | .file f => [f.message]
      | .json e => [e.message]
      | .yaml e => [e.message]
      | _ => [])

/-- Where an error belongs, if that is known. -/
def context? : Error → Option Context
  | .configuration _ context => some context
  | .validation _ context => some context
  | _ => none

/-- Whether sending the same request again may help. -/
def retryable : Error → Bool
  | .rejected r => r.retryable
  | .transport f => f.transient
  | _ => false

/-- The delay that a server asked for, in milliseconds. -/
def retryAfter? : Error → Option UInt32
  | .rejected r => r.retryAfter
  | _ => none

/-- The status of a response that is an error. -/
def status? : Error → Option Nat
  | .rejected r => some r.status
  | _ => none

end Error

end Courier
