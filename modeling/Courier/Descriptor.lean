import Courier.Credential
import Courier.Http.Method

/-!
# Request descriptors

A descriptor says all that one call needs: path, verb, version, headers, parameters and how it is to
be treated.  A `Request` is anything that answers the same questions; most answers have defaults.
-/

namespace Courier

/-- The members of a JSON object. -/
abbrev Parameters := Table Json.Value

/-- The version of requests that do not say otherwise. -/
def defaultVersion : UInt32 := 3

/-- What can be sent: only the path has no default. -/
class Request (ρ : Type) where
  path : ρ → String
  version : ρ → UInt32 := fun _ => defaultVersion
  method : ρ → Http.Method := fun _ => .get
  header : ρ → Table Json.Value := fun _ => ∅
  parameters : ρ → Option Parameters := fun _ => none
  isAuthenticated : ρ → Bool := fun _ => true
  credential : ρ → Option Credential := fun _ => none
  autoRetry : ρ → Bool := fun _ => true

/-- A plain request. -/
structure Descriptor where
  version : UInt32
  path : String
  method : Http.Method
  header : Table Json.Value
  parameters : Option Parameters
  isAuthenticated : Bool
  credential : Option Credential
  autoRetry : Bool

instance : Request Descriptor where
  path := Descriptor.path
  version := Descriptor.version
  method := Descriptor.method
  header := Descriptor.header
  parameters := Descriptor.parameters
  isAuthenticated := Descriptor.isAuthenticated
  credential := Descriptor.credential
  autoRetry := Descriptor.autoRetry

namespace Descriptor

/-- The descriptor of a path with all defaults. -/
def new (path : String) : Descriptor :=
  ⟨defaultVersion, path, .get, ∅, none, true, none, true⟩

/-- The answers of a request. -/
def capture {ρ : Type} [Request ρ] (r : ρ) : Descriptor :=
  ⟨Request.version r, Request.path r, Request.method r, Request.header r, Request.parameters r,
    Request.isAuthenticated r, Request.credential r, Request.autoRetry r⟩

/-- Sets the version. -/
def withVersion (d : Descriptor) (version : UInt32) : Descriptor := { d with version := version }

/-- Sets the verb. -/
def withMethod (d : Descriptor) (method : Http.Method) : Descriptor := { d with method := method }

/-- Sets one header. -/
def withHeader (d : Descriptor) (name : String) (value : Json.Value) : Descriptor :=
  { d with header := d.header.insert name value }

/-- Sets all parameters. -/
def withParameters (d : Descriptor) (parameters : Parameters) : Descriptor :=
  { d with parameters := some parameters }

/-- Sets whether a credential is sent. -/
def withAuthenticated (d : Descriptor) (authenticated : Bool) : Descriptor :=
  { d with isAuthenticated := authenticated }

/-- Sets the credential to send. -/
def withCredential (d : Descriptor) (c : Credential) : Descriptor := { d with credential := some c }

/-- Sets whether failed attempts may be repeated. -/
def withAutoRetry (d : Descriptor) (autoRetry : Bool) : Descriptor :=
  { d with autoRetry := autoRetry }

/-- Equality of optional parameters. -/
def sameParameters : Option Parameters → Option Parameters → Bool
  | none, none => true
  | some xs, some ys => Json.Value.sameMembers xs.entries ys.entries
  | _, _ => false

/-- Equality of descriptors; JSON values are compared as values. -/
def same (a b : Descriptor) : Bool :=
  a.version == b.version && a.path == b.path && a.method == b.method
    && Json.Value.sameMembers a.header.entries b.header.entries
    && sameParameters a.parameters b.parameters && a.isAuthenticated == b.isAuthenticated && a.credential == b.credential
    && a.autoRetry == b.autoRetry

end Descriptor

end Courier
