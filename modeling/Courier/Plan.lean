import Courier.Config
import Courier.Descriptor
import Courier.Json.Printer

/-!
# Request plans

A plan is all that is sent for one request, made once and sent as often as needed.  The path is
checked first, then the headers are merged: defaults, the headers of the request, the version, and
the credential last, so that nothing can take its place.
-/

namespace Courier

/-- All that is sent for one request. -/
structure Plan where
  method : Http.Method
  path : String
  url : String
  headers : Http.Headers
  query : List (String × String)
  body : Option Json.Value
  autoRetry : Bool

namespace Plan

/-! ## Paths -/

/-- Whether a text holds another one. -/
def holds (part : List Char) : List Char → Bool
  | [] => part.isEmpty
  | c :: cs => part.isPrefixOf (c :: cs) || holds part cs

/-- A path is not empty, has no scheme, begins with a slash and has neither blanks nor controls. -/
def validatePath (path : String) : Except Error Unit :=
  let cs := path.toList
  if cs = [] then .error (.invalidPath path "path is empty")
  else if holds [':', '/', '/'] cs then
    .error (.invalidPath path "path must be relative to the base URL")
  else if cs.head? ≠ some '/' then .error (.invalidPath path "path must start with '/'")
  else if cs.any fun c => Text.isBlank c || Text.isControl c then
    .error (.invalidPath path "path contains whitespace or control characters")
  else .ok ()

/-- A path behind a base URL, whose slashes at the end are dropped. -/
def joinUrl (baseUrl path : String) : String :=
  String.ofList (Text.dropTrailing (· == '/') baseUrl.toList ++ path.toList)

/-! ## Values as text -/

/-- How a JSON value stands in a header or query: a string as it is, all else as compact JSON, and
`null` not at all. -/
def render? : Json.Value → Option String
  | .null => none
  | .string s => some s
  | v => some v.compactText

/-- The pairs of a query: every parameter that is not `null`, by name. -/
def queryPairs (parameters : Parameters) : List (String × String) :=
  parameters.entries.filterMap fun p => (render? p.2).map fun s => (p.1, s)

/-! ## Headers -/

/-- The header of a session. -/
def sessionHeader : String := "x-session-id"

/-- The header of a request's own id. -/
def requestIdHeader : String := "x-request-id"

/-- The header of the application's version. -/
def appVersionHeader : String := "x-app-version"

/-- The type of all bodies, and of the answers that are asked for. -/
def jsonType : String := "application/json"

/-- The error of a header. -/
def headerError (name details : String) : Error :=
  .validation ("invalid request header " ++ Text.quoted name)
    (((Context.none.withFieldPath ("request.header." ++ name)).withDetails details).withSource
      "header_merge")

/-- The details of a text that is not a header name. -/
def badHeaderName : String := "invalid HTTP header name"

/-- The name of a header in lower case. -/
def headerName (name : String) : Except Error String :=
  match Http.name? name with
  | some n => .ok n
  | none => .error (headerError name badHeaderName)

/-- Sets a header; an earlier value of the name is replaced. -/
def putHeader (headers : Http.Headers) (name value : String) : Except Error Http.Headers := do
  let n ← headerName name
  if Http.isValue value then .ok (headers.insert n value)
  else .error (headerError name Config.badHeaderValue)

/-- The headers that every request has. -/
def defaultHeaders (c : Config) (hasBody : Bool) (requestId : String) :
    Except Error Http.Headers := do
  let headers ← putHeader (Table.insert ∅ "accept" jsonType) "user-agent" c.userAgent
  let headers ←
    match c.appVersion with
    | some v => putHeader headers appVersionHeader v
    | none => .ok headers
  let headers ← putHeader headers requestIdHeader requestId
  .ok (if hasBody then headers.insert "content-type" jsonType else headers)

/-- Sets the headers of a request, in the order of their names as written.  `seen` has the names met
so far, in lower case and as written; two names that differ in case only are refused. -/
def ownHeaders : List (String × String) → List (String × Json.Value) → Http.Headers →
    Except Error Http.Headers
  | _, [], headers => .ok headers
  | seen, (name, value) :: rest, headers => do
    let n ← headerName name
    match seen.lookup n with
    | some other => .error (headerError name ("collides with header " ++ Text.quoted other))
    | none =>
      let headers ←
        match render? value with
        | some s => putHeader headers name s
        | none => .ok headers
      ownHeaders ((n, name) :: seen) rest headers

/-- Sets the headers of a credential. -/
def credentialHeaders (c : Credential) (headers : Http.Headers) : Except Error Http.Headers := do
  let headers ← putHeader headers "authorization" ("Bearer " ++ c.accessToken)
  putHeader headers sessionHeader c.sessionId

/-- All headers of a request. -/
def mergeHeaders (c : Config) (hasBody : Bool) (version : UInt32) (own : Table Json.Value)
    (credential : Option Credential) (requestId : String) : Except Error Http.Headers := do
  let headers ← defaultHeaders c hasBody requestId
  let headers ← ownHeaders [] own.entries headers
  let headers ← putHeader headers c.versionHeader (Text.decimal version.toNat)
  match credential with
  | some k => credentialHeaders k headers
  | none => .ok headers

/-! ## Plans -/

/-- Where parameters travel: in the query, or as the body. -/
def placement (method : Http.Method) :
    Option Parameters → List (String × String) × Option Json.Value
  | none => ([], none)
  | some ps => if method.hasBody then ([], some (.object ps.entries)) else (queryPairs ps, none)

/-- The plan of a request with its credential. -/
def of {ρ : Type} [Request ρ] (c : Config) (r : ρ) (credential : Option Credential)
    (requestId : String) : Except Error Plan := do
  let path := Request.path r
  validatePath path
  let method := Request.method r
  let (query, body) := placement method (Request.parameters r)
  let headers ←
    mergeHeaders c body.isSome (Request.version r) (Request.header r) credential requestId
  .ok ⟨method, path, joinUrl c.baseUrl path, headers, query, body, Request.autoRetry r⟩

end Plan

end Courier
