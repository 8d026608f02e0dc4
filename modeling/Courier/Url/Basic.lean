import Courier.Url.Address
import Courier.Url.Domain

/-!
# URLs

A URL has a scheme and, for most schemes, an authority and a path of segments; others have a path
that is a single text.  The parts hold what the written form shows: escapes are in place, the host
is in its short form and a port that the scheme implies is left out.
-/

namespace Courier

/-- A host: a domain, or an address. -/
inductive Url.Host where
  | domain (name : List Char)
  | address4 (n : Nat)
  | address6 (pieces : List Nat)
  deriving DecidableEq, Repr

/-- Who is asked, where, and in whose name. -/
structure Url.Authority where
  username : List Char
  password : List Char
  host : Url.Host
  port : Option Nat
  deriving DecidableEq, Repr

/-- What is asked for. -/
inductive Url.Path where
  | segments (parts : List (List Char))
  | opaqueText (text : List Char)
  deriving DecidableEq, Repr

/-- A URL. -/
structure Url where
  scheme : List Char
  authority : Option Url.Authority
  path : Url.Path
  query : Option (List Char)
  fragment : Option (List Char)
  deriving DecidableEq, Repr

namespace Url

/-! ## Schemes -/

/-- What a scheme means for the form of its URLs. -/
inductive SchemeKind where
  | special
  | file
  | other
  deriving DecidableEq

/-- The port that a scheme implies. -/
def impliedPort? (scheme : List Char) : Option Nat :=
  match String.ofList scheme with
  | "http" => some 80
  | "ws" => some 80
  | "https" => some 443
  | "wss" => some 443
  | "ftp" => some 21
  | _ => none

/-- The kind of a scheme; the special ones are those that imply a port. -/
def schemeKind (scheme : List Char) : SchemeKind :=
  if scheme = "file".toList then .file
  else if (impliedPort? scheme).isSome then .special
  else .other

/-- Whether a scheme is one of the two of the web. -/
def isWebScheme (scheme : List Char) : Bool := scheme == "http".toList || scheme == "https".toList

/-! ## Text -/

/-- The text of a host. -/
def Host.text : Host → List Char
  | .domain name => name
  | .address4 n => address4Text n
  | .address6 pieces => '[' :: address6Text pieces ++ [']']

/-- The text of a host and its port. -/
def Authority.hostText (a : Authority) : List Char :=
  a.host.text ++ (match a.port with | some p => ':' :: Text.digits p | none => [])

/-- The name and password in front of a host. -/
def Authority.userText (a : Authority) : List Char :=
  if a.username = [] ∧ a.password = [] then []
  else a.username ++ (if a.password = [] then [] else ':' :: a.password) ++ ['@']

/-- The text of a path. -/
def Path.text : Path → List Char
  | .segments parts => parts.flatMap ('/' :: ·)
  | .opaqueText text => text

/-- The text of a query, behind its question mark. -/
def queryText (u : Url) : List Char :=
  match u.query with
  | some q => '?' :: q
  | none => []

/-- The text of a URL up to its authority. -/
def originText (u : Url) : List Char :=
  u.scheme ++ ':' ::
    (match u.authority with | some a => '/' :: '/' :: a.userText ++ a.hostText | none => [])

/-- The text of a URL without its fragment. -/
def textWithoutFragment (u : Url) : List Char := u.originText ++ u.path.text ++ u.queryText

/-- The text of a URL. -/
def text (u : Url) : List Char :=
  u.textWithoutFragment ++ (match u.fragment with | some f => '#' :: f | none => [])

/-! ## Parts -/

/-- Whether a host says anything. -/
def Host.isNamed : Host → Bool
  | .domain [] => false
  | _ => true

/-- The host, if there is one. -/
def host? (u : Url) : Option Host := (u.authority.map (·.host)).filter Host.isNamed

/-- The port, written or implied. -/
def port? (u : Url) : Option Nat :=
  match u.authority.bind (·.port) with
  | some p => some p
  | none => impliedPort? u.scheme

/-- The same URL without name, password and fragment. -/
def bare (u : Url) : Url :=
  { u with
    authority := u.authority.map fun a => { a with username := [], password := [] }
    fragment := none }

/-- The same URL without name and password. -/
def anonymous (u : Url) : Url :=
  { u with authority := u.authority.map fun a => { a with username := [], password := [] } }

/-- The same URL with pairs at the end of its query. -/
def withPairs (u : Url) (pairs : List (String × String)) : Url :=
  { u with query := some (appendForm (u.query.getD []) pairs) }

end Url

end Courier
