import Courier.Text.Base64
import Courier.Url.Target

/-!
# Proxies

A proxy is given as a URL of the web.  A text that has no scheme, or none with a host, is tried once
more behind `http://`.
-/

namespace Courier

/-- The value of a header that carries a name and password. -/
def basicCredential (username password : List UInt8) : String :=
  String.ofList ("Basic ".toList ++ Text.Base64.encode (username ++ 0x3A :: password))

/-- The server through which all messages go. -/
structure Proxy where
  /-- Whether the connection to it is encrypted. -/
  secure : Bool
  host : Url.Host
  port : Nat
  /-- The header value that proves who asks. -/
  authorization : Option String
  deriving DecidableEq

namespace Proxy

/-- A fault in building a proxy. -/
def fault (details : String) : String := "builder error: " ++ details

/-- The text of the bytes that escapes stand for, ill-formed parts replaced. -/
def plain (cs : List Char) : List UInt8 :=
  Text.Utf8.encode (Text.Utf8.decodeLossy (Url.unescape cs))

/-- The proxy that a URL with a host gives. -/
def ofUrl (u : Url) (a : Url.Authority) : Except String Proxy :=
  if !Url.isWebScheme u.scheme then .error (fault "unknown proxy scheme")
  else if !a.host.isSendable then .error (fault "invalid uri character")
  else
    let authorization :=
      if a.password = [] then none else some (basicCredential (plain a.username) (plain a.password))
    .ok ⟨u.scheme == "https".toList, a.host, (a.port.or (Url.impliedPort? u.scheme)).getD 80,
      authorization⟩

/-- The authority of a URL that has a host. -/
def namedAuthority? (u : Url) : Option Url.Authority := u.authority.filter (·.host.isNamed)

/-- The URL behind `http://`, if that gives one with a host. -/
def behindScheme? (text : String) : Option (Url × Url.Authority) :=
  match Url.parse ("http://" ++ text).toList with
  | .ok u => namedAuthority? u |>.map fun a => (u, a)
  | .error _ => none

/-- The proxy at a URL, or what is wrong with it. -/
def parse (text : String) : Except String Proxy :=
  let again (details : String) : Except String Proxy :=
    match behindScheme? text with
    | some (u, a) => ofUrl u a
    | none => .error (fault details)
  match Url.parse text.toList with
  | .error .noBase => again (fault Url.Fault.noBase.message)
  | .error f => .error (fault (fault f.message))
  | .ok u =>
    match namedAuthority? u with
    | some a => ofUrl u a
    | none =>
      again ("builder error for url (" ++ String.ofList u.text ++ "): URL scheme is not allowed")

end Proxy

end Courier
