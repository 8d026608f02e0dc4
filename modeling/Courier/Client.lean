import Courier.Network
import Courier.Plan
import Courier.Proxy
import Courier.Response

/-!
# The client

`Client.send` carries out a plan once: it makes a message for the plan's URL, sends it, follows
redirects, and reads the reply.

* A name and password in the URL become an `authorization` header unless the plan has one.
* The pairs of the query are put behind a query that the URL has already.
* A redirect may turn the request into a `GET` without a body; one to another host or port drops
  what proves who asks.
* A server behind a proxy that is asked in an encrypted way is asked through a tunnel.
-/

namespace Courier

/-- What a client is told once. -/
structure Client where
  proxy : Option Proxy

namespace Client

/-- A request at one place of its way. -/
structure Hop where
  url : Url
  method : Http.Method
  headers : Http.Headers
  body : Option (List UInt8)

/-! ## Starting -/

/-- The value of `authorization` for the name and password in a URL.  A name that is not text, and
no name with a password that is not text, count for nothing. -/
def userCredential? (u : Url) : Option String :=
  match u.authority with
  | none => none
  | some a =>
    match Text.Utf8.decode? (Url.unescape a.username) with
    | none => none
    | some username =>
      let password := Text.Utf8.decode? (Url.unescape a.password)
      if username = [] ∧ (a.password = [] ∨ password = none) then none
      else
        some (basicCredential (Text.Utf8.encode username) (Text.Utf8.encode (password.getD [])))

/-- Puts a header where there is none of that name. -/
def putMissing (name value : String) (headers : Http.Headers) : Http.Headers :=
  if (headers.find? name).isSome then headers else headers.insert name value

/-- The bytes of a JSON body. -/
def bodyBytes (body : Option Json.Value) : Option (List UInt8) :=
  body.map fun v => Text.Utf8.encode v.compact

/-- The first hop of a plan whose URL has been read. -/
def start (client : Client) (p : Plan) (u : Url) : Hop :=
  let headers :=
    match userCredential? u with
    | some credential => putMissing "authorization" credential p.headers
    | none => p.headers
  let headers := if p.body.isSome then putMissing "content-type" Plan.jsonType headers else headers
  let headers :=
    match client.proxy.bind (·.authorization) with
    | some credential =>
      if u.scheme = "http".toList then putMissing "proxy-authorization" credential headers
      else headers
    | none => headers
  let url := if (userCredential? u).isSome then u.anonymous else u
  let url := if p.query = [] then url else url.withPairs p.query
  ⟨url, p.method, headers, bodyBytes p.body⟩

/-! ## One message -/

/-- The target of a message to the server of its URL. -/
def localTarget (u : Url) : List Char := u.path.text ++ u.queryText

/-- The headers of a hop, with the length of its body. -/
def sentHeaders (h : Hop) : Http.Headers :=
  match h.body with
  | some bytes => putMissing "content-length" (Text.decimal bytes.length) h.headers
  | none => h.headers

/-- The message of a hop. -/
def message (h : Hop) (target : List Char) : Http.Message :=
  ⟨h.method.token, target, sentHeaders h, h.body.getD []⟩

/-- The message that asks a proxy for a connection to the server of a URL. -/
def connectMessage (proxy : Proxy) (host : Url.Host) (port : Nat) : Http.Message :=
  let headers : Http.Headers :=
    match proxy.authorization with
    | some credential => Table.insert ∅ "proxy-authorization" credential
    | none => ∅
  ⟨"CONNECT", host.text ++ ':' :: Text.digits port, headers, []⟩

/-- Whether a reply opens a tunnel. -/
def opensTunnel (reply : Http.Reply) : Bool := reply.status == 200 && reply.body.isEmpty

/-- Sends a message through a tunnel, over an encrypted connection, if the proxy that was asked for
the tunnel has opened it. -/
def passThrough (host : Url.Host) (port : Nat) (m : Http.Message) :
    Except ExchangeFailure Http.Reply × Network → Except ExchangeFailure Http.Reply × Network
  | (.ok reply, n) =>
    if opensTunnel reply = true ∧ (host, port) ∈ n.secured then n.serve m
    else (.error .connect, n)
  | (.error .timeout, n) => (.error .timeout, n)
  | (.error _, n) => (.error .connect, n)

/-- Asks a proxy for a tunnel and sends a message through it. -/
def tunnel (proxy : Proxy) (host : Url.Host) (port : Nat) (m : Http.Message) (n : Network) :
    Except ExchangeFailure Http.Reply × Network :=
  passThrough host port m
    (n.exchange proxy.secure proxy.host proxy.port (connectMessage proxy host port))

/-- Sends one hop. -/
def deliver (client : Client) (h : Hop) (n : Network) :
    Except ExchangeFailure Http.Reply × Network :=
  match h.url.host?, h.url.port? with
  | some host, some port =>
    let encrypted := h.url.scheme == "https".toList
    match client.proxy with
    | none => n.exchange encrypted host port (message h (localTarget h.url))
    | some proxy =>
      if encrypted then tunnel proxy host port (message h (localTarget h.url)) n
      else n.exchange proxy.secure proxy.host proxy.port (message h h.url.textWithoutFragment)
  | _, _ => (.error .other, n)

/-! ## Redirects -/

/-- How often a request is redirected at most. -/
def maxRedirects : Nat := 9

/-- Statuses that turn a request into one without a body. -/
def dropsBody (status : Nat) : Bool := status == 301 || status == 302 || status == 303

/-- Statuses that send a request to another place. -/
def isRedirect (status : Nat) : Bool := dropsBody status || status == 307 || status == 308

/-- The place that a reply names, if it can be asked. -/
def location? (u : Url) (fields : Http.Fields) : Option Url :=
  match (fields.first? "location").bind Text.Utf8.decode? with
  | none => none
  | some text =>
    match Url.join u text with
    | .ok next => if next.isSendable then some next else none
    | .error _ => none

/-- Takes headers away. -/
def without (names : List String) (headers : Http.Headers) : Http.Headers :=
  headers.filter fun h => !names.contains h.1

/-- Headers that describe a body. -/
def bodyHeaders : List String :=
  ["content-encoding", "content-length", "content-type", "transfer-encoding"]

/-- Headers that another host must not see. -/
def privateHeaders : List String :=
  ["authorization", "cookie", "cookie2", "proxy-authorization", "www-authenticate"]

/-- Whether two URLs name one host and port. -/
def sameServer (u v : Url) : Bool := u.host? == v.host? && u.port? == v.port?

/-- Whether the next place may learn the present one. -/
def mayRefer (u next : Url) : Bool :=
  !(u.scheme == "https".toList && next.scheme == "http".toList)

/-- The hop to which a redirect leads. -/
def redirected (h : Hop) (status : Nat) (next : Url) : Hop :=
  let drop := dropsBody status
  let headers := if drop then without bodyHeaders h.headers else h.headers
  let headers :=
    if mayRefer h.url next then headers.insert "referer" (String.ofList h.url.bare.text)
    else headers
  let headers := if sameServer h.url next then headers else without privateHeaders headers
  ⟨next, if drop then .get else h.method, headers, if drop then none else h.body⟩

/-- The hop that a reply asks for, if it asks for one. -/
def nextHop? (h : Hop) (reply : Http.Reply) : Option Hop :=
  if isRedirect reply.status then
    (location? h.url reply.fields).map (redirected h reply.status)
  else none

/-- Sends a request and follows its redirects, of which so many are left. -/
def follow (client : Client) : Nat → Hop → Network → Except ExchangeFailure Http.Reply × Network
  | left, h, n =>
    match client.deliver h n with
    | (.error f, n) => (.error f, n)
    | (.ok reply, n) =>
      match nextHop? h reply with
      | none => (if reply.complete then .ok reply else .error .other, n)
      | some next =>
        match left with
        | 0 => (.error .other, n)
        | left + 1 =>
          if Url.isWebScheme next.url.scheme then follow client left next n else (.error .other, n)

/-! ## Replies -/

/-- The hint of a `retry-after` field, given in whole seconds, in milliseconds. -/
def retryAfter? (fields : Http.Fields) : Option UInt32 :=
  match fields.text? "retry-after" with
  | none => none
  | some text =>
    match Text.numeral32 (Text.trim text.toList) with
    | .ok seconds => some (RetryPolicy.saturatingMul (.ofNat seconds) 1000)
    | .error _ => none

/-- Only replies of 200 to 299 are responses. -/
def respond (reply : Http.Reply) : Except Error Response :=
  if 200 ≤ reply.status ∧ reply.status < 300 then .ok ⟨reply.status, reply.fields, reply.body, 0⟩
  else
    let code := Http.FailureCode.ofStatus reply.status
    .error (.rejected ⟨reply.status, code, Text.Utf8.stringLossy reply.body, code.retryable,
      retryAfter? reply.fields⟩)

/-! ## Sending -/

/-- The first hop of a plan, if its URL can be sent. -/
def begin? (client : Client) (p : Plan) : Option Hop :=
  match Url.parse p.url.toList with
  | .error _ => none
  | .ok u =>
    let h := client.start p u
    if h.url.host?.isSome && h.url.isSendable then some h else none

/-- Carries out a plan once. -/
def send (client : Client) (p : Plan) (n : Network) : Except Error Response × Network :=
  let failed (f : ExchangeFailure) : Except Error Response := .error (.transport (.exchange f))
  match client.begin? p with
  | none => (failed .other, n)
  | some h =>
    match client.follow maxRedirects h n with
    | (.error f, n) => (failed f, n)
    | (.ok reply, n) => (respond reply, n)

end Client

end Courier
