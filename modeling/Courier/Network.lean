import Courier.Error
import Courier.Http.Message
import Courier.Url.Basic

/-!
# The network

A network as one client sees it: at most one address at which a server may be, what becomes of the
messages to come there, and the messages that were sent there, of which the server received some.
Every other address refuses connections.

What becomes of the messages is a list, one answer a message; the last one repeats.  A server may
stop answering for a while, or be gone, and be back for the message after that.  An encrypted
connection to a host and port comes about if the network says so.
-/

namespace Courier

/-- What becomes of one message at the address of the server. -/
inductive Answer where
  /-- The server replies, and promises `missing` more bytes than it sends. -/
  | reply (status : Nat) (fields : List Http.RawField) (body : List UInt8) (missing : Nat)
  /-- It takes the message and closes the connection. -/
  | close
  /-- It does not answer in time, and has taken the message or not. -/
  | silence (taken : Bool)
  /-- It is not there. -/
  | refuse

/-- A network with at most one server. -/
structure Network where
  listener : Option (Url.Host × Nat)
  /-- The hosts and ports with which encrypted connections come about. -/
  secured : List (Url.Host × Nat)
  answers : List Answer
  offered : List Http.Message
  received : List Http.Message

namespace Network

/-- A network without any server. -/
def unreachable : Network := ⟨none, [], [], [], []⟩

/-- The answer of a server of which nothing is said. -/
def plainAnswer : Answer := .reply 200 [] [] 0

/-- What becomes of the next message. -/
def nextAnswer (n : Network) : Answer := n.answers.head?.getD plainAnswer

/-- The answers behind the first; the last one stays. -/
def laterAnswers : List Answer → List Answer
  | _ :: b :: rest => b :: rest
  | answers => answers

/-- The fields that a server adds to its own. -/
def serverFields (status length : Nat) : Http.Fields :=
  ("connection", Text.Utf8.bytesOf "close") ::
    (if Http.hasNoLength status then []
      else [("content-length", Text.Utf8.bytesOf (Text.decimal length))])

/-- The reply that a client reads. -/
def readReply (status : Nat) (fields : List Http.RawField) (body : List UInt8) (missing : Nat) :
    Except ExchangeFailure Http.Reply :=
  match Http.readFields? fields with
  | none => .error .other
  | some fields =>
    if !Http.isFinal status then .error .other
    else
      let bodiless := Http.isBodiless status
      .ok ⟨status, fields ++ serverFields status (body.length + missing),
        if bodiless then [] else body, bodiless || missing == 0⟩

end Network

namespace Answer

/-- Whether the server takes the message. -/
def takes : Answer → Bool
  | .reply .. => true
  | .close => true
  | .silence taken => taken
  | .refuse => false

/-- What comes back. -/
def outcome : Answer → Except ExchangeFailure Http.Reply
  | .reply status fields body missing => Network.readReply status fields body missing
  | .close => .error .other
  | .silence _ => .error .timeout
  | .refuse => .error .connect

/-- What the server receives of a message. -/
def kept (a : Answer) (m : Http.Message) : List Http.Message := if a.takes then [m] else []

end Answer

namespace Network

/-- The network after a message was sent to the server. -/
def offer (n : Network) (m : Http.Message) : Network :=
  { n with
    answers := laterAnswers n.answers
    offered := n.offered ++ [m]
    received := n.received ++ n.nextAnswer.kept m }

/-- Sends a message to the server. -/
def serve (n : Network) (m : Http.Message) : Except ExchangeFailure Http.Reply × Network :=
  (n.nextAnswer.outcome, n.offer m)

/-- Whether there can be a connection to an address: a server may be there, and the connection need
not be encrypted or can be. -/
def Connects (n : Network) (encrypted : Bool) (host : Url.Host) (port : Nat) : Prop :=
  n.listener = some (host, port) ∧ (encrypted = true → (host, port) ∈ n.secured)

instance (n : Network) (encrypted : Bool) (host : Url.Host) (port : Nat) :
    Decidable (n.Connects encrypted host port) := inferInstanceAs (Decidable (_ ∧ _))

/-- Sends a message to an address. -/
def exchange (n : Network) (encrypted : Bool) (host : Url.Host) (port : Nat) (m : Http.Message) :
    Except ExchangeFailure Http.Reply × Network :=
  if n.Connects encrypted host port then n.serve m else (.error .connect, n)

end Network

end Courier
