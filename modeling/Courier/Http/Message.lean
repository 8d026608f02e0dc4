import Courier.Http.Header

/-!
# Messages and replies

A message is what a client sends, a reply what comes back.  A status line and fields that break the
rules of the protocol are no reply at all.
-/

namespace Courier.Http

/-- What a client sends. -/
structure Message where
  verb : String
  target : List Char
  headers : Headers
  body : List UInt8
  deriving DecidableEq

/-- What a server sends back.  A reply that breaks off is not complete. -/
structure Reply where
  status : Nat
  fields : Fields
  body : List UInt8
  complete : Bool
  deriving DecidableEq

/-- A field as it is sent: name and value, either of which may break the rules. -/
abbrev RawField := List UInt8 × List UInt8

/-- A blank or a tab. -/
def isPadding (b : UInt8) : Bool := b == 0x20 || b == 0x09

/-- A value without the blanks and tabs around it. -/
def trimValue (value : List UInt8) : List UInt8 :=
  ((value.dropWhile isPadding).reverse.dropWhile isPadding).reverse

/-- A field as it is understood: the name in lower case and the value trimmed. -/
def readField? (f : RawField) : Option (String × List UInt8) :=
  match plainText? f.1 with
  | none => none
  | some name =>
    match name? name with
    | none => none
    | some name => if f.2.all isValueByte then some (name, trimValue f.2) else none

/-- All fields, if every one can be understood. -/
def readFields? : List RawField → Option Fields
  | [] => some []
  | f :: rest =>
    match readField? f, readFields? rest with
    | some f, some rest => some (f :: rest)
    | _, _ => none

/-- Statuses whose replies announce no length. -/
def hasNoLength (status : Nat) : Bool := status == 204 || status == 304

/-- Statuses whose replies are read without a body, whatever is sent. -/
def isBodiless (status : Nat) : Bool := status == 101 || hasNoLength status

/-- Statuses that can stand in a status line.  Those below 200 announce a reply that is still to
come; of them only 101 is one itself. -/
def isFinal (status : Nat) : Bool := status == 101 || (200 ≤ status && status ≤ 999)

end Courier.Http
