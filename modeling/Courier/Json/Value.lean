import Courier.Number.Binary64
import Courier.Table

/-!
# JSON values

A number is an exact integer where it fits 64 bits and a binary floating-point number elsewhere.
The members of an object are the entries of a table, ordered by name.  A type that is recursive
through its own tables cannot carry that order; the reader of JSON makes no other objects.
-/

namespace Courier.Json

/-- A JSON number. -/
inductive Number where
  | integer (n : Int)
  | real (x : Binary64)
  deriving DecidableEq, Repr, Inhabited

/-- Equality of numbers of one kind; the two zeros of the second kind agree. -/
def Number.same : Number → Number → Bool
  | .integer a, .integer b => a == b
  | .real x, .real y => x.same y
  | _, _ => false

/-- A JSON value. -/
inductive Value where
  | null
  | bool (b : Bool)
  | number (n : Number)
  | string (s : String)
  | array (items : List Value)
  | object (members : List (String × Value))
  deriving Repr, Inhabited

namespace Value

mutual

/-- Equality of values: numbers by `Number.same`, all else part by part. -/
def same : Value → Value → Bool
  | .null, .null => true
  | .bool a, .bool b => a == b
  | .number a, .number b => a.same b
  | .string a, .string b => a == b
  | .array xs, .array ys => sameItems xs ys
  | .object xs, .object ys => sameMembers xs ys
  | _, _ => false

/-- Equality of lists of values. -/
def sameItems : List Value → List Value → Bool
  | [], [] => true
  | x :: xs, y :: ys => same x y && sameItems xs ys
  | _, _ => false

/-- Equality of members, names included. -/
def sameMembers : List (String × Value) → List (String × Value) → Bool
  | [], [] => true
  | (k, x) :: xs, (l, y) :: ys => k == l && same x y && sameMembers xs ys
  | _, _ => false

end

end Value

end Courier.Json
