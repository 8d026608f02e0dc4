import Courier.Json.Parser

/-!
# Values of the wrong kind

Where a value of one kind is wanted and another one stands, the fault names what was found.  A
scalar is read first, so its own faults come before the mismatch.
-/

namespace Courier.Json

/-- The fault of the value at a cursor, which is not of the expected kind. -/
def mismatch {α : Type} (c : Cursor) (expected : String) : Except Error α :=
  let wrong (found : Found) (c : Cursor) : Except Error α := c.fail (.mismatch found expected)
  match c.head? with
  | some 110 => do wrong .null (← literal [117, 108, 108] c.next)
  | some 116 => do wrong (.bool true) (← literal [114, 117, 101] c.next)
  | some 102 => do wrong (.bool false) (← literal [97, 108, 115, 101] c.next)
  | some 45 => do
    let (n, c) ← unsignedNumber true c.next
    wrong (.number n) c
  | some 34 => do
    let (s, c) ← stringBody c.next
    wrong (.string s) c
  | some 91 => wrong .array c
  | some 123 => wrong .object c
  | some b =>
    if isDigit b then do
      let (n, c) ← unsignedNumber false c
      wrong (.number n) c
    else c.failAhead .expectedValue
  | none => c.failAhead .expectedValue

/-- Passes a value that must be `null`. -/
def null (c : Cursor) : Except Error Cursor :=
  let c := skipSpace c
  match c.head? with
  | some 110 => literal [117, 108, 108] c.next
  | some _ => mismatch c "unit"
  | none => c.failAhead .eofInValue

end Courier.Json
