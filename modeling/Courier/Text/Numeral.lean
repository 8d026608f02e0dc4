/-!
# Decimal numerals

Reading an unsigned number of bounded size: an optional `+`, then one or more decimal digits.
A text that is not such a numeral is refused with a cause.
-/

namespace Courier.Text

/-- Why a text is not a number of the wanted size. -/
inductive NumeralError where
  | empty
  | invalidDigit
  | tooLarge
  deriving DecidableEq, Repr

/-- The wording of each cause. -/
def NumeralError.message : NumeralError → String
  | .empty => "cannot parse integer from empty string"
  | .invalidDigit => "invalid digit found in string"
  | .tooLarge => "number too large to fit in target type"

/-- An ASCII decimal digit. -/
def isDigit (c : Char) : Bool := '0' ≤ c && c ≤ '9'

/-- The value of a digit in a base of at most 36; letters count in either case. -/
def digitValue? (base : Nat) (c : Char) : Option Nat :=
  let n := c.toNat
  let v? :=
    if 48 ≤ n ∧ n ≤ 57 then some (n - 48)
    else if 97 ≤ n ∧ n ≤ 122 then some (n - 87)
    else if 65 ≤ n ∧ n ≤ 90 then some (n - 55)
    else none
  v?.filter (· < base)

/-- Reads digits most significant first, going on from a value.  The first fault decides: a foreign
character or the digit that makes the value exceed the limit. -/
def digitsFrom (base limit : Nat) : Nat → List Char → Except NumeralError Nat
  | acc, [] => .ok acc
  | acc, c :: cs =>
    match digitValue? base c with
    | none => .error .invalidDigit
    | some d =>
      if acc * base + d ≤ limit then digitsFrom base limit (acc * base + d) cs
      else .error .tooLarge

/-- An unsigned numeral in a base, with an optional `+`, no greater than the limit. -/
def numeral (base limit : Nat) : List Char → Except NumeralError Nat
  | [] => .error .empty
  | ['+'] => .error .invalidDigit
  | ['-'] => .error .invalidDigit
  | '+' :: cs => digitsFrom base limit 0 cs
  | cs => digitsFrom base limit 0 cs

/-- The largest 32-bit number. -/
def maxU32 : Nat := 4294967295

/-- The largest 64-bit number. -/
def maxU64 : Nat := 18446744073709551615

/-- A decimal numeral of at most 32 bits. -/
def numeral32 (cs : List Char) : Except NumeralError Nat := numeral 10 maxU32 cs

/-- The decimal digits of a number, most significant first. -/
def digits (n : Nat) : List Char := Nat.toDigits 10 n

/-- The decimal text of a number. -/
def decimal (n : Nat) : String := String.ofList (digits n)

/-- The decimal digits of an integer, after a minus sign if it is negative. -/
def signedDigits (n : Int) : List Char :=
  if n < 0 then '-' :: digits n.natAbs else digits n.natAbs

/-- Lowercase hexadecimal digits. -/
def hexDigits (n : Nat) : List Char := Nat.toDigits 16 n

end Courier.Text
