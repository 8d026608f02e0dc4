/-!
# Binary floating point with 53 bits

A finite number is a sign, a natural mantissa below `2 ^ 53` and a power of two between `-1074` and
`971`; the mantissa is at least `2 ^ 52` unless the exponent is the least one, so each value has one
form and zero keeps its sign.  All arithmetic is on naturals: a ratio is rounded to the nearest
value, and a tie goes to the even mantissa.
-/

namespace Courier

/-- A finite binary floating-point number. -/
structure Binary64 where
  negative : Bool
  mantissa : Nat
  exponent : Int
  deriving DecidableEq, Repr, Inhabited

namespace Binary64

/-- The least exponent, that of the subnormal numbers. -/
def minExponent : Int := -1074

/-- The greatest exponent of a finite number. -/
def maxExponent : Int := 971

/-- Zero of either sign. -/
def zero (negative : Bool) : Binary64 := ⟨negative, 0, minExponent⟩

/-- Zero of either sign is zero. -/
def isZero (x : Binary64) : Bool := x.mantissa == 0

/-- Equality of values: the two zeros agree. -/
def same (x y : Binary64) : Bool := x == y || (x.isZero && y.isZero)

/-- The same magnitude with the other sign. -/
def neg (x : Binary64) : Binary64 := { x with negative := !x.negative }

/-- The ratio `num / (den * 2 ^ e)` without negative powers. -/
def shifted (num den : Nat) (e : Int) : Nat × Nat :=
  if 0 ≤ e then (num, den * Nat.pow 2 e.toNat) else (num * Nat.pow 2 (-e).toNat, den)

/-- The greatest `k` with `2 ^ k ≤ num / den`. -/
def floorLog2 (num den : Nat) : Int :=
  let k : Int := (num.log2 : Int) - (den.log2 : Int)
  let (n, d) := shifted num den k
  if d ≤ n then k else k - 1

/-- The nearest natural to a ratio; a tie goes to the even one. -/
def roundHalfEven (num den : Nat) : Nat :=
  let q := num / den
  let r := num % den
  if 2 * r < den then q
  else if den < 2 * r then q + 1
  else if q % 2 = 0 then q else q + 1

/-- The nearest number to a ratio of naturals, if it is not beyond the greatest finite one. -/
def ofRatio? (negative : Bool) (num den : Nat) : Option Binary64 :=
  if num = 0 then some (zero negative)
  else
    let e := max (floorLog2 num den - 52) minExponent
    let (n, d) := shifted num den e
    let m := roundHalfEven n d
    let (m, e) := if m = Nat.pow 2 53 then (Nat.pow 2 52, e + 1) else (m, e)
    if m = 0 then some (zero negative)
    else if maxExponent < e then none
    else some ⟨negative, m, e⟩

/-- The magnitude as a ratio of naturals. -/
def ratio (x : Binary64) : Nat × Nat := shifted x.mantissa 1 (-x.exponent)

/-- The product, if it is finite. -/
def mul? (x y : Binary64) : Option Binary64 :=
  let (a, b) := x.ratio
  let (c, d) := y.ratio
  ofRatio? (x.negative != y.negative) (a * c) (b * d)

/-- The quotient by a number other than zero, if it is finite. -/
def div? (x y : Binary64) : Option Binary64 :=
  let (a, b) := x.ratio
  let (c, d) := y.ratio
  ofRatio? (x.negative != y.negative) (a * d) (b * c)

/-- The number nearest to `10 ^ k`, for `k` up to 308. -/
def powerOfTen (k : Nat) : Binary64 := (ofRatio? false (Nat.pow 10 k) 1).getD (zero false)

end Binary64

end Courier
