import Courier.Number.Binary64
import Courier.Text.Numeral

/-!
# Shortest decimal digits

The decimal text of a floating-point number uses the fewest digits that read back as the number,
and of those the ones nearest to it.  `digits` finds them on growing decimal grids; the two layouts
place the point.
-/

namespace Courier.Binary64

/-- A decimal `0.d₁d₂… × 10 ^ point` given by its digits. -/
structure Digits where
  list : List Char
  point : Int

/-- The numerators, over one denominator, of a magnitude and of the bounds of the reals that round
to it. -/
structure Interval where
  low : Nat
  value : Nat
  high : Nat
  den : Nat
  closed : Bool

/-- The bounds lie half way to the neighbours; below a power of two the neighbour is twice as
near.  They belong to the interval if the mantissa is even. -/
def interval (x : Binary64) : Interval :=
  let m := x.mantissa
  let narrow := m = Nat.pow 2 52 ∧ minExponent < x.exponent
  let low := if narrow then 4 * m - 1 else 4 * m - 2
  let e := x.exponent - 2
  let scale := if 0 ≤ e then Nat.pow 2 e.toNat else 1
  let den := if 0 ≤ e then 1 else Nat.pow 2 (-e).toNat
  ⟨low * scale, 4 * m * scale, (4 * m + 2) * scale, den, m % 2 = 0⟩

/-- `a / b` compared with `d * 10 ^ g` after clearing the denominators. -/
def scaledPair (a b d : Nat) (g : Int) : Nat × Nat :=
  if 0 ≤ g then (a, d * Nat.pow 10 g.toNat * b) else (a * Nat.pow 10 (-g).toNat, d * b)

/-- Whether the decimal `d * 10 ^ g` lies in the interval. -/
def Interval.contains (i : Interval) (d : Nat) (g : Int) : Bool :=
  let (l, x) := scaledPair i.low i.den d g
  let (h, y) := scaledPair i.high i.den d g
  if i.closed then l ≤ x && y ≤ h else l < x && y < h

/-- The least `k` with `value < 10 ^ k`, found near the binary logarithm. -/
def Interval.magnitude (i : Interval) : Int :=
  let guess := floorLog2 i.value i.den * 30103 / 100000
  let below (k : Int) : Bool :=
    let (a, b) := scaledPair i.value i.den 1 k
    a < b
  match [guess - 1, guess, guess + 1, guess + 2].find? below with
  | some k => k
  | none => guess + 3

/-- The better of the two neighbours on a grid, if one lies in the interval.  A tie goes to the even
one. -/
def Interval.onGrid? (i : Interval) (g : Int) : Option Nat :=
  let (a, b) := scaledPair i.value i.den 1 g
  let d := a / b
  let r := a % b
  let lower := i.contains d g
  let upper := i.contains (d + 1) g
  if lower && upper then
    if 2 * r < b then some d
    else if b < 2 * r then some (d + 1)
    else if d % 2 = 0 then some d else some (d + 1)
  else if lower then some d
  else if upper then some (d + 1)
  else none

/-- Tries grids of more and more digits. -/
def Interval.search (i : Interval) (k : Int) : Nat → Nat → Nat × Int
  | 0, n => ((i.onGrid? (k - n)).getD 0, k - n)
  | fuel + 1, n =>
    match i.onGrid? (k - n) with
    | some d => (d, k - n)
    | none => i.search k fuel (n + 1)

/-- The shortest digits of a magnitude other than zero, without trailing zeros. -/
def digits (x : Binary64) : Digits :=
  let i := x.interval
  let (d, g) := i.search i.magnitude 16 1
  let text := Text.digits d
  let kept := (text.reverse.dropWhile (· == '0')).reverse
  ⟨kept, g + text.length⟩

/-- Digits with a point and at least one fractional digit, whatever the size. -/
def Digits.positional (d : Digits) : List Char :=
  if d.point ≤ 0 then ['0', '.'] ++ List.replicate (-d.point).toNat '0' ++ d.list
  else
    let p := d.point.toNat
    if d.list.length ≤ p then d.list ++ List.replicate (p - d.list.length) '0' ++ ['.', '0']
    else d.list.take p ++ '.' :: d.list.drop p

/-- One digit, the others behind a point, and a power of ten that always shows its sign unless it
is negative. -/
def Digits.scientific (d : Digits) : List Char :=
  let e := d.point - 1
  let head := d.list.take 1
  let tail := d.list.drop 1
  let fraction := if tail.isEmpty then [] else '.' :: tail
  let power := if e < 0 then Text.signedDigits e else '+' :: Text.signedDigits e
  head ++ fraction ++ 'e' :: power

/-- The sign of a number before its magnitude. -/
def withSign (x : Binary64) (magnitude : List Char) : List Char :=
  if x.negative then '-' :: magnitude else magnitude

/-- The text with a point and no power of ten. -/
def positional (x : Binary64) : List Char :=
  x.withSign (if x.isZero then ['0', '.', '0'] else x.digits.positional)

/-- The text that JSON uses: positional from `10 ^ -5` up to `10 ^ 16`, scientific elsewhere. -/
def text (x : Binary64) : List Char :=
  x.withSign <|
    if x.isZero then ['0', '.', '0']
    else
      let d := x.digits
      if -5 < d.point ∧ d.point ≤ 16 then d.positional else d.scientific

end Courier.Binary64
