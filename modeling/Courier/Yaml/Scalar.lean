import Courier.Number.Shortest
import Courier.Yaml.Token

/-!
# What a scalar means

A plain scalar without quotes is null, a boolean, a number or, if it is none of these, text.
Integers may be written in base ten, sixteen, eight or two; digits behind a leading zero are text.
-/

namespace Courier.Yaml

/-- The meaning of a scalar.  An integer beyond 64 bits keeps only its text. -/
inductive Scalar where
  | null
  | bool (b : Bool)
  | unsigned (n : Nat)
  | signed (n : Int)
  | wideUnsigned (n : Nat)
  | wideSigned (n : Int)
  | real (x : Binary64)
  | infinity (negative : Bool)
  | notANumber
  | text (s : String)
  deriving Repr

/-- The spellings of null. -/
def isNullWord (cs : List Char) : Bool :=
  cs == ['~'] || cs == "null".toList || cs == "Null".toList || cs == "NULL".toList

/-- The spellings of the truth values. -/
def boolWord? (cs : List Char) : Option Bool :=
  if cs = "true".toList ∨ cs = "True".toList ∨ cs = "TRUE".toList then some true
  else if cs = "false".toList ∨ cs = "False".toList ∨ cs = "FALSE".toList then some false
  else none

/-- A sign. -/
def isSign (c : Char) : Bool := c == '+' || c == '-'

/-- Drops a sign, if there is one. -/
def dropSign : List Char → List Char
  | [] => []
  | c :: cs => if isSign c then cs else c :: cs

/-- Drops a plus sign, if there is one. -/
def dropPlus : List Char → List Char
  | [] => []
  | c :: cs => if c = '+' then cs else c :: cs

/-- A zero before further digits and nothing else, which is text and not a number. -/
def isPaddedDigits (cs : List Char) : Bool :=
  match dropSign cs with
  | '0' :: c :: ds => (c :: ds).all Text.isDigit
  | _ => false

/-- Digits of a base, at least one, no greater than a limit. -/
def digitsIn? (base limit : Nat) (cs : List Char) : Option Nat :=
  if cs = [] then none
  else
    match Text.digitsFrom base limit 0 cs with
    | .ok n => some n
    | .error _ => none

/-- The base that a mark of two characters announces, and the digits behind it. -/
def marked? : List Char → Option (Nat × List Char)
  | '0' :: 'x' :: ds => some (16, ds)
  | '0' :: 'o' :: ds => some (8, ds)
  | '0' :: 'b' :: ds => some (2, ds)
  | _ => none

/-- An integer without a minus sign, no greater than a limit. -/
def unsigned? (limit : Nat) (cs : List Char) : Option Nat :=
  match (marked? (dropPlus cs)).bind fun m => digitsIn? m.1 limit m.2 with
  | some n => some n
  | none => if isPaddedDigits cs then none else digitsIn? 10 limit (dropPlus cs)

/-- The magnitude of an integer with a minus sign, no greater than a limit. -/
def negative? (limit : Nat) : List Char → Option Nat
  | '-' :: ds =>
    match (marked? ds).bind fun m => digitsIn? m.1 limit m.2 with
    | some n => some n
    | none => if isPaddedDigits ds then none else digitsIn? 10 limit ds
  | _ => none

/-- An integer of at most 64 bits, else one of at most 128 bits. -/
def integer? (cs : List Char) : Option Scalar :=
  match unsigned? Text.maxU64 cs with
  | some n => some (.unsigned n)
  | none =>
    match negative? (Nat.pow 2 63) cs with
    | some n => some (.signed (-(n : Int)))
    | none =>
      match unsigned? (Nat.pow 2 128 - 1) cs with
      | some n => some (.wideUnsigned n)
      | none => (negative? (Nat.pow 2 127) cs).map fun n => .wideSigned (-(n : Int))

/-! ## Floating-point numbers -/

/-- The parts of a decimal number: digits before and behind the point, and a power of ten. -/
structure DecimalParts where
  whole : List Char
  fraction : List Char
  power : Int

/-- A power of ten behind `e` or `E`, with an optional sign; nothing is the power zero. -/
def power? : List Char → Option Int
  | [] => some 0
  | c :: cs =>
    if c = 'e' ∨ c = 'E' then
      let ds := dropSign cs
      if ds ≠ [] ∧ ds.all Text.isDigit then
        let n : Int := ds.foldl (fun n d => n * 10 + (d.toNat - 48)) 0
        some (if cs.head? = some '-' then -n else n)
      else none
    else none

/-- A decimal number without a sign: digits, a point with digits on at least one side, or both. -/
def decimalParts? (cs : List Char) : Option DecimalParts :=
  let whole := cs.takeWhile Text.isDigit
  match cs.dropWhile Text.isDigit with
  | '.' :: rest =>
    let fraction := rest.takeWhile Text.isDigit
    if whole = [] ∧ fraction = [] then none
    else (power? (rest.dropWhile Text.isDigit)).map fun p => ⟨whole, fraction, p⟩
  | rest => if whole = [] then none else (power? rest).map fun p => ⟨whole, [], p⟩

/-- The nearest floating-point number, if it is finite.  A magnitude far outside the range is
settled by its number of digits. -/
def DecimalParts.real? (d : DecimalParts) (negative : Bool) : Option Binary64 :=
  let digits := (d.whole ++ d.fraction).dropWhile (· == '0')
  let s := digits.foldl (fun n c => n * 10 + (c.toNat - 48)) 0
  let e := d.power - d.fraction.length
  let top := e + digits.length
  if s = 0 ∨ top < -400 then some (.zero negative)
  else if 400 < top then none
  else if 0 ≤ e then Binary64.ofRatio? negative (s * Nat.pow 10 e.toNat) 1
  else Binary64.ofRatio? negative s (Nat.pow 10 (-e).toNat)

/-- A decimal number with an optional sign. -/
def decimal? (cs : List Char) : Option Binary64 :=
  (decimalParts? (dropSign cs)).bind fun d => d.real? (cs.head? == some '-')

/-- A floating-point number: an infinity, not a number, or a finite decimal. -/
def real? (cs : List Char) : Option Scalar :=
  let bare := dropPlus cs
  if cs.head? = some '+' ∧ (bare.head?.any isSign) then none
  else if bare = ".inf".toList ∨ bare = ".Inf".toList ∨ bare = ".INF".toList then
    some (.infinity false)
  else if cs = "-.inf".toList ∨ cs = "-.Inf".toList ∨ cs = "-.INF".toList then
    some (.infinity true)
  else if cs = ".nan".toList ∨ cs = ".NaN".toList ∨ cs = ".NAN".toList then some .notANumber
  else (decimal? bare).map .real

/-! ## Scalars -/

/-- The meaning of a plain scalar. -/
def Scalar.ofPlain (cs : List Char) : Scalar :=
  if cs = [] ∨ isNullWord cs then .null
  else
    match boolWord? cs with
    | some b => .bool b
    | none =>
      match integer? cs with
      | some n => n
      | none =>
        if isPaddedDigits cs then .text (String.ofList cs)
        else (real? cs).getD (.text (String.ofList cs))

/-- Whether a plain scalar means text. -/
def Scalar.isText : Scalar → Bool
  | .text _ => true
  | _ => false

end Courier.Yaml
