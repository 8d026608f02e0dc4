import Courier.Text.Numeral
import Courier.Text.Split
import Courier.Url.Fault
import Courier.Url.Percent

/-!
# Numeric hosts

IPv4 addresses of one to four parts, each in base ten, eight or sixteen, the last one filling what
the others leave; and IPv6 addresses of eight pieces, of which one run of zeros may be left out and
the last two may be written as an IPv4 address.
-/

namespace Courier.Url

/-! ## IPv4 -/

/-- What a part of an address is. -/
inductive AddressPart where
  | number (n : Nat)
  | tooLarge
  | other
  deriving DecidableEq

/-- The value of digits of a base. -/
def addressDigits (base : Nat) (cs : List Char) : AddressPart :=
  if cs = [] then .number 0
  else
    match Text.digitsFrom base Text.maxU32 0 cs with
    | .ok n => .number n
    | .error _ => if cs.all fun c => (Text.digitValue? base c).isSome then .tooLarge else .other

/-- A part in base sixteen behind `0x`, in base eight behind `0`, in base ten else. -/
def addressPart : List Char → AddressPart
  | [] => .other
  | '0' :: 'x' :: ds => addressDigits 16 ds
  | '0' :: 'X' :: ds => addressDigits 16 ds
  | '0' :: d :: ds => addressDigits 8 (d :: ds)
  | cs => addressDigits 10 cs

/-- The parts between dots; a dot at the end opens no part. -/
def addressParts (cs : List Char) : List (List Char) :=
  let parts := Text.splitAtAll (· == '.') cs
  match parts.getLast? with
  | some [] => if 1 < parts.length then parts.dropLast else parts
  | _ => parts

/-- Whether the last part is a number, so that the host is an address or nothing. -/
def endsInNumber (cs : List Char) : Bool :=
  match (addressParts cs).getLast? with
  | some last => !last.isEmpty && (last.all Text.isDigit || addressPart last != .other)
  | none => false

/-- The numbers of all parts. -/
def addressNumbers : List (List Char) → Option (List Nat)
  | [] => some []
  | part :: rest =>
    match addressPart part, addressNumbers rest with
    | .number n, some ns => some (n :: ns)
    | _, _ => none

/-- The value of an address of which some higher bytes are given. -/
def addressValue (last : Nat) : Nat → List Nat → Nat
  | _, [] => last
  | place, n :: ns => n * Nat.pow 256 place + addressValue last (place - 1) ns

/-- An IPv4 address. -/
def address4 (cs : List Char) : Except Fault Nat :=
  let parts := addressParts cs
  if 4 < parts.length then .error .invalidAddress4
  else
    match (addressNumbers parts).map List.reverse with
    | some (last :: higher) =>
      if last < Nat.pow 256 (4 - higher.length) ∧ higher.all (· ≤ 255) then
        .ok (addressValue last 3 higher.reverse)
      else .error .invalidAddress4
    | _ => .error .invalidAddress4

/-- The four bytes of an address between dots. -/
def address4Text (n : Nat) : List Char :=
  Text.digits (n / 16777216 % 256) ++ '.' :: Text.digits (n / 65536 % 256) ++ '.' ::
    Text.digits (n / 256 % 256) ++ '.' :: Text.digits (n % 256)

/-! ## IPv6 -/

/-- The pieces read so far and, if a run was left out, how many stand before it. -/
structure Pieces where
  read : List Nat
  gap : Option Nat

/-- Takes up to some hexadecimal digits. -/
def takeHex : Nat → Nat → List Char → Nat × List Char
  | 0, v, cs => (v, cs)
  | _ + 1, v, [] => (v, [])
  | n + 1, v, c :: cs =>
    match hexDigit? c with
    | some d => takeHex n (v * 16 + d) cs
    | none => (v, c :: cs)

/-- A byte in base ten without a leading zero, given its value so far. -/
def decimalByte : Option Nat → List Char → Option (Nat × List Char)
  | v, [] => v.map (·, [])
  | v, c :: cs =>
    if Text.isDigit c then
      let d := c.toNat - 48
      match v with
      | none => decimalByte (some d) cs
      | some 0 => none
      | some n => if n * 10 + d ≤ 255 then decimalByte (some (n * 10 + d)) cs else none
    else v.map (·, c :: cs)

/-- The two pieces of an IPv4 address that ends an IPv6 address. -/
def embeddedAddress (cs : List Char) : Option (List Nat) := do
  let dot : List Char → Option (List Char)
    | '.' :: rest => some rest
    | _ => none
  let (a, cs) ← decimalByte none cs
  let (b, cs) ← decimalByte none (← dot cs)
  let (c, cs) ← decimalByte none (← dot cs)
  let (d, cs) ← decimalByte none (← dot cs)
  if cs = [] then some [a * 256 + b, c * 256 + d] else none

/-- Reads pieces to the end.  Each step but the last passes a character. -/
def piecesFrom : Nat → Pieces → List Char → Option Pieces
  | 0, _, _ => none
  | _, p, [] => some p
  | fuel + 1, p, ':' :: cs =>
    let here := p.read.length
    if 8 ≤ here ∨ p.gap.isSome then none
    else piecesFrom fuel ⟨p.read ++ [0], some (here + 1)⟩ cs
  | fuel + 1, p, cs =>
    if 8 ≤ p.read.length then none
    else
      let (v, rest) := takeHex 4 0 cs
      match rest with
      | [] => piecesFrom fuel { p with read := p.read ++ [v] } []
      | '.' :: _ =>
        if rest.length = cs.length ∨ 6 < p.read.length then none
        else (embeddedAddress cs).map fun ps => { p with read := p.read ++ ps }
      | ':' :: more =>
        if more = [] then none else piecesFrom fuel { p with read := p.read ++ [v] } more
      | _ => none

/-- Fills a run that was left out. -/
def Pieces.complete (p : Pieces) : Option (List Nat) :=
  match p.gap with
  | none => if p.read.length = 8 then some p.read else none
  | some n =>
    if 8 < p.read.length then none
    else some (p.read.take n ++ List.replicate (8 - p.read.length) 0 ++ p.read.drop n)

/-- An IPv6 address, without its brackets. -/
def address6 (cs : List Char) : Except Fault (List Nat) :=
  let start : Option (Pieces × List Char) :=
    match cs with
    | ':' :: ':' :: rest => some (⟨[0], some 1⟩, rest)
    | ':' :: _ => none
    | [] => none
    | [_] => none
    | cs => some (⟨[], none⟩, cs)
  match (start.bind fun s => piecesFrom (cs.length + 1) s.1 s.2).bind Pieces.complete with
  | some ps => .ok ps
  | none => .error .invalidAddress6

/-- The number of zeros at the front. -/
def zeroRun : List Nat → Nat
  | 0 :: rest => zeroRun rest + 1
  | _ => 0

/-- The first longest run of zeros: where it starts and its length. -/
def longestZeroRun : Nat → List Nat → Nat × Nat
  | _, [] => (0, 0)
  | i, p :: rest =>
    let here := zeroRun (p :: rest)
    let later := longestZeroRun (i + 1) rest
    if later.2 ≤ here then (i, here) else later

/-- Pieces between colons. -/
def piecesText (ps : List Nat) : List Char :=
  List.intercalate [':'] (ps.map Text.hexDigits)

/-- The shortest text of an IPv6 address: the first longest run of two or more zeros is left out. -/
def address6Text (ps : List Nat) : List Char :=
  let (i, n) := longestZeroRun 0 ps
  if n < 2 then piecesText ps
  else piecesText (ps.take i) ++ ':' :: ':' :: piecesText (ps.drop (i + n))

end Courier.Url
