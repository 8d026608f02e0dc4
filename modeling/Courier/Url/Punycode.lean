/-!
# Punycode

Writes any text with ASCII letters, digits and hyphens.  The ASCII characters come first, then a
hyphen if there are any, then the other characters as numbers: in the order of their code points,
each number says how many places to go on from the last insertion.

Numbers have digits of base 36, the least significant first; how large the last digit may be depends
on a bias that follows the numbers written so far.
-/

namespace Courier.Url.Punycode

/-- A letter for 0 to 25, a digit for 26 to 35. -/
def digitChar (d : Nat) : Char := Char.ofNat (if d < 26 then 97 + d else 22 + d)

/-- The value of a digit. -/
def digitValue? (c : Char) : Option Nat :=
  let n := c.toNat
  if 97 ≤ n ∧ n ≤ 122 then some (n - 97)
  else if 65 ≤ n ∧ n ≤ 90 then some (n - 65)
  else if 48 ≤ n ∧ n ≤ 57 then some (n - 22)
  else none

/-- The digit values from which on a number goes on, at a position given in steps of 36. -/
def threshold (position bias : Nat) : Nat := min 26 (max 1 (position - bias))

theorem threshold_pos (position bias : Nat) : 1 ≤ threshold position bias := by
  unfold threshold; omega

/-! ## Bias -/

/-- Divides a distance until it is small, counting the divisions in steps of 36. -/
def settle (distance position : Nat) : Nat :=
  if 455 < distance then settle (distance / 35) (position + 36)
  else position + 36 * distance / (distance + 38)
termination_by distance
decreasing_by exact Nat.div_lt_self (by omega) (by omega)

/-- The bias after a distance; `count` characters are written then. -/
def nextBias (distance count : Nat) (isFirst : Bool) : Nat :=
  let d := if isFirst then distance / 700 else distance / 2
  settle (d + d / count) 0

/-! ## Writing -/

/-- The digits of a number, from a position on. -/
def writeNumber (bias position n : Nat) : List Char :=
  let t := threshold position bias
  if n < t then [digitChar n]
  else
    digitChar (t + (n - t) % (36 - t)) :: writeNumber bias (position + 36) ((n - t) / (36 - t))
termination_by n
decreasing_by
  have h1 := threshold_pos position bias
  exact Nat.lt_of_le_of_lt (Nat.div_le_self _ _) (by omega)

/-- What writing has done: digits, the distance from the last insertion, the bias, and how many
characters are written. -/
structure Writing where
  digits : List Char
  distance : Nat
  bias : Nat
  count : Nat

/-- Passes one character while those with a certain code point are inserted. -/
def Writing.pass (basic n : Nat) (s : Writing) (c : Char) : Writing :=
  if c.toNat < n then { s with distance := s.distance + 1 }
  else if c.toNat = n then
    ⟨s.digits ++ writeNumber s.bias 36 s.distance, 0,
      nextBias s.distance (s.count + 1) (s.count == basic), s.count + 1⟩
  else s

/-- Inserts the characters of several code points in turn; `next` is the least one that may come. -/
def insertAll (cs : List Char) (basic : Nat) : List Nat → Nat → Writing → Writing
  | [], _, s => s
  | n :: rest, next, s =>
    let s := { s with distance := s.distance + (n - next) * (s.count + 1) }
    let s := cs.foldl (Writing.pass basic n) s
    insertAll cs basic rest (n + 1) { s with distance := s.distance + 1 }

/-- Whether a character is one of ASCII. -/
def isAscii (c : Char) : Bool := c.toNat < 0x80

/-- The code points outside ASCII, in order and once each. -/
def wideCodePoints (cs : List Char) : List Nat :=
  (((cs.filter (!isAscii ·)).map Char.toNat).mergeSort).eraseDups

/-- The form of a text in ASCII. -/
def encode (cs : List Char) : List Char :=
  let basic := cs.filter isAscii
  let s := insertAll cs basic.length (wideCodePoints cs) 0x80 ⟨[], 0, 72, basic.length⟩
  basic ++ (if basic = [] then [] else ['-']) ++ s.digits

/-! ## Reading -/

/-- The number in front of a text, added to `start` with a weight, and the rest of the text. -/
def readNumber (bias : Nat) : List Char → Nat → Nat → Nat → Option (Nat × List Char)
  | [], _, _, _ => none
  | c :: rest, position, weight, start =>
    match digitValue? c with
    | none => none
    | some d =>
      let t := threshold position bias
      if d < t then some (start + d * weight, rest)
      else readNumber bias rest (position + 36) (weight * (36 - t)) (start + d * weight)

theorem length_of_readNumber {bias : Nat} {cs rest : List Char} {position weight start n : Nat}
    (h : readNumber bias cs position weight start = some (n, rest)) : rest.length < cs.length := by
  induction cs generalizing position weight start with
  | nil => simp [readNumber] at h
  | cons c cs ih =>
    rw [readNumber] at h
    split at h
    · cases h
    · simp only at h
      split at h
      · cases h; simp
      · have := ih h
        simp only [List.length_cons]
        omega

/-- Inserts the characters whose numbers a text holds. -/
def readAll (bias next place : Nat) (cs : List Char) (text : List Char) : Option (List Char) :=
  match text with
  | [] => some cs
  | d :: ds =>
    match _h : readNumber bias (d :: ds) 36 1 place with
    | none => none
    | some (end', rest) =>
      let count := cs.length + 1
      let n := next + end' / count
      if n.isValidChar then
        readAll (nextBias (end' - place) count (place == 0)) n (end' % count + 1)
          (cs.insertIdx (end' % count) (Char.ofNat n)) rest
      else none
termination_by text.length
decreasing_by exact length_of_readNumber _h

/-- The part before the last hyphen and the part behind it.  A hyphen in front of all separates
nothing. -/
def splitBasic (cs : List Char) : List Char × List Char :=
  let digits := (cs.reverse.takeWhile (· != '-')).reverse
  let basic := (cs.take (cs.length - digits.length)).dropLast
  if basic = [] then ([], cs) else (basic, digits)

/-- The text of a form in ASCII. -/
def decode? (cs : List Char) : Option (List Char) :=
  let (basic, digits) := splitBasic cs
  if basic.all isAscii then readAll 72 0x80 0 basic digits else none

end Courier.Url.Punycode
