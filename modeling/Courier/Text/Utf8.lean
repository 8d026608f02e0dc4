/-!
# UTF-8

Text travels as bytes.  `encode` writes characters, `units` reads bytes back as a list of
characters in which `none` stands for a maximal ill-formed part.  The two readers are views of
`units`: `decode?` insists that no part is ill-formed, `decodeLossy` puts U+FFFD in its place.

Main statement: a text that `decode?` accepts is the text that `decodeLossy` gives
(`decodeLossy_of_decode?`), so no replacement is introduced into well-formed input.
-/

namespace Courier.Text.Utf8

/-! ## Writing -/

/-- The byte with the given value below 256. -/
def byte (n : Nat) : UInt8 := UInt8.ofNat n

/-- One to four bytes, by the size of the code point. -/
def encodeChar (c : Char) : List UInt8 :=
  let n := c.toNat
  if n < 0x80 then [byte n]
  else if n < 0x800 then [byte (0xC0 + n / 64), byte (0x80 + n % 64)]
  else if n < 0x10000 then
    [byte (0xE0 + n / 4096), byte (0x80 + n / 64 % 64), byte (0x80 + n % 64)]
  else
    [byte (0xF0 + n / 262144), byte (0x80 + n / 4096 % 64), byte (0x80 + n / 64 % 64),
      byte (0x80 + n % 64)]

/-- The bytes of a text, character by character. -/
def encode (cs : List Char) : List UInt8 := cs.flatMap encodeChar

/-- The bytes of a string. -/
def bytesOf (s : String) : List UInt8 := encode s.toList

/-! ## Reading -/

/-- A sequence that has begun: the bytes still to come, the value so far, and the range that the
next byte must lie in. -/
structure Pending where
  left : Nat
  value : Nat
  low : UInt8
  high : UInt8

/-- What a byte does at the start of a character. -/
inductive Start where
  | char (c : Char)
  | open (p : Pending)
  | bad

/-- The first byte fixes the length, and for some lengths a narrower range for the second byte,
which shuts out overlong forms, surrogates and values above U+10FFFF. -/
def start (b : UInt8) : Start :=
  let n := b.toNat
  if n < 0x80 then .char (Char.ofNat n)
  else if n < 0xC2 then .bad
  else if n < 0xE0 then .open ⟨1, n - 0xC0, 0x80, 0xBF⟩
  else if n = 0xE0 then .open ⟨2, 0, 0xA0, 0xBF⟩
  else if n = 0xED then .open ⟨2, 13, 0x80, 0x9F⟩
  else if n < 0xF0 then .open ⟨2, n - 0xE0, 0x80, 0xBF⟩
  else if n = 0xF0 then .open ⟨3, 0, 0x90, 0xBF⟩
  else if n < 0xF4 then .open ⟨3, n - 0xF0, 0x80, 0xBF⟩
  else if n = 0xF4 then .open ⟨3, 4, 0x80, 0x8F⟩
  else .bad

/-- Reads on from a sequence that may have begun. -/
def unitsFrom : Option Pending → List UInt8 → List (Option Char)
  | none, [] => []
  | some _, [] => [none]
  | none, b :: bs =>
    match start b with
    | .char c => some c :: unitsFrom none bs
    | .open p => unitsFrom (some p) bs
    | .bad => none :: unitsFrom none bs
  | some p, b :: bs =>
    if p.low ≤ b ∧ b ≤ p.high then
      let value := p.value * 64 + b.toNat % 64
      if p.left ≤ 1 then some (Char.ofNat value) :: unitsFrom none bs
      else unitsFrom (some ⟨p.left - 1, value, 0x80, 0xBF⟩) bs
    else
      match start b with
      | .char c => none :: some c :: unitsFrom none bs
      | .open q => none :: unitsFrom (some q) bs
      | .bad => none :: none :: unitsFrom none bs

/-- The characters of a byte sequence; `none` stands for a maximal ill-formed part. -/
def units (bs : List UInt8) : List (Option Char) := unitsFrom none bs

/-- All characters, if every unit is one. -/
def allSome : List (Option Char) → Option (List Char)
  | [] => some []
  | some c :: us => (allSome us).map (c :: ·)
  | none :: _ => none

/-- The text of a well-formed byte sequence. -/
def decode? (bs : List UInt8) : Option (List Char) := allSome (units bs)

/-- The text of any byte sequence, each maximal ill-formed part replaced by U+FFFD. -/
def decodeLossy (bs : List UInt8) : List Char := (units bs).map (·.getD '\uFFFD')

/-- `decode?` as a string. -/
def string? (bs : List UInt8) : Option String := (decode? bs).map String.ofList

/-- `decodeLossy` as a string. -/
def stringLossy (bs : List UInt8) : String := String.ofList (decodeLossy bs)

theorem map_getD_of_allSome {us : List (Option Char)} {cs : List Char}
    (h : allSome us = some cs) : us.map (·.getD '\uFFFD') = cs := by
  induction us generalizing cs with
  | nil => simpa [allSome] using h
  | cons u us ih =>
    cases u with
    | none => simp [allSome] at h
    | some c =>
      obtain ⟨ds, hds, rfl⟩ := Option.map_eq_some_iff.1 h
      simp [ih hds]

/-- Well-formed input is read without any replacement. -/
theorem decodeLossy_of_decode? {bs : List UInt8} {cs : List Char} (h : decode? bs = some cs) :
    decodeLossy bs = cs :=
  map_getD_of_allSome h

end Courier.Text.Utf8
