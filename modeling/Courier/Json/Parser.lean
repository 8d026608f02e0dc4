import Courier.Json.Error
import Courier.Text.Utf8

/-!
# Reading JSON

The reader goes over bytes, because places are counted in bytes and a body need not be text.  It
accepts exactly one value between blanks, nested less than 128 deep.

* An integer of 64 bits, signed or unsigned, is kept exactly; `-0` and all other numbers become
  floating point: the first digits that fit 64 bits make a significand, which is then multiplied or
  divided by a power of ten.
* Of members with one name the last stands.
-/

namespace Courier.Json

/-- The bytes that are left and the place of the first of them. -/
structure Cursor where
  rest : List UInt8
  position : Position

/-- What a step gives: a result and where it stopped. -/
abbrev Step (α : Type) := α × Cursor

namespace Cursor

/-- The start of a byte sequence. -/
def ofBytes (bs : List UInt8) : Cursor := ⟨bs, .start⟩

/-- The next byte. -/
def head? (c : Cursor) : Option UInt8 := c.rest.head?

/-- One byte further. -/
def next (c : Cursor) : Cursor :=
  match c.rest with
  | [] => c
  | b :: bs => ⟨bs, c.position.after b⟩

/-- The place behind the next byte, which is what a fault of the next byte is given. -/
def peekPosition (c : Cursor) : Position := c.next.position

/-- Drops the bytes of a class from the front, moving the place along. -/
def dropWhileFrom (p : UInt8 → Bool) : List UInt8 → Position → Cursor
  | [], at' => ⟨[], at'⟩
  | b :: bs, at' => if p b then dropWhileFrom p bs (at'.after b) else ⟨b :: bs, at'⟩

/-- Drops the bytes of a class from the front. -/
def dropWhile (p : UInt8 → Bool) (c : Cursor) : Cursor := dropWhileFrom p c.rest c.position

/-- A fault at the present place. -/
def fail {α : Type} (c : Cursor) (f : Fault) : Except Error α := .error ⟨f, c.position⟩

/-- A fault of the next byte. -/
def failAhead {α : Type} (c : Cursor) (f : Fault) : Except Error α := .error ⟨f, c.peekPosition⟩

end Cursor

/-! ## Character classes -/

/-- Blank, line feed, tab and carriage return. -/
def isSpace (b : UInt8) : Bool := b == 32 || b == 10 || b == 9 || b == 13

/-- A decimal digit. -/
def isDigit (b : UInt8) : Bool := 48 ≤ b && b ≤ 57

/-- The value of a decimal digit. -/
def digitOf (b : UInt8) : Nat := b.toNat - 48

/-- The value of a hexadecimal digit. -/
def hexOf? (b : UInt8) : Option Nat :=
  let n := b.toNat
  if 48 ≤ n ∧ n ≤ 57 then some (n - 48)
  else if 97 ≤ n ∧ n ≤ 102 then some (n - 87)
  else if 65 ≤ n ∧ n ≤ 70 then some (n - 55)
  else none

/-- Drops blanks. -/
def skipSpace (c : Cursor) : Cursor := c.dropWhile isSpace

/-! ## Numbers -/

/-- Takes digits into a significand of 64 bits and counts them; stops before the digit that would
not fit. -/
def significand : Nat → Nat → List UInt8 → Position → Nat × Nat × Cursor
  | s, n, [], at' => (s, n, ⟨[], at'⟩)
  | s, n, b :: bs, at' =>
    if isDigit b ∧ s * 10 + digitOf b ≤ Text.maxU64 then
      significand (s * 10 + digitOf b) (n + 1) bs (at'.after b)
    else (s, n, ⟨b :: bs, at'⟩)

/-- Counts and drops digits. -/
def skipDigits : Nat → List UInt8 → Position → Nat × Cursor
  | n, [], at' => (n, ⟨[], at'⟩)
  | n, b :: bs, at' =>
    if isDigit b then skipDigits (n + 1) bs (at'.after b) else (n, ⟨b :: bs, at'⟩)

/-- Multiplies by a power of ten; a power beyond the table of 308 is taken in steps.  `none` means
that the result is not finite.  Four steps bring any significand to zero. -/
def scaleByTen : Nat → Binary64 → Int → Option Binary64
  | 0, x, _ => some x
  | fuel + 1, x, e =>
    if e.natAbs ≤ 308 then
      if 0 ≤ e then x.mul? (Binary64.powerOfTen e.toNat)
      else x.div? (Binary64.powerOfTen (-e).toNat)
    else if x.isZero then some x
    else if 0 ≤ e then none
    else
      match x.div? (Binary64.powerOfTen 308) with
      | some y => scaleByTen fuel y (e + 308)
      | none => none

/-- The floating-point number `± s * 10 ^ e`. -/
def realOf? (negative : Bool) (s : Nat) (e : Int) : Option Binary64 :=
  match Binary64.ofRatio? false s 1 with
  | none => none
  | some x => (scaleByTen 4 x e).map fun y => if negative then y.neg else y

/-- A floating-point number, or a fault at the place where its text ends. -/
def realAt (negative : Bool) (s : Nat) (e : Int) (c : Cursor) : Except Error (Step Number) :=
  match realOf? negative s e with
  | some x => .ok (.real x, c)
  | none => c.fail .outOfRange

/-- The digits of a power of ten.  A power beyond 31 bits is an overflow, or zero if it is negative
or the significand is zero. -/
def exponentDigits (negative : Bool) (s : Nat) (start : Int) (down : Bool) :
    Nat → List UInt8 → Position → Except Error (Step Number)
  | e, [], at' => realAt negative s (if down then start - e else start + e) ⟨[], at'⟩
  | e, b :: bs, at' =>
    if isDigit b then
      let e' := e * 10 + digitOf b
      let c : Cursor := ⟨bs, at'.after b⟩
      if e' ≤ 2147483647 then exponentDigits negative s start down e' bs c.position
      else if s ≠ 0 ∧ !down then c.fail .outOfRange
      else .ok (.real (Binary64.zero negative), (skipDigits 0 c.rest c.position).2)
    else realAt negative s (if down then start - e else start + e) ⟨b :: bs, at'⟩

/-- The power of ten behind `e` or `E`, on which the cursor stands. -/
def exponentPart (negative : Bool) (s : Nat) (start : Int) (c : Cursor) :
    Except Error (Step Number) :=
  let c := c.next
  let (down, c) :=
    match c.head? with
    | some 43 => (false, c.next)
    | some 45 => (true, c.next)
    | _ => (false, c)
  match c.head? with
  | none => c.fail .eofInValue
  | some b =>
    if isDigit b then
      exponentDigits negative s start down (digitOf b) c.next.rest c.next.position
    else c.next.fail .invalidNumber

/-- The end of a number: a power of ten or nothing. -/
def realTail (negative : Bool) (s : Nat) (e : Int) (c : Cursor) : Except Error (Step Number) :=
  match c.head? with
  | some 101 => exponentPart negative s e c
  | some 69 => exponentPart negative s e c
  | _ => realAt negative s e c

/-- The fraction behind the point on which the cursor stands.  Digits that no longer fit the
significand are dropped. -/
def fractionPart (negative : Bool) (s : Nat) (start : Int) (c : Cursor) :
    Except Error (Step Number) :=
  let (s, n, c) := significand s 0 c.next.rest c.next.position
  match c.head? with
  | some b =>
    if isDigit b then realTail negative s (start - n) (skipDigits 0 c.rest c.position).2
    else if n = 0 then c.failAhead .invalidNumber
    else realTail negative s (start - n) c
  | none => if n = 0 then c.failAhead .eofInValue else realTail negative s (start - n) c

/-- The end of a number whose integer part fits the significand. -/
def integerTail (negative : Bool) (s : Nat) (c : Cursor) : Except Error (Step Number) :=
  match c.head? with
  | some 46 => fractionPart negative s 0 c
  | some 101 => exponentPart negative s 0 c
  | some 69 => exponentPart negative s 0 c
  | _ =>
    if negative then
      if s = 0 ∨ 9223372036854775808 < s then realAt true s 0 c
      else .ok (.integer (-(s : Int)), c)
    else .ok (.integer s, c)

/-- A number without its sign. -/
def unsignedNumber (negative : Bool) (c : Cursor) : Except Error (Step Number) :=
  match c.head? with
  | none => c.fail .eofInValue
  | some b =>
    if b = 48 then
      match c.next.head? with
      | some d =>
        if isDigit d then c.next.failAhead .invalidNumber else integerTail negative 0 c.next
      | none => integerTail negative 0 c.next
    else if isDigit b then
      let (s, _, c) := significand 0 0 c.rest c.position
      match c.head? with
      | some d =>
        if isDigit d then
          let (n, c) := skipDigits 0 c.rest c.position
          match c.head? with
          | some 46 => fractionPart negative s n c
          | _ => realTail negative s n c
        else integerTail negative s c
      | none => integerTail negative s c
    else c.next.fail .invalidNumber

/-! ## Strings -/

/-- The value of four hexadecimal digits. -/
def hex4 (c : Cursor) : Except Error (Step Nat) :=
  match c.rest with
  | a :: b :: d :: e :: _ =>
    let c' := c.next.next.next.next
    match hexOf? a, hexOf? b, hexOf? d, hexOf? e with
    | some w, some x, some y, some z => .ok (((w * 16 + x) * 16 + y) * 16 + z, c')
    | _, _, _, _ => c'.fail .invalidEscape
  | _ => (c.dropWhile fun _ => true).fail .eofInString

/-- Takes one byte that must be the given one; any other byte ends a hexadecimal escape too
early. -/
def pairByte (b : UInt8) (c : Cursor) : Except Error Cursor :=
  match c.head? with
  | none => c.fail .eofInString
  | some x => if x = b then .ok c.next else c.next.fail .hexEnd

/-- The character of an escape by number.  A value above the basic plane takes two escapes. -/
def numberedEscape (c : Cursor) : Except Error (Step Char) := do
  let (n, c) ← hex4 c
  if 0xDC00 ≤ n ∧ n ≤ 0xDFFF then c.fail .loneSurrogate
  else if n < 0xD800 ∨ 0xDBFF < n then .ok (Char.ofNat n, c)
  else
    let c ← pairByte 92 c
    let c ← pairByte 117 c
    let (m, c) ← hex4 c
    if m < 0xDC00 ∨ 0xDFFF < m then c.fail .loneSurrogate
    else .ok (Char.ofNat ((n - 0xD800) * 1024 + (m - 0xDC00) + 0x10000), c)

/-- The character of an escape, behind its backslash. -/
def escape (c : Cursor) : Except Error (Step Char) :=
  match c.head? with
  | none => c.fail .eofInString
  | some 34 => .ok ('"', c.next)
  | some 92 => .ok ('\\', c.next)
  | some 47 => .ok ('/', c.next)
  | some 98 => .ok ('\x08', c.next)
  | some 102 => .ok ('\x0c', c.next)
  | some 110 => .ok ('\n', c.next)
  | some 114 => .ok ('\r', c.next)
  | some 116 => .ok ('\t', c.next)
  | some 117 => numberedEscape c.next
  | some _ => c.next.fail .invalidEscape

/-- The rest of a string, given the bytes read so far in reverse.  The bytes must be text; if they
are not, the fault lies at the closing quote. -/
def stringRest : Nat → List UInt8 → Cursor → Except Error (Step String)
  | 0, _, c => c.fail .eofInString
  | fuel + 1, seen, c =>
    match c.head? with
    | none => c.fail .eofInString
    | some 34 =>
      match Text.Utf8.string? seen.reverse with
      | some s => .ok (s, c.next)
      | none => c.fail .invalidCodePoint
    | some 92 => do
      let (x, c) ← escape c.next
      stringRest fuel ((Text.Utf8.encodeChar x).reverse ++ seen) c
    | some b =>
      if b < 32 then c.next.fail .controlInString else stringRest fuel (b :: seen) c.next

/-- A string, behind its opening quote. -/
def stringBody (c : Cursor) : Except Error (Step String) := stringRest (c.rest.length + 1) [] c

/-! ## Values -/

/-- The remaining letters of a literal. -/
def literal : List UInt8 → Cursor → Except Error Cursor
  | [], c => .ok c
  | w :: ws, c =>
    match c.head? with
    | none => c.fail .eofInValue
    | some b => if b = w then literal ws c.next else c.next.fail .expectedIdent

/-- What follows the name of a member. -/
def colon (c : Cursor) : Except Error Cursor :=
  let c := skipSpace c
  match c.head? with
  | some 58 => .ok c.next
  | some _ => c.failAhead .expectedColon
  | none => c.failAhead .eofInObject

mutual

/-- A value.  The first number bounds the steps: no step but the first of an array or object goes
without a byte, so twice the number of bytes is enough.  The second is one more than the depth that
is left. -/
def value : Nat → Nat → Cursor → Except Error (Step Value)
  | 0, _, c => c.fail .eofInValue
  | fuel + 1, depth, c =>
    let c := skipSpace c
    match c.head? with
    | none => c.failAhead .eofInValue
    | some 110 => do
      let c ← literal [117, 108, 108] c.next
      .ok (.null, c)
    | some 116 => do
      let c ← literal [114, 117, 101] c.next
      .ok (.bool true, c)
    | some 102 => do
      let c ← literal [97, 108, 115, 101] c.next
      .ok (.bool false, c)
    | some 45 => do
      let (n, c) ← unsignedNumber true c.next
      .ok (.number n, c)
    | some 34 => do
      let (s, c) ← stringBody c.next
      .ok (.string s, c)
    | some 91 =>
      if depth ≤ 1 then c.failAhead .tooDeep
      else do
        let (items, c) ← firstItem fuel (depth - 1) c.next
        .ok (.array items, c)
    | some 123 =>
      if depth ≤ 1 then c.failAhead .tooDeep
      else do
        let (members, c) ← firstMember fuel (depth - 1) c.next
        .ok (.object members, c)
    | some b =>
      if isDigit b then do
        let (n, c) ← unsignedNumber false c
        .ok (.number n, c)
      else c.failAhead .expectedValue

/-- The items behind an opening bracket. -/
def firstItem : Nat → Nat → Cursor → Except Error (Step (List Value))
  | 0, _, c => c.fail .eofInList
  | fuel + 1, depth, c =>
    let c := skipSpace c
    match c.head? with
    | none => c.failAhead .eofInList
    | some 93 => .ok ([], c.next)
    | some _ => do
      let (v, c) ← value fuel depth c
      let (vs, c) ← moreItems fuel depth c
      .ok (v :: vs, c)

/-- The items behind an item. -/
def moreItems : Nat → Nat → Cursor → Except Error (Step (List Value))
  | 0, _, c => c.fail .eofInList
  | fuel + 1, depth, c =>
    let c := skipSpace c
    match c.head? with
    | none => c.failAhead .eofInList
    | some 93 => .ok ([], c.next)
    | some 44 =>
      let c := skipSpace c.next
      match c.head? with
      | none => c.failAhead .eofInValue
      | some 93 => c.failAhead .trailingComma
      | some _ => do
        let (v, c) ← value fuel depth c
        let (vs, c) ← moreItems fuel depth c
        .ok (v :: vs, c)
    | some _ => c.failAhead .expectedListEnd

/-- The members behind an opening brace. -/
def firstMember : Nat → Nat → Cursor → Except Error (Step (List (String × Value)))
  | 0, _, c => c.fail .eofInObject
  | fuel + 1, depth, c =>
    let c := skipSpace c
    match c.head? with
    | none => c.failAhead .eofInObject
    | some 125 => .ok ([], c.next)
    | some 34 => do
      let (k, c) ← stringBody c.next
      let c ← colon c
      let (v, c) ← value fuel depth c
      moreMembers fuel depth [(k, v)] c
    | some _ => c.failAhead .keyNotString

/-- The members behind those of a table. -/
def moreMembers : Nat → Nat → List (String × Value) → Cursor →
    Except Error (Step (List (String × Value)))
  | 0, _, _, c => c.fail .eofInObject
  | fuel + 1, depth, seen, c =>
    let c := skipSpace c
    match c.head? with
    | none => c.failAhead .eofInObject
    | some 125 => .ok (seen, c.next)
    | some 44 =>
      let c := skipSpace c.next
      match c.head? with
      | none => c.failAhead .eofInValue
      | some 125 => c.failAhead .trailingComma
      | some 34 => do
        let (k, c) ← stringBody c.next
        let c ← colon c
        let (v, c) ← value fuel depth c
        moreMembers fuel depth (Entries.insert k v seen) c
      | some _ => c.failAhead .keyNotString
    | some _ => c.failAhead .expectedObjectEnd

end

/-- Nothing but blanks may follow. -/
def finish (c : Cursor) : Except Error Unit :=
  let c := skipSpace c
  match c.head? with
  | none => .ok ()
  | some _ => c.failAhead .trailingText

/-- One more than the depth to which arrays and objects may nest. -/
def depthLimit : Nat := 128

/-- The value that a byte sequence writes. -/
def parseBytes (bs : List UInt8) : Except Error Value := do
  let (v, c) ← value (2 * bs.length + 2) depthLimit (.ofBytes bs)
  finish c
  .ok v

/-- The value that a string writes. -/
def parse (s : String) : Except Error Value := parseBytes (Text.Utf8.bytesOf s)

end Courier.Json
