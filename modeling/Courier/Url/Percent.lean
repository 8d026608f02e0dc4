import Courier.Text.Utf8

/-!
# Percent escapes

A byte that may not stand for itself in some part of a URL is written as `%` and two hexadecimal
digits.  Which ASCII characters are escaped depends on the part; controls and all bytes above ASCII
are escaped in every part.  In forms a blank is a `+` instead.
-/

namespace Courier.Url

/-! ## Escaping -/

/-- An uppercase hexadecimal digit. -/
def upperHexDigit (n : Nat) : Char := if n < 10 then Char.ofNat (48 + n) else Char.ofNat (55 + n)

/-- The escape of a byte. -/
def escapeByte (b : UInt8) : List Char :=
  ['%', upperHexDigit (b.toNat / 16), upperHexDigit (b.toNat % 16)]

/-- The escape of a character, byte by byte. -/
def escapeWhole (c : Char) : List Char := (Text.Utf8.encodeChar c).flatMap escapeByte

/-- Controls and all that is not ASCII. -/
def isUnsafe (c : Char) : Bool := c.toNat < 0x20 || 0x7F ≤ c.toNat

/-- Characters escaped in a fragment. -/
def inFragmentSet (c : Char) : Bool :=
  isUnsafe c || c == ' ' || c == '"' || c == '<' || c == '>' || c == '\x60'

/-- Characters escaped in a path. -/
def inPathSet (c : Char) : Bool :=
  inFragmentSet c || c == '#' || c == '?' || c == '\x7b' || c == '\x7d'

/-- Characters escaped in a name or password. -/
def inUserSet (c : Char) : Bool :=
  inPathSet c || c == '/' || c == ':' || c == ';' || c == '=' || c == '@' || c == '['
    || c == '\\' || c == ']' || c == '^' || c == '|'

/-- Characters escaped in a query; the apostrophe only in URLs of the web. -/
def inQuerySet (special : Bool) (c : Char) : Bool :=
  isUnsafe c || c == ' ' || c == '"' || c == '#' || c == '<' || c == '>' || (special && c == '\'')

/-- Escapes the characters of a set. -/
def escape (set : Char → Bool) (cs : List Char) : List Char :=
  cs.flatMap fun c => if set c then escapeWhole c else [c]

/-! ## Reading escapes -/

/-- The value of a hexadecimal digit. -/
def hexDigit? (c : Char) : Option Nat :=
  let n := c.toNat
  if 48 ≤ n ∧ n ≤ 57 then some (n - 48)
  else if 97 ≤ n ∧ n ≤ 102 then some (n - 87)
  else if 65 ≤ n ∧ n ≤ 70 then some (n - 55)
  else none

/-- The bytes of a text in which escapes are resolved; a `%` without two digits stands for
itself. -/
def unescape : List Char → List UInt8
  | [] => []
  | '%' :: a :: b :: rest =>
    match hexDigit? a, hexDigit? b with
    | some h, some l => UInt8.ofNat (h * 16 + l) :: unescape rest
    | _, _ => 0x25 :: unescape (a :: b :: rest)
  | c :: rest => Text.Utf8.encodeChar c ++ unescape rest

/-! ## Forms -/

/-- Characters that stand for themselves in a form. -/
def isFormChar (c : Char) : Bool :=
  ('0' ≤ c && c ≤ '9') || ('A' ≤ c && c ≤ 'Z') || ('a' ≤ c && c ≤ 'z') || c == '*' || c == '-'
    || c == '.' || c == '_'

/-- A name or value as it stands in a form. -/
def formText (s : String) : List Char :=
  s.toList.flatMap fun c =>
    if c = ' ' then ['+'] else if isFormChar c then [c] else escapeWhole c

/-- A name and its value in a form. -/
def formPair (p : String × String) : List Char := formText p.1 ++ '=' :: formText p.2

/-- Pairs behind what stands in a query already. -/
def appendForm (query : List Char) : List (String × String) → List Char
  | [] => query
  | p :: ps => appendForm ((if query = [] then [] else query ++ ['&']) ++ formPair p) ps

end Courier.Url
