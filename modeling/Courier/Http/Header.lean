import Courier.Table
import Courier.Text.Split
import Courier.Text.Utf8

/-!
# Header fields

A name is a token and counts in lower case; a value is any bytes without control characters other
than the tab.  `Headers` are a table, one value a name; `Fields` are what a message carries, where a
name may come more than once.
-/

namespace Courier.Http

/-! ## Names -/

/-- Characters of a header name. -/
def isTokenChar (c : Char) : Bool :=
  ('0' ≤ c && c ≤ '9') || ('A' ≤ c && c ≤ 'Z') || ('a' ≤ c && c ≤ 'z')
    || c == '!' || c == '#' || c == '$' || c == '%' || c == '&' || c == '\'' || c == '*'
    || c == '+' || c == '-' || c == '.' || c == '^' || c == '_' || c == '\x60' || c == '|'
    || c == '~'

/-- A text with its ASCII capitals made small. -/
def lower (s : String) : String := String.ofList (s.toList.map Text.smallLetter)

/-- The greatest length of a name. -/
def maxNameLength : Nat := 65535

/-- Whether a text is a header name. -/
def isName (s : String) : Bool :=
  let cs := s.toList
  !cs.isEmpty && cs.all isTokenChar && cs.length ≤ maxNameLength

/-- The lower-case form of a name, if the text is one. -/
def name? (s : String) : Option String := if isName s then some (lower s) else none

/-! ## Values -/

/-- Bytes of a header value. -/
def isValueByte (b : UInt8) : Bool := (0x20 ≤ b && b != 0x7F) || b == 0x09

/-- Whether a text is a header value. -/
def isValue (s : String) : Bool := (Text.Utf8.bytesOf s).all isValueByte

/-- Whether a byte is visible ASCII, a blank or a tab. -/
def isPlainByte (b : UInt8) : Bool := (0x20 ≤ b && b < 0x7F) || b == 0x09

/-- The text of a value that is plain ASCII. -/
def plainText? (value : List UInt8) : Option String :=
  if value.all isPlainByte then some (String.ofList (value.map fun b => Char.ofNat b.toNat))
  else none

/-! ## Collections -/

/-- One value for each name in lower case. -/
abbrev Headers := Table String

/-- The fields of a message in order, names in lower case. -/
abbrev Fields := List (String × List UInt8)

namespace Fields

/-- The first value under a name. -/
def first? (fields : Fields) (name : String) : Option (List UInt8) := fields.lookup name

/-- The first value under a name in any case, if it is plain ASCII. -/
def text? (fields : Fields) (name : String) : Option String :=
  (fields.first? (lower name)).bind plainText?

end Fields

end Courier.Http
