import Courier.Text.Numbered
import Courier.Text.Numeral

/-!
# Quoted text

The form in which messages show a string: between double quotes, with short escapes for the common
controls, the quote and the backslash, and every character of `isNumbered` as its code point in
braces.
-/

namespace Courier.Text

/-- How one character stands inside quotes. -/
def quoteChar (c : Char) : List Char :=
  match c with
  | '\x00' => ['\\', '0']
  | '\t' => ['\\', 't']
  | '\r' => ['\\', 'r']
  | '\n' => ['\\', 'n']
  | '\\' => ['\\', '\\']
  | '"' => ['\\', '"']
  | c =>
    if isNumbered c then ['\\', 'u', '\x7b'] ++ hexDigits c.toNat ++ ['\x7d'] else [c]

/-- A text between double quotes. -/
def quote (cs : List Char) : List Char := '"' :: cs.flatMap quoteChar ++ ['"']

/-- A string between double quotes. -/
def quoted (s : String) : String := String.ofList (quote s.toList)

end Courier.Text
