import Courier.Json.Value
import Courier.Number.Shortest
import Courier.Text.Numeral

/-!
# JSON text

Two layouts of a value: `compact` has no blanks, `pretty` puts each item and member on a line of its
own, indented by two blanks a level.  Within strings the quote, the backslash and the C0 controls
are escaped and nothing else.
-/

namespace Courier.Json

/-- How one character stands inside a JSON string. -/
def escapeChar (c : Char) : List Char :=
  match c with
  | '"' => ['\\', '"']
  | '\\' => ['\\', '\\']
  | '\n' => ['\\', 'n']
  | '\r' => ['\\', 'r']
  | '\t' => ['\\', 't']
  | '\x08' => ['\\', 'b']
  | '\x0c' => ['\\', 'f']
  | c =>
    if c.toNat < 0x20 then
      ['\\', 'u', '0', '0', Nat.digitChar (c.toNat / 16), Nat.digitChar (c.toNat % 16)]
    else [c]

/-- A string between quotes. -/
def stringText (s : String) : List Char := '"' :: s.toList.flatMap escapeChar ++ ['"']

/-- The text of a number. -/
def Number.text : Number → List Char
  | .integer n => Text.signedDigits n
  | .real x => x.text

namespace Value

mutual

/-- The text of a value without blanks. -/
def compact : Value → List Char
  | .null => ['n', 'u', 'l', 'l']
  | .bool true => ['t', 'r', 'u', 'e']
  | .bool false => ['f', 'a', 'l', 's', 'e']
  | .number n => n.text
  | .string s => stringText s
  | .array items => '[' :: compactItems items
  | .object members => '\x7b' :: compactMembers members

/-- The items of an array and its closing bracket. -/
def compactItems : List Value → List Char
  | [] => [']']
  | v :: rest => compact v ++ compactMoreItems rest

/-- Further items, each after a comma, and the closing bracket. -/
def compactMoreItems : List Value → List Char
  | [] => [']']
  | v :: rest => ',' :: compact v ++ compactMoreItems rest

/-- The members of an object and its closing brace. -/
def compactMembers : List (String × Value) → List Char
  | [] => ['\x7d']
  | (k, v) :: rest => stringText k ++ ':' :: compact v ++ compactMoreMembers rest

/-- Further members, each after a comma, and the closing brace. -/
def compactMoreMembers : List (String × Value) → List Char
  | [] => ['\x7d']
  | (k, v) :: rest => ',' :: stringText k ++ ':' :: compact v ++ compactMoreMembers rest

end

/-- A line break and the blanks of a level. -/
def newLine (level : Nat) : List Char := '\n' :: List.replicate (2 * level) ' '

mutual

/-- The text of a value with one line for each item and member, at a level of indentation. -/
def prettyAt (level : Nat) : Value → List Char
  | .array (v :: rest) =>
    '[' :: newLine (level + 1) ++ prettyAt (level + 1) v ++ prettyMoreItems level rest
  | .object ((k, v) :: rest) =>
    '\x7b' :: newLine (level + 1) ++ stringText k ++ ':' :: ' ' :: prettyAt (level + 1) v
      ++ prettyMoreMembers level rest
  | v => compact v

/-- Further items on lines of their own, and the closing bracket. -/
def prettyMoreItems (level : Nat) : List Value → List Char
  | [] => newLine level ++ [']']
  | v :: rest =>
    ',' :: newLine (level + 1) ++ prettyAt (level + 1) v ++ prettyMoreItems level rest

/-- Further members on lines of their own, and the closing brace. -/
def prettyMoreMembers (level : Nat) : List (String × Value) → List Char
  | [] => newLine level ++ ['\x7d']
  | (k, v) :: rest =>
    ',' :: newLine (level + 1) ++ stringText k ++ ':' :: ' ' :: prettyAt (level + 1) v
      ++ prettyMoreMembers level rest

end

/-- The text of a value over several lines. -/
def pretty (v : Value) : List Char := prettyAt 0 v

/-- `compact` as a string. -/
def compactText (v : Value) : String := String.ofList v.compact

/-- `pretty` as a string. -/
def prettyText (v : Value) : String := String.ofList v.pretty

end Value

end Courier.Json
