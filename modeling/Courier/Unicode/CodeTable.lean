import Courier.Text.Numeral
import Courier.Text.Split

/-!
# Tables of code points

A table is written as rows between blanks: a code point or a range of them in hexadecimal, and
perhaps a colon and what the table says of it, numbers between commas.  Rows are in increasing
order and do not overlap, so that a row is found by halving.
-/

namespace Courier.Unicode

/-- A range of code points and what is said of it. -/
structure Row where
  first : Nat
  last : Nat
  data : List Nat
  deriving Inhabited

/-- Rows in increasing order. -/
structure CodeTable where
  rows : Array Row

namespace CodeTable

/-- A hexadecimal number. -/
def hexNumber (cs : List Char) : Nat :=
  cs.foldl (fun n c => n * 16 + (Text.digitValue? 16 c).getD 0) 0

/-- Splits at the first character of a kind. -/
def splitAtFirst (sep : Char) (cs : List Char) : List Char × List Char :=
  (cs.takeWhile (· != sep), (cs.dropWhile (· != sep)).drop 1)

/-- The row of a text. -/
def readRow (cs : List Char) : Row :=
  let (range, data) := splitAtFirst ':' cs
  let (first, last) := splitAtFirst '-' range
  let numbers := if data = [] then [] else (Text.splitAtAll (· == ',') data).map hexNumber
  ⟨hexNumber first, hexNumber (if last = [] then first else last), numbers⟩

/-- The table of a text. -/
def ofText (s : String) : CodeTable :=
  let words := Text.splitAtAll (fun c => c == ' ' || c == '\n') s.toList
  ⟨((words.filter (· ≠ [])).map readRow).toArray⟩

/-- Finds the row of a number among those from `low` up to `high`. -/
def search (rows : Array Row) (n low high : Nat) : Option Row :=
  if low < high then
    let middle := (low + high) / 2
    match rows[middle]? with
    | none => none
    | some row =>
      if n < row.first then search rows n low middle
      else if row.last < n then search rows n (middle + 1) high
      else some row
  else none
termination_by high - low

/-- The row of a number. -/
def find? (t : CodeTable) (n : Nat) : Option Row := search t.rows n 0 t.rows.size

/-- Whether a table has a row for a character. -/
def holds (t : CodeTable) (c : Char) : Bool := (t.find? c.toNat).isSome

end CodeTable

end Courier.Unicode
