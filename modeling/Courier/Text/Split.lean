/-!
# Splitting text and small letters
-/

namespace Courier.Text

/-- Splits at each character of a class. -/
def splitAtAll (p : Char → Bool) : List Char → List (List Char)
  | [] => [[]]
  | c :: cs =>
    if p c then [] :: splitAtAll p cs
    else
      match splitAtAll p cs with
      | part :: rest => (c :: part) :: rest
      | [] => [[c]]

/-- Splits at the last character of a kind. -/
def splitAtLast? (sep : Char) : List Char → Option (List Char × List Char)
  | [] => none
  | c :: cs =>
    match splitAtLast? sep cs with
    | some (before, behind) => some (c :: before, behind)
    | none => if c = sep then some ([], cs) else none

/-- The small letter of an ASCII capital; other characters stay. -/
def smallLetter (c : Char) : Char :=
  if 'A' ≤ c ∧ c ≤ 'Z' then Char.ofNat (c.toNat + 32) else c

end Courier.Text
