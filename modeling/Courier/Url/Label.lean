import Courier.Unicode.Composition
import Courier.Unicode.Direction
import Courier.Unicode.Joining

/-!
# Labels of domain names

The rules for a label that is not all ASCII: it begins with no mark, joiners stand only where they
matter, and within a name that has letters written from right to left, each label has one direction.
-/

namespace Courier.Url

open Courier.Unicode

/-! ## Joiners -/

/-- Keeps letters apart that would join. -/
def nonJoiner : Char := '\u200c'

/-- Joins letters that would stand apart. -/
def joiner : Char := '\u200d'

/-- Whether letters before and behind a place would join; what is before is given last first. -/
def wouldJoin (before behind : List Char) : Bool :=
  (before.dropWhile isTransparent).head?.any joinsBehind
    && (behind.dropWhile isTransparent).head?.any joinsBefore

/-- Whether each joiner stands behind a mark that kills a vowel, or keeps letters apart that would
join; what is before the text is given last first. -/
def joinersFit : List Char → List Char → Bool
  | _, [] => true
  | before, c :: behind =>
    let fits :=
      if c = joiner then before.head?.any isVirama
      else if c = nonJoiner then before.head?.any isVirama || wouldJoin before behind
      else true
    fits && joinersFit (c :: before) behind

/-- Whether a text that is not all ASCII can be a label. -/
def isLabel (cs : List Char) : Bool := !(cs.head?.any isMark) && joinersFit [] cs

/-! ## Direction -/

/-- Whether a character makes the direction of a name matter. -/
def isDirecting (c : Char) : Bool :=
  direction c == .right || direction c == .arabicNumber

/-- What may stand within a label written from right to left. -/
def fitsRight : Direction → Bool
  | .left => false
  | _ => true

/-- What may end a label written from right to left. -/
def endsRight : Direction → Bool
  | .right => true
  | .arabicNumber => true
  | .europeanNumber => true
  | _ => false

/-- What may stand within a label written from left to right. -/
def fitsLeft : Direction → Bool
  | .right => false
  | .arabicNumber => false
  | _ => true

/-- What may end a label written from left to right. -/
def endsLeft : Direction → Bool
  | .left => true
  | .europeanNumber => true
  | _ => false

/-- Whether a label has one direction, which its first character gives; marks at its end do not
count, and digits of two kinds do not go together from right to left. -/
def hasOneDirection (cs : List Char) : Bool :=
  match cs.map direction with
  | [] => true
  | first :: rest =>
    let core := (rest.reverse.dropWhile (· == .nonspacing)).reverse
    match first with
    | .right =>
      core.all fitsRight && core.getLast?.all endsRight
        && !(core.contains .arabicNumber && core.contains .europeanNumber)
    | .left => core.all fitsLeft && core.getLast?.all endsLeft
    | _ => false

end Courier.Url
