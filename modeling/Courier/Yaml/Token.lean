import Courier.Yaml.Character
import Courier.Yaml.Fault

/-!
# YAML tokens

The pieces of a text: indicators, the starts and ends of blocks that indentation implies, node
properties and scalars.  A `Readout` is what a stage could read before its first fault, so that a
fault far down a text does not hide what stands before it.
-/

namespace Courier.Yaml

/-- The items that were read, and the fault at which reading stopped, if it did not reach the
end. -/
structure Readout (α : Type) where
  items : List α
  fault : Option Fault
  deriving Repr

/-- How a scalar is written. -/
inductive Style where
  | plain
  | single
  | double
  | literal
  | folded
  deriving DecidableEq, Repr, Inhabited

/-- The kinds of tokens.  A tag is a handle, which a directive may abbreviate, and a suffix. -/
inductive TokenKind where
  | versionDirective (major minor : Nat)
  | tagDirective (handle uri : List Char)
  | documentStart
  | documentEnd
  | blockListStart
  | blockMapStart
  | blockEnd
  | flowListStart
  | flowListEnd
  | flowMapStart
  | flowMapEnd
  | listEntry
  | flowEntry
  | key
  | value
  | alias (name : List Char)
  | anchor (name : List Char)
  | tag (handle suffix : List Char)
  | scalar (style : Style) (text : List Char)
  | textEnd
  deriving DecidableEq, Repr, Inhabited

/-- A token, where it starts and where reading goes on behind it. -/
structure Token where
  kind : TokenKind
  start : Mark
  stop : Mark
  deriving DecidableEq, Repr, Inhabited

/-- The rest of a text and the place of its first character. -/
structure Source where
  rest : List Char
  mark : Mark
  deriving Repr

namespace Source

/-- Passes some characters of one line. -/
def skip (s : Source) (n : Nat) : Source := ⟨s.rest.drop n, s.mark.right n⟩

/-- Passes one line end, if one is here. -/
def skipBreak (s : Source) : Source :=
  match s.rest with
  | [] => s
  | c :: cs => if isBreak c then ⟨cs, s.mark.down⟩ else s

/-- The characters of a class at the front of the line. -/
def take (p : Char → Bool) (s : Source) : List Char := s.rest.takeWhile p

/-- Passes the characters of a class, none of which ends a line. -/
def skipWhile (p : Char → Bool) (s : Source) : Source := s.skip (s.take p).length

/-- Passes a comment, if one is here. -/
def skipComment (s : Source) : Source :=
  match s.rest with
  | '#' :: _ => s.skipWhile (fun c => !isBreak c)
  | _ => s

/-- Whether a given character is next. -/
def at? (s : Source) (c : Char) : Bool := s.rest.head? == some c

end Source

/-- The gap between two words of a scalar: nothing, blanks, or line ends.  The first line end is
kept apart because a line feed folds into a blank. -/
inductive Gap where
  | none
  | blanks (cs : List Char)
  | lines (first more : List Char)
  deriving DecidableEq, Repr

namespace Gap

/-- One more blank; behind a line end it is indentation and leaves no trace. -/
def addBlank (g : Gap) (c : Char) : Gap :=
  match g with
  | .none => .blanks [c]
  | .blanks cs => .blanks (cs ++ [c])
  | .lines first more => .lines first more

/-- One more line end; blanks before it are dropped. -/
def addBreak (g : Gap) (c : Char) : Gap :=
  match g with
  | .lines first more => .lines first (more ++ [c])
  | _ => .lines [c] []

/-- What stands for a gap in the text: a single line feed folds into a blank, further line ends
stand for themselves. -/
def text : Gap → List Char
  | .none => []
  | .blanks cs => cs
  | .lines first more =>
    if first = ['\n'] then (if more = [] then [' '] else more) else first ++ more

/-- Whether a line ended. -/
def hasBreak : Gap → Bool
  | .lines _ _ => true
  | _ => false

end Gap

end Courier.Yaml
