import Courier.Yaml.Token

/-!
# Plain scalars

Words without quotes, which may run over several lines as long as these are indented.  A plain
scalar ends at `: `, at ` #`, at a document marker, at a line that is not indented enough and,
within brackets, at a bracket or comma.
-/

namespace Courier.Yaml

/-- Whether a plain scalar may begin here, outside or inside brackets. -/
def startsPlain (inFlow : Bool) : List Char → Bool
  | [] => false
  | c :: cs =>
    let special :=
      c == '-' || c == '?' || c == ':' || isFlowIndicator c || c == '#' || c == '&' || c == '*'
        || c == '!' || c == '|' || c == '>' || c == '\'' || c == '"' || c == '%' || c == '@'
        || c == '\x60'
    (!isGap c && !isBreak c && !special)
      || (c == '-' && (match cs with | [] => true | d :: _ => !isGap d))
      || (!inFlow && (c == '?' || c == ':') && !atWordEnd cs)

/-- What a plain scalar leaves behind: its text, whether a line ended behind it, and where it
stopped. -/
structure PlainScalar where
  text : List Char
  brokeLine : Bool
  source : Source
  deriving Repr

/-- Whether the word before stops at this character. -/
def endsPlain (inFlow : Bool) (c : Char) (cs : List Char) : Bool :=
  (c == ':' && atWordEnd cs) || (inFlow && isFlowIndicator c)

/-- A colon that within brackets may neither belong to a word nor end it. -/
def strayColon (inFlow : Bool) (c : Char) (cs : List Char) : Bool :=
  inFlow && c == ':' && (match cs with | d :: _ => isFlowIndicator d || d == '?' | [] => false)

/-- Whether a line that continues the scalar may not go on at this character, the first one behind a
gap. -/
def blocksPlain (inFlow : Bool) (indent : Nat) (m : Mark) (cs : List Char) : Bool :=
  (!inFlow && m.column < indent) || (m.column == 0 && atDocumentMarker cs) || cs.head? == some '#'

/-- Reads on in a plain scalar, given the text so far in reverse and the gap behind it. -/
def plainFrom (inFlow : Bool) (indent : Nat) (begun : Mark) :
    List Char → Mark → Gap → List Char → Except Fault PlainScalar
  | [], m, gap, seen => .ok ⟨seen.reverse, gap.hasBreak, ⟨[], m⟩⟩
  | c :: cs, m, gap, seen =>
    if isBreak c then plainFrom inFlow indent begun cs m.down (gap.addBreak c) seen
    else if isGap c then
      if gap.hasBreak ∧ m.column < indent ∧ c = '\t' then
        .error (.within .plainScalar begun .tabBreaksIndent m)
      else plainFrom inFlow indent begun cs (m.right 1) (gap.addBlank c) seen
    else if gap ≠ .none ∧ blocksPlain inFlow indent m (c :: cs) then
      .ok ⟨seen.reverse, gap.hasBreak, ⟨c :: cs, m⟩⟩
    else if strayColon inFlow c cs then .error (.within .plainScalar begun .colonInFlow m)
    else if endsPlain inFlow c cs then .ok ⟨seen.reverse, gap.hasBreak, ⟨c :: cs, m⟩⟩
    else plainFrom inFlow indent begun cs (m.right 1) .none (c :: (gap.text.reverse ++ seen))

/-- The plain scalar at the front of a text; continuation lines are indented by at least the given
number of columns. -/
def PlainScalar.read (inFlow : Bool) (indent : Nat) (s : Source) : Except Fault PlainScalar :=
  plainFrom inFlow indent s.mark s.rest s.mark .none []

end Courier.Yaml
