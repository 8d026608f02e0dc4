import Courier.Yaml.Token

/-!
# Quoted scalars

Between single quotes a quote is written twice and nothing is escaped; between double quotes a
backslash escapes the next character, a line end, or a character given by number.  In both, blanks
around line ends fold.
-/

namespace Courier.Yaml

/-- What an escape stands for. -/
inductive Escape where
  | char (c : Char)
  | digits (n : Nat)
  | unknown

/-- The meaning of the character behind a backslash. -/
def escapeOf (c : Char) : Escape :=
  match c with
  | '0' => .char '\x00'
  | 'a' => .char '\x07'
  | 'b' => .char '\x08'
  | 't' => .char '\t'
  | '\t' => .char '\t'
  | 'n' => .char '\n'
  | 'v' => .char '\x0b'
  | 'f' => .char '\x0c'
  | 'r' => .char '\r'
  | 'e' => .char '\x1b'
  | ' ' => .char ' '
  | '"' => .char '"'
  | '/' => .char '/'
  | '\\' => .char '\\'
  | 'N' => .char '\x85'
  | '_' => .char '\xa0'
  | 'L' => .char '\u2028'
  | 'P' => .char '\u2029'
  | 'x' => .digits 2
  | 'u' => .digits 4
  | 'U' => .digits 8
  | _ => .unknown

/-- Where a reader of quoted text stands: in the text, behind a backslash, or within the digits of a
character given by number. -/
inductive QuotedMode where
  | body
  | escape
  | digits (left value : Nat) (begun : Mark)
  deriving DecidableEq, Repr

/-- A code point that is a character. -/
def isScalarValue (n : Nat) : Bool := n < 0xD800 || (0xDFFF < n && n ≤ 0x10FFFF)

/-- Reads on in a quoted scalar, given the mode, the gap and the text so far in reverse; gives the
text and where reading goes on behind the closing quote. -/
def quotedFrom (double : Bool) (begun : Mark) :
    List Char → Mark → QuotedMode → Gap → List Char → Except Fault (List Char × Source)
  | [], m, .body, _, _ => .error (.within .quotedScalar begun .openQuotes m)
  | [], m, .escape, _, _ =>
    .error (.within .quotedEscape begun .unknownEscape ⟨m.line, m.column - 1⟩)
  | [], _, .digits _ _ at', _, _ => .error (.within .quotedEscape begun .noEscapeDigit at')
  | c :: cs, m, .escape, gap, seen =>
    if isBreak c then quotedFrom double begun cs m.down .body (.lines [] []) seen
    else
      match escapeOf c with
      | .char x => quotedFrom double begun cs (m.right 1) .body gap (x :: seen)
      | .digits n => quotedFrom double begun cs (m.right 1) (.digits n 0 (m.right 1)) gap seen
      | .unknown => .error (.within .quotedEscape begun .unknownEscape ⟨m.line, m.column - 1⟩)
  | c :: cs, m, .digits left value at', gap, seen =>
    match hexValue? c with
    | none => .error (.within .quotedEscape begun .noEscapeDigit at')
    | some d =>
      let value := value * 16 + d
      if 1 < left then
        quotedFrom double begun cs (m.right 1) (.digits (left - 1) value at') gap seen
      else if isScalarValue value then
        quotedFrom double begun cs (m.right 1) .body gap (Char.ofNat value :: seen)
      else .error (.within .quotedEscape begun .badEscapeCode at')
  | c :: cs, m, .body, gap, seen =>
    if isBreak c then quotedFrom double begun cs m.down .body (gap.addBreak c) seen
    else if isGap c then quotedFrom double begun cs (m.right 1) .body (gap.addBlank c) seen
    else if m.column = 0 ∧ atDocumentMarker (c :: cs) then
      .error (.within .quotedScalar begun .markerInQuotes m)
    else
      let seen := gap.text.reverse ++ seen
      if double then
        if c = '"' then .ok (seen.reverse, ⟨cs, m.right 1⟩)
        else if c = '\\' then quotedFrom double begun cs (m.right 1) .escape .none seen
        else quotedFrom double begun cs (m.right 1) .body .none (c :: seen)
      else if c = '\'' then
        match cs with
        | '\'' :: cs => quotedFrom double begun cs (m.right 2) .body .none ('\'' :: seen)
        | cs => .ok (seen.reverse, ⟨cs, m.right 1⟩)
      else quotedFrom double begun cs (m.right 1) .body .none (c :: seen)

/-- The quoted scalar at the front of a text: what it says and where reading goes on. -/
def readQuoted (double : Bool) (s : Source) : Except Fault (List Char × Source) :=
  quotedFrom double s.mark (s.rest.drop 1) (s.mark.right 1) .body .none []

end Courier.Yaml
