import Courier.Yaml.Token

/-!
# Anchors, aliases and tags

Names behind `&` and `*`, and tags: `<uri>` in full, a handle between exclamation marks and a
suffix, or a local suffix.  A tag is ASCII text; an octet that a `%` escape gives stands as the
character of that number.
-/

namespace Courier.Yaml

/-- The name of an anchor or alias, behind its indicator.  It must end where a word or an indicator
may follow. -/
def readName (setting : Setting) (s : Source) : Except Fault (List Char × Source) :=
  let begun := s.mark
  let s := s.skip 1
  let name := s.take isNameChar
  let s := s.skip name.length
  let closed :=
    atWordEnd s.rest
      || (match s.rest with
          | c :: _ =>
            c == '?' || c == ':' || c == ',' || c == ']' || c == '\x7d' || c == '%' || c == '@'
              || c == '\x60'
          | [] => true)
  if name = [] ∨ !closed then .error (.within setting begun .noAnchorName s.mark)
  else .ok (name, s)

/-- Where tag text stands: in a directive or before a node. -/
inductive TagPlace where
  | directive
  | node
  deriving DecidableEq

/-- The setting that a fault of tag text names. -/
def TagPlace.setting : TagPlace → Setting
  | .directive => .prefixHandle
  | .node => .tagHandle

/-- Characters of a tag; commas and brackets only where the tag is closed by other means. -/
def isTagChar (closed : Bool) (c : Char) : Bool :=
  isNameChar c || c == ';' || c == '/' || c == '?' || c == ':' || c == '@' || c == '&' || c == '='
    || c == '+' || c == '$' || c == '.' || c == '%' || c == '!' || c == '~' || c == '*'
    || c == '\'' || c == '(' || c == ')'
    || (closed && (c == ',' || c == '[' || c == ']'))

/-- The number of octets that a leading octet announces. -/
def octetCount? (n : Nat) : Option Nat :=
  if n < 0x80 then some 1
  else if n < 0xC0 then none
  else if n < 0xE0 then some 2
  else if n < 0xF0 then some 3
  else if n < 0xF8 then some 4
  else none

/-- Reads tag text.  `pending` counts the octets that an escaped character still needs. -/
def tagTextFrom (place : TagPlace) (closed : Bool) (begun : Mark) :
    Nat → List Char → Mark → List Char → Except Fault (List Char × Source)
  | pending, '%' :: a :: b :: cs, m, seen =>
    match hexValue? a, hexValue? b with
    | some h, some l =>
      let n := h * 16 + l
      if pending = 0 then
        match octetCount? n with
        | some k => tagTextFrom place closed begun (k - 1) cs (m.right 3) (Char.ofNat n :: seen)
        | none => .error (.within place.setting begun .badLeadingOctet m)
      else if 0x80 ≤ n ∧ n < 0xC0 then
        tagTextFrom place closed begun (pending - 1) cs (m.right 3) (Char.ofNat n :: seen)
      else .error (.within place.setting begun .badTrailingOctet m)
    | _, _ => .error (.within place.setting begun .noTagOctet m)
  | pending, c :: cs, m, seen =>
    if pending ≠ 0 ∨ c = '%' then .error (.within place.setting begun .noTagOctet m)
    else if isTagChar closed c then tagTextFrom place closed begun 0 cs (m.right 1) (c :: seen)
    else .ok (seen.reverse, ⟨c :: cs, m⟩)
  | pending, [], m, seen =>
    if pending ≠ 0 then .error (.within place.setting begun .noTagOctet m)
    else .ok (seen.reverse, ⟨[], m⟩)

/-- Tag text that must not be empty, going on from a head whose exclamation mark is dropped. -/
def readTagText (place : TagPlace) (closed : Bool) (head : List Char) (begun : Mark) (s : Source) :
    Except Fault (List Char × Source) := do
  let (text, after) ← tagTextFrom place closed begun 0 s.rest s.mark []
  if head = [] ∧ text = [] then .error (.within place.setting begun .noTagUri after.mark)
  else .ok (head.drop 1 ++ text, after)

/-- A handle: `!`, or a name between exclamation marks.  Before a node the closing mark may be
missing, and then what was read belongs to a suffix. -/
def readHandle (place : TagPlace) (begun : Mark) (s : Source) : Except Fault (List Char × Source) :=
  if s.at? '!' then
    let s := s.skip 1
    let name := s.take isNameChar
    let s := s.skip name.length
    if s.at? '!' then .ok ('!' :: name ++ ['!'], s.skip 1)
    else if place = .directive ∧ name ≠ [] then .error (.within place.setting begun .noBang s.mark)
    else .ok ('!' :: name, s)
  else .error (.within place.setting begun .noBang s.mark)

/-- The handle and suffix of a tag that is not written in full. -/
def readShortTag (s : Source) : Except Fault ((List Char × List Char) × Source) := do
  let begun := s.mark
  let (handle, s) ← readHandle .node begun s
  if 1 < handle.length ∧ handle.getLast? = some '!' then
    let (suffix, s) ← readTagText .node false [] begun s
    .ok ((handle, suffix), s)
  else
    let (suffix, s) ← readTagText .node false handle begun s
    .ok (if suffix = [] then ([], ['!']) else (['!'], suffix), s)

/-- A tag in full, between angle brackets. -/
def readFullTag (s : Source) : Except Fault ((List Char × List Char) × Source) := do
  let begun := s.mark
  let (uri, s) ← readTagText .node true [] begun (s.skip 2)
  if s.at? '>' then .ok (([], uri), s.skip 1)
  else .error (.within .tag begun .noTagClose s.mark)

/-- The tag at the front of a text. -/
def readTag (inFlow : Bool) (s : Source) : Except Fault ((List Char × List Char) × Source) := do
  let begun := s.mark
  let (tag, s) ← if (s.skip 1).at? '<' then readFullTag s else readShortTag s
  if atWordEnd s.rest ∨ (inFlow ∧ s.at? ',') then .ok (tag, s)
  else .error (.within .tag begun .noTagEnd s.mark)

/-- The digits of a version number, at most nine. -/
def readVersionNumber (begun : Mark) (s : Source) : Except Fault (Nat × Source) :=
  let ds := s.take fun c => '0' ≤ c && c ≤ '9'
  if ds = [] then .error (.within .versionDirective begun .noVersionNumber s.mark)
  else if 9 < ds.length then .error (.within .versionDirective begun .longVersion (s.mark.right 9))
  else .ok (ds.foldl (fun n c => n * 10 + (c.toNat - 48)) 0, s.skip ds.length)

/-- The two numbers of a version. -/
def readVersion (begun : Mark) (s : Source) : Except Fault (TokenKind × Source) := do
  let (major, s) ← readVersionNumber begun (s.skipWhile isGap)
  if s.at? '.' then
    let (minor, s) ← readVersionNumber begun (s.skip 1)
    .ok (.versionDirective major minor, s)
  else .error (.within .versionDirective begun .noVersionDot s.mark)

/-- The handle that a directive declares and what it stands for. -/
def readTagDeclaration (begun : Mark) (s : Source) : Except Fault (TokenKind × Source) := do
  let (handle, s) ← readHandle .directive begun (s.skipWhile isGap)
  if (s.take isGap) = [] then .error (.within .prefixDirective begun .noPrefixGap s.mark)
  else
    let (uri, s) ← readTagText .directive true [] begun (s.skipWhile isGap)
    if atWordEnd s.rest then .ok (.tagDirective handle uri, s)
    else .error (.within .prefixDirective begun .noPrefixEnd s.mark)

/-- The directive at the front of a line: its token, and where reading goes on behind the line. -/
def readDirective (s : Source) : Except Fault (TokenKind × Source) := do
  let begun := s.mark
  let s := s.skip 1
  let name := s.take isNameChar
  let s := s.skip name.length
  if name = [] then .error (.within .directive begun .noDirectiveName s.mark)
  else if !atWordEnd s.rest then .error (.within .directive begun .oddDirectiveName s.mark)
  else
    let (kind, s) ←
      if name = ['Y', 'A', 'M', 'L'] then readVersion begun s
      else if name = ['T', 'A', 'G'] then readTagDeclaration begun s
      else .error (.within .directive begun .unknownDirective s.mark)
    let s := (s.skipWhile isGap).skipComment
    if atLineEnd s.rest then .ok (kind, s.skipBreak)
    else .error (.within .directive begun .noDirectiveEnd s.mark)

end Courier.Yaml
