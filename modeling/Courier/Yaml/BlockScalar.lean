import Courier.Yaml.Token

/-!
# Block scalars

A header of `|` or `>` and the indented lines below it.  The header may name the indentation and say
what becomes of the line ends at the tail; without a number the first line that is not empty sets
the indentation.
-/

namespace Courier.Yaml

/-- What becomes of the line ends behind the last line: all but one go, all go, or all stay. -/
inductive Chomping where
  | clip
  | strip
  | keep
  deriving DecidableEq, Repr

/-- The header of a block scalar; no number means that the indentation is found. -/
structure BlockHeader where
  chomping : Chomping
  increment : Option Nat
  deriving DecidableEq, Repr

/-- A sign in a header. -/
def chompingOf? (c : Char) : Option Chomping :=
  if c = '+' then some .keep else if c = '-' then some .strip else none

/-- The number in a header, a digit other than zero. -/
def readIncrement (begun : Mark) (s : Source) : Except Fault (Option Nat × Source) :=
  match s.rest with
  | c :: _ =>
    if '0' ≤ c ∧ c ≤ '9' then
      if c = '0' then .error (.within .blockScalar begun .zeroIndent s.mark)
      else .ok (some (c.toNat - 48), s.skip 1)
    else .ok (none, s)
  | [] => .ok (none, s)

/-- The sign in a header. -/
def readChomping (s : Source) : Chomping × Source :=
  match s.rest.head?.bind chompingOf? with
  | some c => (c, s.skip 1)
  | none => (.clip, s)

/-- The sign and number of a header, in either order. -/
def readHeaderSigns (begun : Mark) (s : Source) : Except Fault (BlockHeader × Source) := do
  match s.rest.head?.bind chompingOf? with
  | some c =>
    let (n, s) ← readIncrement begun (s.skip 1)
    .ok (⟨c, n⟩, s)
  | none =>
    let (n, s) ← readIncrement begun s
    match n with
    | some n =>
      let (c, s) := readChomping s
      .ok (⟨c, some n⟩, s)
    | none => .ok (⟨.clip, none⟩, s)

/-- The header from its indicator to the end of its line. -/
def readHeader (s : Source) : Except Fault (BlockHeader × Source) := do
  let begun := s.mark
  let (header, s) ← readHeaderSigns begun (s.skip 1)
  let s := (s.skipWhile isGap).skipComment
  if atLineEnd s.rest then .ok (header, s.skipBreak)
  else .error (.within .blockScalar begun .noHeaderEnd s.mark)

/-- Passes the empty lines before the first line, keeping their line ends and the greatest number of
blanks. -/
def leadingLines (begun : Mark) :
    List Char → Mark → List Char → Nat → Except Fault (List Char × Nat × Source)
  | [], m, breaks, widest => .ok (breaks, max widest m.column, ⟨[], m⟩)
  | c :: cs, m, breaks, widest =>
    if c = ' ' then leadingLines begun cs (m.right 1) breaks widest
    else if c = '\t' then .error (.within .blockScalar begun .tabForIndent m)
    else if isBreak c then leadingLines begun cs m.down (breaks ++ [c]) (max widest m.column)
    else .ok (breaks, max widest m.column, ⟨c :: cs, m⟩)

/-- What has been read of a block scalar: the text in reverse, the line end behind it, the line ends
of empty lines behind that, and whether the last line began with a blank. -/
structure BlockText where
  seen : List Char
  last : List Char
  empty : List Char
  ledByBlank : Bool

/-- A new line that begins with the given character: what the line ends before it stand for.  In
a folded scalar a line feed between lines that do not begin with a blank becomes a blank, or
nothing if empty lines follow. -/
def BlockText.startLine (t : BlockText) (literal : Bool) (c : Char) : BlockText :=
  let folds := !literal && t.last == ['\n'] && !t.ledByBlank && !isGap c
  let link := if folds then (if t.empty.isEmpty then [' '] else []) else t.last
  ⟨c :: (t.empty.reverse ++ link.reverse ++ t.seen), [], [], isGap c⟩

/-- The text with the tail that the header asks for. -/
def BlockText.finish (t : BlockText) (chomping : Chomping) : List Char :=
  match chomping with
  | .clip => t.seen.reverse ++ t.last
  | .strip => t.seen.reverse
  | .keep => t.seen.reverse ++ t.last ++ t.empty

/-- Reads the lines of a block scalar.  `inLine` says that a line has begun. -/
def blockFrom (literal : Bool) (indent : Nat) (begun : Mark) :
    List Char → Mark → Bool → BlockText → Except Fault (BlockText × Source)
  | [], m, _, t => .ok (t, ⟨[], m⟩)
  | c :: cs, m, true, t =>
    if isBreak c then blockFrom literal indent begun cs m.down false { t with last := [c] }
    else blockFrom literal indent begun cs (m.right 1) true { t with seen := c :: t.seen }
  | c :: cs, m, false, t =>
    if m.column < indent ∧ c = ' ' then blockFrom literal indent begun cs (m.right 1) false t
    else if m.column < indent ∧ c = '\t' then .error (.within .blockScalar begun .tabForIndent m)
    else if isBreak c then
      blockFrom literal indent begun cs m.down false { t with empty := t.empty ++ [c] }
    else if m.column = indent then
      blockFrom literal indent begun cs (m.right 1) true (t.startLine literal c)
    else .ok (t, ⟨c :: cs, m⟩)

/-- The block scalar at the front of a text, within a block at the given indentation. -/
def readBlock (literal : Bool) (parent : Int) (s : Source) :
    Except Fault (List Char × Source) := do
  let begun := s.mark
  let (header, s) ← readHeader s
  match header.increment with
  | some n =>
    let indent := (max parent 0).toNat + n
    let (t, s) ← blockFrom literal indent begun s.rest s.mark false ⟨[], [], [], false⟩
    .ok (t.finish header.chomping, s)
  | none =>
    let (breaks, widest, s) ← leadingLines begun s.rest s.mark [] 0
    let indent := max (max widest (parent + 1).toNat) 1
    let (t, s) ← blockFrom literal indent begun s.rest s.mark false ⟨[], [], breaks, false⟩
    .ok (t.finish header.chomping, s)

end Courier.Yaml
