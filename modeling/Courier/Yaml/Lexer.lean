import Courier.Yaml.BlockScalar
import Courier.Yaml.PlainScalar
import Courier.Yaml.Property
import Courier.Yaml.QuotedScalar

/-!
# From text to tokens

Indentation opens and closes blocks: a block opens where an entry or key stands further right than
the block around it, and closes where a line begins further left.  Whether a scalar is a key is
known only when a colon follows on its line; so a token is held back for as long as it may turn out
to begin a key, and the key's tokens are then put in front of it.

`Token.ofText` gives the tokens that precede the first fault.
-/

namespace Courier.Yaml

/-- A place where a key may have begun: whether one must begin there, the number of the token that
would be its first, and the place. -/
structure KeyStart where
  required : Bool
  number : Nat
  mark : Mark
  deriving Repr

/-- The state between two tokens: the text that is left; for each bracket that is open, and for the
text outside brackets, the key that may have begun; the columns of the open blocks, the innermost
one apart; whether a key may begin here; and the tokens that are held back, after those that were
given out. -/
structure Lexer where
  source : Source
  keyStart : Option KeyStart
  outerKeys : List (Option KeyStart)
  indent : Int
  outerIndents : List Int
  keyAllowed : Bool
  held : List Token
  given : Nat
  ended : Bool

namespace Lexer

/-- The state at the start of a text. -/
def start (cs : List Char) : Lexer :=
  ⟨⟨cs, .start⟩, none, [], -1, [], true, [], 0, false⟩

/-- Whether a bracket is open. -/
def inFlow (l : Lexer) : Bool := !l.outerKeys.isEmpty

/-- The present place. -/
def mark (l : Lexer) : Mark := l.source.mark

/-- Holds a token of no width at a place. -/
def hold (l : Lexer) (kind : TokenKind) (m : Mark) : Lexer :=
  { l with held := l.held ++ [⟨kind, m, m⟩] }

/-- Holds a token that reaches from the present place to where a source goes on. -/
def holdTo (l : Lexer) (kind : TokenKind) (s : Source) : Lexer :=
  { l with held := l.held ++ [⟨kind, l.mark, s.mark⟩], source := s }

/-- Holds an indicator of some characters. -/
def holdIndicator (l : Lexer) (kind : TokenKind) (width : Nat) : Lexer :=
  l.holdTo kind (l.source.skip width)

/-- Puts a token of no width in front of the held token with a number. -/
def insert (l : Lexer) (number : Nat) (kind : TokenKind) (m : Mark) : Lexer :=
  let n := number - l.given
  { l with held := l.held.take n ++ ⟨kind, m, m⟩ :: l.held.drop n }

/-! ## Keys -/

/-- Gives up the key that may have begun; a key that must be here is missed. -/
def dropKey (l : Lexer) : Except Fault Lexer :=
  match l.keyStart with
  | some k =>
    if k.required then .error (.within .simpleKey k.mark .noKeyEnd l.mark)
    else .ok { l with keyStart := none }
  | none => .ok l

/-- Notes that a key may begin with the next token. -/
def noteKey (l : Lexer) : Except Fault Lexer :=
  if l.keyAllowed then do
    let l ← l.dropKey
    let required := !l.inFlow && l.indent == l.mark.column
    .ok { l with keyStart := some ⟨required, l.given + l.held.length, l.mark⟩ }
  else .ok l

/-- A key fits one line and 1024 characters. -/
def isStale (m : Mark) (k : KeyStart) : Bool :=
  k.mark.line < m.line || k.mark.column + 1024 < m.column

/-- Forgets the keys that can no longer be; one that must be here is missed. -/
def dropStaleKeys (l : Lexer) : Except Fault Lexer :=
  let lost (k : Option KeyStart) := k.filter fun k => isStale l.mark k && k.required
  match (l.keyStart :: l.outerKeys).findSome? lost with
  | some k => .error (.within .simpleKey k.mark .noKeyEnd l.mark)
  | none =>
    let keep (k : Option KeyStart) : Option KeyStart := k.filter fun k => !isStale l.mark k
    .ok { l with keyStart := keep l.keyStart, outerKeys := l.outerKeys.map keep }

/-! ## Blocks -/

/-- Opens a block at a column further right than the present block; `number` names the held token
before which it opens. -/
def openBlock (l : Lexer) (column : Nat) (number : Option Nat) (kind : TokenKind) (m : Mark) :
    Lexer :=
  if l.inFlow ∨ column ≤ l.indent then l
  else
    let l := { l with outerIndents := l.indent :: l.outerIndents, indent := column }
    match number with
    | some n => l.insert n kind m
    | none => l.hold kind m

/-- Closes the blocks of a list of columns that lie to the right of a column. -/
def closeFrom (column : Int) (m : Mark) : Int → List Int → List Token → Int × List Int × List Token
  | indent, [], held => (indent, [], held)
  | indent, outer :: rest, held =>
    if column < indent then closeFrom column m outer rest (held ++ [⟨.blockEnd, m, m⟩])
    else (indent, outer :: rest, held)

/-- Closes the blocks to the right of a column. -/
def closeBlocks (l : Lexer) (column : Int) : Lexer :=
  if l.inFlow then l
  else
    let (indent, outer, held) := closeFrom column l.mark l.indent l.outerIndents l.held
    { l with indent := indent, outerIndents := outer, held := held }

/-! ## Between tokens -/

/-- Passes blanks, comments and line ends.  Outside brackets a key may begin on a new line.  The
flag says that a comment is being passed. -/
def skipFrom (inFlow : Bool) : List Char → Mark → Bool → Bool → Source × Bool
  | [], m, keyAllowed, _ => (⟨[], m⟩, keyAllowed)
  | c :: cs, m, keyAllowed, inComment =>
    if isBreak c then skipFrom inFlow cs m.down (keyAllowed || !inFlow) false
    else if inComment then skipFrom inFlow cs (m.right 1) keyAllowed true
    else if c = ' ' ∨ (c = '\t' ∧ (inFlow ∨ !keyAllowed)) ∨ (c = '\ufeff' ∧ m.column = 0) then
      skipFrom inFlow cs (m.right 1) keyAllowed false
    else if c = '#' then skipFrom inFlow cs (m.right 1) keyAllowed true
    else (⟨c :: cs, m⟩, keyAllowed)

/-- Passes what stands between tokens. -/
def skipBetween (l : Lexer) : Lexer :=
  let (s, keyAllowed) := skipFrom l.inFlow l.source.rest l.source.mark l.keyAllowed false
  { l with source := s, keyAllowed := keyAllowed }

/-! ## Single tokens -/

/-- The end of the text closes all blocks and lies on a line of its own. -/
def fetchEnd (l : Lexer) : Except Fault Lexer := do
  let m := if l.mark.column = 0 then l.mark else l.mark.down
  let l := { l with source := ⟨[], m⟩ }
  let l ← (l.closeBlocks (-1)).dropKey
  .ok { l.hold .textEnd m with keyAllowed := false, ended := true }

/-- A directive. -/
def fetchDirective (l : Lexer) : Except Fault Lexer := do
  let l ← (l.closeBlocks (-1)).dropKey
  let (kind, s) ← readDirective l.source
  .ok ({ l with keyAllowed := false }.holdTo kind s)

/-- A marker of a document. -/
def fetchDocumentMarker (l : Lexer) (kind : TokenKind) : Except Fault Lexer := do
  let l ← (l.closeBlocks (-1)).dropKey
  .ok ({ l with keyAllowed := false }.holdIndicator kind 3)

/-- An opening bracket. -/
def fetchFlowStart (l : Lexer) (kind : TokenKind) : Except Fault Lexer := do
  let l ← l.noteKey
  let l := { l with outerKeys := l.keyStart :: l.outerKeys, keyStart := none, keyAllowed := true }
  .ok (l.holdIndicator kind 1)

/-- A closing bracket. -/
def fetchFlowEnd (l : Lexer) (kind : TokenKind) : Except Fault Lexer := do
  let l ← l.dropKey
  let l :=
    match l.outerKeys with
    | [] => l
    | k :: rest => { l with keyStart := k, outerKeys := rest }
  .ok ({ l with keyAllowed := false }.holdIndicator kind 1)

/-- A comma within brackets. -/
def fetchFlowEntry (l : Lexer) : Except Fault Lexer := do
  let l ← l.dropKey
  .ok ({ l with keyAllowed := true }.holdIndicator .flowEntry 1)

/-- A dash before a list entry. -/
def fetchListEntry (l : Lexer) : Except Fault Lexer := do
  if !l.inFlow ∧ !l.keyAllowed then .error (.plain .entryHere l.mark)
  else
    let l ← (l.openBlock l.mark.column none .blockListStart l.mark).dropKey
    .ok ({ l with keyAllowed := true }.holdIndicator .listEntry 1)

/-- A question mark before a key. -/
def fetchKey (l : Lexer) : Except Fault Lexer := do
  if !l.inFlow ∧ !l.keyAllowed then .error (.plain .keyHere l.mark)
  else
    let l ← (l.openBlock l.mark.column none .blockMapStart l.mark).dropKey
    .ok ({ l with keyAllowed := !l.inFlow }.holdIndicator .key 1)

/-- A colon before a value.  If a key has begun, its tokens now follow from it. -/
def fetchValue (l : Lexer) : Except Fault Lexer :=
  match l.keyStart with
  | some k =>
    let l := l.insert k.number .key k.mark
    let l := l.openBlock k.mark.column (some k.number) .blockMapStart k.mark
    .ok ({ l with keyStart := none, keyAllowed := false }.holdIndicator .value 1)
  | none =>
    if !l.inFlow ∧ !l.keyAllowed then .error (.plain .valueHere l.mark)
    else
      let l := l.openBlock l.mark.column none .blockMapStart l.mark
      .ok ({ l with keyAllowed := !l.inFlow }.holdIndicator .value 1)

/-- An alias or an anchor. -/
def fetchName (l : Lexer) (setting : Setting) (kind : List Char → TokenKind) :
    Except Fault Lexer := do
  let l ← l.noteKey
  let (name, s) ← readName setting l.source
  .ok ({ l with keyAllowed := false }.holdTo (kind name) s)

/-- A tag. -/
def fetchTag (l : Lexer) : Except Fault Lexer := do
  let l ← l.noteKey
  let (tag, s) ← readTag l.inFlow l.source
  .ok ({ l with keyAllowed := false }.holdTo (.tag tag.1 tag.2) s)

/-- A block scalar. -/
def fetchBlock (l : Lexer) (literal : Bool) : Except Fault Lexer := do
  let l ← l.dropKey
  let (text, s) ← readBlock literal l.indent l.source
  let style := if literal then .literal else .folded
  .ok ({ l with keyAllowed := true }.holdTo (.scalar style text) s)

/-- A quoted scalar. -/
def fetchQuoted (l : Lexer) (double : Bool) : Except Fault Lexer := do
  let l ← l.noteKey
  let (text, s) ← readQuoted double l.source
  let style := if double then .double else .single
  .ok ({ l with keyAllowed := false }.holdTo (.scalar style text) s)

/-- A plain scalar; a key may begin behind it if it broke a line. -/
def fetchPlain (l : Lexer) : Except Fault Lexer := do
  let l ← l.noteKey
  let p ← PlainScalar.read l.inFlow (l.indent + 1).toNat l.source
  .ok ({ l with keyAllowed := p.brokeLine }.holdTo (.scalar .plain p.text) p.source)

/-- The token that the next characters begin. -/
def fetchAt (l : Lexer) (c : Char) (cs : List Char) : Except Fault Lexer :=
  let lineStart := l.mark.column == 0
  if lineStart && c == '%' then l.fetchDirective
  else if lineStart && atMarker '-' (c :: cs) then l.fetchDocumentMarker .documentStart
  else if lineStart && atMarker '.' (c :: cs) then l.fetchDocumentMarker .documentEnd
  else if c == '[' then l.fetchFlowStart .flowListStart
  else if c == '\x7b' then l.fetchFlowStart .flowMapStart
  else if c == ']' then l.fetchFlowEnd .flowListEnd
  else if c == '\x7d' then l.fetchFlowEnd .flowMapEnd
  else if c == ',' then l.fetchFlowEntry
  else if c == '-' && atWordEnd cs then l.fetchListEntry
  else if c == '?' && (l.inFlow || atWordEnd cs) then l.fetchKey
  else if c == ':' && (l.inFlow || atWordEnd cs) then l.fetchValue
  else if c == '*' then l.fetchName .alias .alias
  else if c == '&' then l.fetchName .anchor .anchor
  else if c == '!' then l.fetchTag
  else if c == '|' && !l.inFlow then l.fetchBlock true
  else if c == '>' && !l.inFlow then l.fetchBlock false
  else if c == '\'' then l.fetchQuoted false
  else if c == '"' then l.fetchQuoted true
  else if startsPlain l.inFlow (c :: cs) then l.fetchPlain
  else .error (.within .nextToken l.mark .noToken l.mark)

/-- The next token and the block starts and ends before it. -/
def fetch (l : Lexer) : Except Fault Lexer := do
  let l ← l.skipBetween.dropStaleKeys
  let l := l.closeBlocks l.mark.column
  match l.source.rest with
  | [] => l.fetchEnd
  | c :: cs => l.fetchAt c cs

/-! ## All tokens -/

/-- Whether a key may yet begin with the token of a number. -/
def awaitsKey (l : Lexer) (number : Nat) : Bool :=
  (l.keyStart :: l.outerKeys).any fun k => k.any (·.number == number)

/-- Splits the held tokens, of which the first has a number, at the first one that may begin a
key. -/
def release (l : Lexer) : Nat → List Token → List Token × List Token
  | _, [] => ([], [])
  | number, t :: rest =>
    if l.awaitsKey number then ([], t :: rest)
    else
      let (free, kept) := l.release (number + 1) rest
      (t :: free, kept)

/-- Tokens up to the end of the text or the first fault.  Each token takes a character at least, so
one step more than there are characters is enough. -/
def tokens : Nat → Lexer → Readout Token
  | 0, _ => ⟨[], none⟩
  | fuel + 1, l =>
    match l.fetch.bind dropStaleKeys with
    | .error f => ⟨[], some f⟩
    | .ok l =>
      let (free, kept) := l.release l.given l.held
      if l.ended then ⟨free ++ kept, none⟩
      else
        let later := tokens fuel { l with held := kept, given := l.given + free.length }
        ⟨free ++ later.items, later.fault⟩

end Lexer

/-- The tokens of a text whose line ends are unified. -/
def Token.ofText (cs : List Char) : Readout Token := Lexer.tokens (cs.length + 1) (.start cs)

end Courier.Yaml
