import Courier.Yaml.Lexer

/-!
# From tokens to events

The nodes of a document as a flat list: scalars, aliases, and the starts and ends of lists and maps.
A reader of tokens keeps a stack of goals, what it still expects in order; each step takes the
first goal, passes some tokens, gives out at most one event and puts new goals in its place.

`Document.ofText` gives the events of the first document of a text, the fault behind them if there
is one, and whether anything follows the document.
-/

namespace Courier.Yaml

/-- A piece of a document.  A tag is whole, with its handle resolved. -/
inductive EventKind where
  | alias (name : List Char)
  | scalar (anchor tag : Option (List Char)) (style : Style) (text : List Char)
  | listStart (anchor : Option (List Char))
  | listEnd
  | mapStart (anchor : Option (List Char))
  | mapEnd
  deriving DecidableEq, Repr, Inhabited

/-- An event and where it starts. -/
structure Event where
  kind : EventKind
  mark : Mark
  deriving DecidableEq, Repr, Inhabited

/-- What a reader still expects.  Goals within a collection carry the place where it began. -/
inductive Goal where
  /-- A node, which may be a block, or a list whose dashes are not indented further. -/
  | node (block unindented : Bool)
  | listItem (begun : Mark)
  | unindentedItem
  | mapKey (begun : Mark)
  | mapValue (begun : Mark)
  | flowItem (begun : Mark) (first : Bool)
  | pairKey
  | pairValue
  | pairEnd
  | flowKey (begun : Mark) (first : Bool)
  | flowValue (begun : Mark)
  | flowNoValue (begun : Mark)
  deriving Repr

/-- What a step gives: an event perhaps, the goals that take the place of the first one, and the
tokens that are left. -/
structure Progress where
  event : Option Event
  goals : List Goal
  rest : List Token

namespace Event

/-- A node without content. -/
def empty (m : Mark) : Event := ⟨.scalar none none .plain [], m⟩

/-- The handles that need no directive. -/
def standardTags : List (List Char × List Char) :=
  [(['!'], ['!']), (['!', '!'], "tag:yaml.org,2002:".toList)]

/-- The whole tag of a handle and a suffix. -/
def resolveTag? (tags : List (List Char × List Char)) (handle suffix : List Char) :
    Option (List Char) :=
  if handle = [] then some suffix else (tags.lookup handle).map (· ++ suffix)

/-- The properties before a node: where they start, an anchor, and a tag with its place. -/
structure Properties where
  start : Mark
  anchor : Option (List Char)
  tag : Option (List Char × List Char × Mark)

/-- Passes an anchor and a tag, in either order, at most one of each. -/
def properties (t : Token) (ts : List Token) : Properties × List Token :=
  match t.kind with
  | .anchor name =>
    match ts with
    | ⟨.tag h s, m, _⟩ :: rest => (⟨t.start, some name, some (h, s, m)⟩, rest)
    | _ => (⟨t.start, some name, none⟩, ts)
  | .tag h s =>
    match ts with
    | ⟨.anchor name, _, _⟩ :: rest => (⟨t.start, some name, some (h, s, t.start)⟩, rest)
    | _ => (⟨t.start, none, some (h, s, t.start)⟩, ts)
  | _ => (⟨t.start, none, none⟩, t :: ts)

/-- The tag of a scalar as far as it tells anything: the tag `!` does not. -/
def tellingTag (tag : Option (List Char)) : Option (List Char) := tag.filter (· ≠ ['!'])

/-- A node whose properties have been passed. -/
def content (block unindented : Bool) (p : Properties) (tag : Option (List Char))
    (t : Token) (ts : List Token) : Except Fault Progress :=
  match t.kind with
  | .scalar style text =>
    .ok ⟨some ⟨.scalar p.anchor (tellingTag tag) style text, p.start⟩, [], ts⟩
  | .flowListStart => .ok ⟨some ⟨.listStart p.anchor, p.start⟩, [.flowItem t.start true], ts⟩
  | .flowMapStart => .ok ⟨some ⟨.mapStart p.anchor, p.start⟩, [.flowKey t.start true], ts⟩
  | kind =>
    if unindented ∧ kind = .listEntry then
      .ok ⟨some ⟨.listStart p.anchor, p.start⟩, [.unindentedItem], t :: ts⟩
    else if block ∧ kind = .blockListStart then
      .ok ⟨some ⟨.listStart p.anchor, p.start⟩, [.listItem t.start], ts⟩
    else if block ∧ kind = .blockMapStart then
      .ok ⟨some ⟨.mapStart p.anchor, p.start⟩, [.mapKey t.start], ts⟩
    else if p.anchor.isSome ∨ tag.isSome then
      .ok ⟨some ⟨.scalar p.anchor tag .plain [], p.start⟩, [], t :: ts⟩
    else
      .error (.within (if block then .blockNode else .flowNode) p.start .noNode t.start)

/-- What a reader does when the tokens run out: nothing, since the fault behind them is told by the
readout. -/
def starved : Except Fault Progress := .ok ⟨none, [], []⟩

/-- A node. -/
def node (tags : List (List Char × List Char)) (block unindented : Bool) :
    List Token → Except Fault Progress
  | [] => starved
  | t :: ts =>
    match t.kind with
    | .alias name => .ok ⟨some ⟨.alias name, t.start⟩, [], ts⟩
    | _ =>
      match properties t ts with
      | (_, []) => starved
      | (p, t :: ts) =>
        match p.tag with
        | none => content block unindented p none t ts
        | some (handle, suffix, m) =>
          match resolveTag? tags handle suffix with
          | some tag => content block unindented p (some tag) t ts
          | none => .error (.within .node p.start .unknownTagPrefix m)

/-- A node if the next token begins one, else a node without content. -/
def nodeOrEmpty (ends : TokenKind → Bool) (m : Mark) (goal : Goal) (next : List Goal)
    (ts : List Token) : Progress :=
  match ts with
  | t :: _ => if ends t.kind then ⟨some (empty m), next, ts⟩ else ⟨none, goal :: next, ts⟩
  | [] => ⟨none, [], []⟩

/-- Tokens before which a block list's item has no content. -/
def endsItem (k : TokenKind) : Bool := k == .listEntry || k == .blockEnd

/-- Tokens before which a block map's key or value has no content. -/
def endsPart (k : TokenKind) : Bool := k == .key || k == .value || k == .blockEnd

/-- One step: the first goal against the next token. -/
def step (tags : List (List Char × List Char)) (goal : Goal) (ts : List Token) :
    Except Fault Progress :=
  match goal, ts with
  | _, [] => starved
  | .node block unindented, ts => node tags block unindented ts
  | .listItem begun, t :: ts =>
    match t.kind with
    | .listEntry => .ok (nodeOrEmpty endsItem t.stop (.node true false) [.listItem begun] ts)
    | .blockEnd => .ok ⟨some ⟨.listEnd, t.start⟩, [], ts⟩
    | _ => .error (.within .blockList begun .noEntry t.start)
  | .unindentedItem, t :: ts =>
    match t.kind with
    | .listEntry =>
      .ok (nodeOrEmpty (fun k => k == .listEntry || endsPart k) t.stop (.node true false)
        [.unindentedItem] ts)
    | _ => .ok ⟨some ⟨.listEnd, t.start⟩, [], t :: ts⟩
  | .mapKey begun, t :: ts =>
    match t.kind with
    | .key => .ok (nodeOrEmpty endsPart t.stop (.node true true) [.mapValue begun] ts)
    | .blockEnd => .ok ⟨some ⟨.mapEnd, t.start⟩, [], ts⟩
    | _ => .error (.within .blockMap begun .noKey t.start)
  | .mapValue begun, t :: ts =>
    match t.kind with
    | .value => .ok (nodeOrEmpty endsPart t.stop (.node true true) [.mapKey begun] ts)
    | _ => .ok ⟨some (empty t.start), [.mapKey begun], t :: ts⟩
  | .flowItem begun first, t :: ts =>
    let item : List Token → Except Fault Progress
      | [] => starved
      | t :: ts =>
        match t.kind with
        | .key => .ok ⟨some ⟨.mapStart none, t.start⟩, [.pairKey, .flowItem begun false], ts⟩
        | .flowListEnd => .ok ⟨some ⟨.listEnd, t.start⟩, [], ts⟩
        | _ => .ok ⟨none, [.node false false, .flowItem begun false], t :: ts⟩
    if first ∨ t.kind = .flowListEnd then item (t :: ts)
    else if t.kind = .flowEntry then item ts
    else .error (.within .flowList begun .noListEnd t.start)
  | .pairKey, t :: ts =>
    if t.kind = .value ∨ t.kind = .flowEntry ∨ t.kind = .flowListEnd then
      .ok ⟨some (empty t.stop), [.pairValue], ts⟩
    else .ok ⟨none, [.node false false, .pairValue], t :: ts⟩
  | .pairValue, t :: ts =>
    if t.kind = .value then
      match ts with
      | [] => starved
      | u :: _ =>
        if u.kind = .flowEntry ∨ u.kind = .flowListEnd then
          .ok ⟨some (empty u.start), [.pairEnd], ts⟩
        else .ok ⟨none, [.node false false, .pairEnd], ts⟩
    else .ok ⟨some (empty t.start), [.pairEnd], t :: ts⟩
  | .pairEnd, t :: ts => .ok ⟨some ⟨.mapEnd, t.start⟩, [], t :: ts⟩
  | .flowKey begun first, t :: ts =>
    let entry : List Token → Except Fault Progress
      | [] => starved
      | t :: ts =>
        match t.kind with
        | .key =>
          match ts with
          | [] => starved
          | u :: _ =>
            if u.kind = .value ∨ u.kind = .flowEntry ∨ u.kind = .flowMapEnd then
              .ok ⟨some (empty u.start), [.flowValue begun], ts⟩
            else .ok ⟨none, [.node false false, .flowValue begun], ts⟩
        | .flowMapEnd => .ok ⟨some ⟨.mapEnd, t.start⟩, [], ts⟩
        | _ => .ok ⟨none, [.node false false, .flowNoValue begun], t :: ts⟩
    if first ∨ t.kind = .flowMapEnd then entry (t :: ts)
    else if t.kind = .flowEntry then entry ts
    else .error (.within .flowMap begun .noMapEnd t.start)
  | .flowValue begun, t :: ts =>
    if t.kind = .value then
      match ts with
      | [] => starved
      | u :: _ =>
        if u.kind = .flowEntry ∨ u.kind = .flowMapEnd then
          .ok ⟨some (empty u.start), [.flowKey begun false], ts⟩
        else .ok ⟨none, [.node false false, .flowKey begun false], ts⟩
    else .ok ⟨some (empty t.start), [.flowKey begun false], t :: ts⟩
  | .flowNoValue begun, t :: ts => .ok ⟨some (empty t.start), [.flowKey begun false], t :: ts⟩

end Event

/-- The directives before a document: whether a version was declared, and the tag handles. -/
structure Directives where
  hasVersion : Bool
  tags : List (List Char × List Char)

/-- Passes directives. -/
def readDirectives : Directives → List Token → Except Fault (Directives × List Token)
  | d, [] => .ok (d, [])
  | d, t :: ts =>
    match t.kind with
    | .versionDirective major minor =>
      if d.hasVersion then .error (.plain .duplicateVersion t.start)
      else if major ≠ 1 ∨ (minor ≠ 1 ∧ minor ≠ 2) then .error (.plain .foreignVersion t.start)
      else readDirectives { d with hasVersion := true } ts
    | .tagDirective handle uri =>
      if (d.tags.lookup handle).isSome then .error (.plain .duplicateTagPrefix t.start)
      else readDirectives { d with tags := d.tags ++ [(handle, uri)] } ts
    | _ => .ok (d, t :: ts)

/-- The first document of a text: its events, the fault at which reading it stopped, and whether
anything follows it.  A text without a document has no events and no fault. -/
structure Document where
  events : List Event
  fault : Option Fault
  more : Bool
  deriving Repr

namespace Document

/-- Whether only the end of the text follows a document, perhaps after end markers. -/
def atTextEnd : List Token → Bool
  | [] => false
  | t :: ts =>
    match t.kind with
    | .documentEnd => atTextEnd ts
    | .textEnd => true
    | _ => false

/-- Follows goals until none is left.  `fault` is the one behind the tokens. -/
def follow (tags : List (List Char × List Char)) (fault : Option Fault) :
    Nat → List Goal → List Token → Document
  | 0, _, _ => ⟨[], fault, false⟩
  | _, _, [] => ⟨[], fault, false⟩
  | _ + 1, [], ts => ⟨[], none, !atTextEnd ts⟩
  | fuel + 1, goal :: goals, ts =>
    match Event.step tags goal ts with
    | .error f => ⟨[], some f, false⟩
    | .ok p =>
      let later := follow tags fault fuel (p.goals ++ goals) p.rest
      { later with events := p.event.toList ++ later.events }

/-- The document behind its directives and start marker.  Every goal but a constant number for each
token is met by passing a token, so four steps a token are enough. -/
def body (directives : Directives) (fault : Option Fault) (ts : List Token) : Document :=
  let tags := directives.tags ++ Event.standardTags
  follow tags fault (4 * ts.length + 4) [.node true false] ts

/-- Whether a token keeps an explicit document from having content. -/
def endsContent (k : TokenKind) : Bool :=
  match k with
  | .versionDirective .. => true
  | .tagDirective .. => true
  | .documentStart => true
  | .documentEnd => true
  | .textEnd => true
  | _ => false

/-- The document behind a start marker, which may have no content. -/
def explicit (directives : Directives) (fault : Option Fault) : List Token → Document
  | [] => ⟨[], fault, false⟩
  | t :: ts =>
    if endsContent t.kind then ⟨[.empty t.start], none, !atTextEnd (t :: ts)⟩
    else body directives fault (t :: ts)

/-- The first document of a token sequence. -/
def ofTokens (r : Readout Token) : Document :=
  match r.items with
  | [] => ⟨[], r.fault, false⟩
  | t :: ts =>
    match t.kind with
    | .textEnd => ⟨[], none, false⟩
    | .versionDirective .. => marked t ts
    | .tagDirective .. => marked t ts
    | .documentStart => explicit ⟨false, []⟩ r.fault ts
    | _ => body ⟨false, []⟩ r.fault (t :: ts)
where
  /-- A document that begins with directives. -/
  marked (t : Token) (ts : List Token) : Document :=
    match readDirectives ⟨false, []⟩ (t :: ts) with
    | .error f => ⟨[], some f, false⟩
    | .ok (_, []) => ⟨[], r.fault, false⟩
    | .ok (d, u :: rest) =>
      if u.kind = .documentStart then explicit d r.fault rest
      else ⟨[], some (.plain .noDocumentStart u.start), false⟩

/-- The number of bytes before the first character that a text may not hold. -/
def controlOffset? : Nat → List Char → Option Nat
  | _, [] => none
  | n, c :: cs => if isAllowed c then controlOffset? (n + c.utf8Size) cs else some n

/-- The first document of a text. -/
def ofText (cs : List Char) : Document :=
  match controlOffset? 0 cs with
  | some n => ⟨[], some (.control n), false⟩
  | none => ofTokens (Token.ofText (unifyLineEnds cs))

end Document

end Courier.Yaml
