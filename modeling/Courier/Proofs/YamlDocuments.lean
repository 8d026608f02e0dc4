import Courier.Proofs.YamlRecords
import Courier.Yaml.Node

/-!
# Printed records as documents

The tokens of a printed record are followed goal by goal: each goal takes one token, and what a
value's tokens give is known from the value alone.  The document has no anchors, so its items are
its events.

* `allPrintable_fieldLines` — all characters of a printed record are printable.
* `followsNode`, `followsEntries` — **the goals for a value and for fields are met**.
* `ofText_print` — **the items of a printed record**.
-/

namespace Courier.Yaml

/-! ## Characters of printed text -/

/-- Whether all characters of a text stand for themselves. -/
def allPrintable (cs : List Char) : Bool := cs.all isPrintable

@[simp] theorem allPrintable_nil : allPrintable [] = true := rfl

@[simp] theorem allPrintable_cons (c : Char) (cs : List Char) :
    allPrintable (c :: cs) = (isPrintable c && allPrintable cs) := rfl

@[simp] theorem allPrintable_append (cs ds : List Char) :
    allPrintable (cs ++ ds) = (allPrintable cs && allPrintable ds) := List.all_append

theorem allPrintable_blanks (n : Nat) : allPrintable (blanks n) = true :=
  List.all_eq_true.2 fun c hc => by
    rw [List.eq_of_mem_replicate hc]
    decide

/-- Hexadecimal digits are printable. -/
theorem allPrintable_of_hexFrom {cs : List Char} {value n : Nat} (h : hexFrom value cs = some n) :
    allPrintable cs = true := by
  induction cs generalizing value with
  | nil => rfl
  | cons c cs ih =>
    obtain ⟨d, hd, hcs⟩ := Option.bind_eq_some_iff.1 h
    have hrange : 0x20 ≤ c.toNat ∧ c.toNat ≤ 0x7E := by
      simp only [hexValue?] at hd
      split_ifs at hd <;> omega
    rw [allPrintable_cons, ih hcs, Bool.and_true]
    simp [isPrintable, hrange]

/-- All that stands between double quotes is printable. -/
theorem allPrintable_doubleChar (c : Char) : allPrintable (doubleChar c) = true := by
  have hpadded (width : Nat) : allPrintable (paddedHex width c.toNat) = true :=
    allPrintable_of_hexFrom (hexFrom_paddedHex width c.toNat)
  unfold doubleChar
  split <;> try rfl
  split
  · simpa
  · split
    · exact hpadded 2
    · split
      · exact hpadded 4
      · exact hpadded 8

theorem allPrintable_singleBody (indent : Nat) {cs : List Char} (hcs : allPrintable cs = true)
    (broke : Bool) : allPrintable (singleBody indent broke cs) = true := by
  induction cs generalizing broke with
  | nil =>
    cases broke with
    | true => exact allPrintable_blanks indent
    | false => rfl
  | cons c cs ih =>
    rw [allPrintable_cons, Bool.and_eq_true] at hcs
    have hindent : allPrintable (if broke = true then blanks indent else []) = true := by
      split
      · exact allPrintable_blanks indent
      · rfl
    have hquoted : allPrintable (if c = '\'' then ['\'', '\''] else [c]) = true := by
      split
      · rfl
      · simpa using hcs.1
    rw [singleBody]
    split
    · rw [allPrintable_cons, hcs.1, ih hcs.2, Bool.and_true]
    · rw [allPrintable_append, allPrintable_append, hindent, hquoted, ih hcs.2]
      rfl

theorem allPrintable_literalBody (indent : Nat) {cs : List Char} (hcs : allPrintable cs = true)
    (broke : Bool) : allPrintable (literalBody indent broke cs) = true := by
  induction cs generalizing broke with
  | nil => rfl
  | cons c cs ih =>
    rw [allPrintable_cons, Bool.and_eq_true] at hcs
    have hindent : allPrintable (if broke = true then blanks indent else []) = true := by
      split
      · exact allPrintable_blanks indent
      · rfl
    rw [literalBody]
    split
    · rw [allPrintable_cons, hcs.1, ih hcs.2, Bool.and_true]
    · rw [allPrintable_append, allPrintable_cons, hindent, hcs.1, ih hcs.2]
      rfl

/-- The line of a text is printable. -/
theorem allPrintable_textLine (indent : Nat) (cs : List Char) :
    allPrintable (textLine indent cs) = true := by
  have hclean (h : isClean cs = true) : allPrintable cs = true := by
    rw [isClean, Bool.and_eq_true] at h
    exact h.1
  obtain ⟨hstyle, hfeed, h⟩ | ⟨hstyle, htext, h⟩ | ⟨hstyle, hfeed, h⟩ | hstyle := styleOf_cases cs
  · have hindent : allPrintable (indentHint cs) = true := by
      obtain hindent | hindent := indentHint_cases cs <;> rw [hindent] <;> rfl
    have hchomping : allPrintable (chompingHint cs) = true := by
      obtain hchomping | hchomping | hchomping := chompingHint_cases cs <;> rw [hchomping] <;> rfl
    have hend : allPrintable (if cs.getLast?.any isBreak then [] else ['\n']) = true := by
      split <;> rfl
    simp only [textLine, hstyle, allPrintable_append, allPrintable_cons, hindent, hchomping, hend,
      allPrintable_literalBody indent (hclean h)]
    rfl
  · simp only [allowsPlain, Bool.and_eq_true] at h
    simp only [textLine, hstyle, allPrintable_append, hclean h.1.1.1]
    rfl
  · rw [allowsSingle, Bool.and_eq_true] at h
    simp only [textLine, hstyle, allPrintable_append, allPrintable_cons,
      allPrintable_singleBody indent (hclean h.1)]
    rfl
  · have hbody : allPrintable (cs.flatMap doubleChar) = true := by
      rw [allPrintable, List.all_flatMap, List.all_eq_true]
      exact fun c _ => allPrintable_doubleChar c
    simp only [textLine, hstyle, allPrintable_append, allPrintable_cons, hbody]
    rfl

theorem allPrintable_of_word {cs : List Char} (h : ∀ c ∈ cs, isWordChar c = true) :
    allPrintable cs = true :=
  List.all_eq_true.2 fun c hc => isPrintable_of_isWordChar (h c hc)

mutual

theorem allPrintable_tail (indent : Nat) :
    ∀ v : Value, v.IsNamed → allPrintable (v.tail indent) = true
  | .null, _ => rfl
  | .number n, _ => by
    have hdigits : allPrintable (Text.digits n) = true :=
      allPrintable_of_word fun _ => isWordChar_of_mem_digits
    simp only [Value.tail, allPrintable_append, allPrintable_cons, hdigits]
    rfl
  | .text s, _ => by
    rw [Value.tail, allPrintable_cons, allPrintable_textLine]
    rfl
  | .record [], _ => rfl
  | .record (f :: fs), h => by
    rw [Value.tail, allPrintable_cons, allPrintable_fieldLines (indent + 2) (f :: fs) h]
    rfl

/-- The lines of fields are printable. -/
theorem allPrintable_fieldLines (indent : Nat) :
    ∀ fields : List (String × Value), Value.AreNamed fields →
      allPrintable (Value.fieldLines indent fields) = true
  | [], _ => rfl
  | (name, v) :: fields, h => by
    have hname := allPrintable_of_word fun c hc => isWordChar_of_isNameLetter (h.1.letters c hc)
    simp only [Value.fieldLines, allPrintable_append, allPrintable_cons, allPrintable_blanks, hname,
      allPrintable_tail indent v h.2.1, allPrintable_fieldLines indent fields h.2.2]
    rfl

end

/-- Printable text is allowed and has no line ends to be unified. -/
theorem isAllowed_of_isPrintable {c : Char} (h : isPrintable c = true) : isAllowed c = true := by
  have hvalid : c.toNat < 0xD800 ∨ 0xDFFF < c.toNat ∧ c.toNat < 0x110000 := c.valid
  simp only [isPrintable, isAllowed, Bool.or_eq_true, Bool.and_eq_true, beq_iff_eq, bne_iff_ne,
    decide_eq_true_eq] at h ⊢
  omega

theorem controlOffset?_of_allPrintable {cs : List Char} (h : allPrintable cs = true) (n : Nat) :
    Document.controlOffset? n cs = none := by
  induction cs generalizing n with
  | nil => rfl
  | cons c cs ih =>
    rw [allPrintable_cons, Bool.and_eq_true] at h
    rw [Document.controlOffset?, if_pos (isAllowed_of_isPrintable h.1), ih h.2]

theorem unifyLineEnds_of_allPrintable {cs : List Char} (h : allPrintable cs = true) :
    unifyLineEnds cs = cs := by
  induction cs with
  | nil => rfl
  | cons c cs ih =>
    rw [allPrintable_cons, Bool.and_eq_true] at h
    have hreturn : c ≠ '\r' := by
      rintro rfl
      cases h.1
    have hnext : c ≠ '\x85' := by
      rintro rfl
      cases h.1
    rw [unifyLineEnds, if_neg (by simp [hreturn, hnext]), ih h.2]
    rintro _ rfl
    exact absurd rfl hreturn

/-- The document of printable text is that of its tokens. -/
theorem ofText_of_allPrintable {cs : List Char} (h : allPrintable cs = true) :
    Document.ofText cs = Document.ofTokens (Token.ofText cs) := by
  rw [Document.ofText, controlOffset?_of_allPrintable h, unifyLineEnds_of_allPrintable h]

/-! ## Events -/

/-- What a document without anchors, aliases, lists and tags consists of. -/
inductive Piece where
  | scalar (style : Style) (text : List Char)
  | mapStart
  | mapEnd

/-- A piece as an event. -/
def Piece.event : Piece → EventKind
  | .scalar style cs => .scalar none none style cs
  | .mapStart => .mapStart none
  | .mapEnd => .mapEnd

/-- A piece as an item of a document. -/
def Piece.item : Piece → ItemKind
  | .scalar style cs => .scalar none style cs
  | .mapStart => .mapStart
  | .mapEnd => .mapEnd

mutual

/-- The pieces of a value. -/
def Value.pieces : Value → List Piece
  | .null => [.scalar .plain ['n', 'u', 'l', 'l']]
  | .number n => [.scalar .plain (Text.digits n)]
  | .text s => [.scalar (styleOf s.toList) s.toList]
  | .record fields => .mapStart :: (Value.fieldPieces fields ++ [.mapEnd])

/-- The pieces of a record's fields. -/
def Value.fieldPieces : List (String × Value) → List Piece
  | [] => []
  | (name, v) :: rest => .scalar .plain name.toList :: (v.pieces ++ Value.fieldPieces rest)

end

namespace Document

/-- Tokens of the given kinds meet the goals, give the given pieces and end the document. -/
def Follows (goals : List Goal) (kinds : List TokenKind) (pieces : List Piece) : Prop :=
  ∀ (tags : List (List Char × List Char)) (fuel : Nat) (ts : List Token),
    ts.map (·.kind) = kinds → ts.length ≤ fuel →
    ∃ es, follow tags none fuel goals ts = ⟨es, none, false⟩ ∧
      es.map (·.kind) = pieces.map Piece.event

/-- Behind all goals stands the end of the text. -/
theorem follows_nil : Follows [] [.textEnd] [] := by
  intro tags fuel ts hts hfuel
  obtain ⟨t, rest, rfl, ht, hrest⟩ := List.map_eq_cons_iff.1 hts
  obtain rfl := List.map_eq_nil_iff.1 hrest
  cases fuel with
  | zero => cases hfuel
  | succ fuel =>
    refine ⟨[], ?_, rfl⟩
    rw [follow, atTextEnd, ht]
    · rfl
    · exact List.cons_ne_nil _ _

/-- One step: the first goal takes a token, gives a piece or none, and leaves further goals. -/
theorem Follows.step {goal : Goal} {goals : List Goal} {kind : TokenKind} {kinds : List TokenKind}
    (piece : Option Piece) {pieces : List Piece}
    (hstep : ∀ (tags : List (List Char × List Char)) (t : Token) (ts : List Token),
      t.kind = kind → ts.map (·.kind) = kinds → ∃ m next,
        Event.step tags goal (t :: ts) = .ok ⟨piece.map (⟨·.event, m⟩), next, ts⟩ ∧
          Follows (next ++ goals) kinds pieces) :
    Follows (goal :: goals) (kind :: kinds) (piece.toList ++ pieces) := by
  intro tags fuel ts hts hfuel
  obtain ⟨t, rest, rfl, ht, hrest⟩ := List.map_eq_cons_iff.1 hts
  cases fuel with
  | zero => cases hfuel
  | succ fuel =>
    obtain ⟨m, next, hnext, hfollows⟩ := hstep tags t rest ht hrest
    obtain ⟨es, hes, hkinds⟩ := hfollows tags fuel rest hrest (Nat.le_of_succ_le_succ hfuel)
    refine ⟨(piece.map (⟨·.event, m⟩)).toList ++ es, ?_, ?_⟩
    · rw [follow, hnext]
      · simp only
        rw [hes]
      · exact List.cons_ne_nil _ _
    · rw [List.map_append, List.map_append, hkinds]
      cases piece <;> rfl

variable {goals : List Goal} {kinds : List TokenKind} {pieces : List Piece}

/-- A scalar is a node. -/
theorem Follows.scalar (h : Follows goals kinds pieces) (block unindented : Bool) (style : Style)
    (cs : List Char) :
    Follows (.node block unindented :: goals) (.scalar style cs :: kinds)
      (.scalar style cs :: pieces) := by
  refine Follows.step (some (.scalar style cs)) fun tags t ts ht hts => ?_
  obtain ⟨kind, start, stop⟩ := t
  obtain rfl : kind = .scalar style cs := ht
  exact ⟨start, [], rfl, h⟩

/-- The start of a block is the start of a map. -/
theorem Follows.blockMapStart (h : ∀ m, Follows (.mapKey m :: goals) kinds pieces)
    (unindented : Bool) :
    Follows (.node true unindented :: goals) (.blockMapStart :: kinds) (.mapStart :: pieces) := by
  refine Follows.step (some .mapStart) fun tags t ts ht hts => ?_
  obtain ⟨kind, start, stop⟩ := t
  obtain rfl : kind = .blockMapStart := ht
  refine ⟨start, [.mapKey start], ?_, h start⟩
  cases unindented <;> rfl

/-- The end of a block is the end of a map. -/
theorem Follows.blockEnd (h : Follows goals kinds pieces) (m : Mark) :
    Follows (.mapKey m :: goals) (.blockEnd :: kinds) (.mapEnd :: pieces) := by
  refine Follows.step (some .mapEnd) fun tags t ts ht hts => ?_
  obtain ⟨kind, start, stop⟩ := t
  obtain rfl : kind = .blockEnd := ht
  exact ⟨start, [], rfl, h⟩

/-- The braces around no fields are a map. -/
theorem Follows.braces (h : Follows goals kinds pieces) (block unindented : Bool) :
    Follows (.node block unindented :: goals) (.flowMapStart :: .flowMapEnd :: kinds)
      (.mapStart :: .mapEnd :: pieces) := by
  refine Follows.step (some .mapStart) fun tags t ts ht hts => ?_
  obtain ⟨kind, start, stop⟩ := t
  obtain rfl : kind = .flowMapStart := ht
  refine ⟨start, [.flowKey start true], rfl, ?_⟩
  refine Follows.step (some .mapEnd) fun tags t ts ht hts => ?_
  obtain ⟨kind, start, stop⟩ := t
  obtain rfl : kind = .flowMapEnd := ht
  exact ⟨start, [], rfl, h⟩

/-- The sign of a key or value leads to the node behind it. -/
theorem nodeOrEmpty_of_not {ends : TokenKind → Bool} {ts : List Token} {kind : TokenKind}
    (hkind : ends kind = false) (hts : ts.map (·.kind) = kind :: kinds) (m : Mark) (goal : Goal)
    (next : List Goal) : Event.nodeOrEmpty ends m goal next ts = ⟨none, goal :: next, ts⟩ := by
  obtain ⟨t, rest, rfl, rfl, -⟩ := List.map_eq_cons_iff.1 hts
  rw [Event.nodeOrEmpty, if_neg (by simp [hkind])]

/-- The sign of a key leads to its node, and the map goes on with the value. -/
theorem Follows.key {m : Mark} {kind : TokenKind} (hkind : Event.endsPart kind = false)
    (h : Follows (.node true true :: .mapValue m :: goals) (kind :: kinds) pieces) :
    Follows (.mapKey m :: goals) (.key :: kind :: kinds) pieces := by
  refine Follows.step none fun tags t ts ht hts => ?_
  obtain ⟨kind', start, stop⟩ := t
  obtain rfl : kind' = .key := ht
  refine ⟨start, [.node true true, .mapValue m], ?_, h⟩
  show Except.ok (Event.nodeOrEmpty Event.endsPart stop (.node true true) [.mapValue m] ts) = _
  rw [nodeOrEmpty_of_not hkind hts]
  rfl

/-- The sign of a value leads to its node, and the map goes on with the next key. -/
theorem Follows.value {m : Mark} {kind : TokenKind} (hkind : Event.endsPart kind = false)
    (h : Follows (.node true true :: .mapKey m :: goals) (kind :: kinds) pieces) :
    Follows (.mapValue m :: goals) (.value :: kind :: kinds) pieces := by
  refine Follows.step none fun tags t ts ht hts => ?_
  obtain ⟨kind', start, stop⟩ := t
  obtain rfl : kind' = .value := ht
  refine ⟨start, [.node true true, .mapKey m], ?_, h⟩
  show Except.ok (Event.nodeOrEmpty Event.endsPart stop (.node true true) [.mapKey m] ts) = _
  rw [nodeOrEmpty_of_not hkind hts]
  rfl

/-- A value's first token begins a node. -/
theorem exists_kinds_cons (v : Value) :
    ∃ kind kinds, v.kinds = kind :: kinds ∧ Event.endsPart kind = false := by
  cases v with
  | record fields =>
    cases fields with
    | nil => exact ⟨_, _, rfl, rfl⟩
    | cons f fields => exact ⟨_, _, rfl, rfl⟩
  | _ => exact ⟨_, _, rfl, rfl⟩

/-- The fields of a map are followed. -/
def FollowsEntries (fields : List (String × Value)) : Prop :=
  ∀ (m : Mark) (goals : List Goal) (kinds : List TokenKind) (pieces : List Piece),
    Follows (.mapKey m :: goals) kinds pieces →
    Follows (.mapKey m :: goals) (Value.fieldKinds fields ++ kinds)
      (Value.fieldPieces fields ++ pieces)

/-- A value is followed as a node. -/
def FollowsNode (v : Value) : Prop :=
  ∀ (unindented : Bool) (goals : List Goal) (kinds : List TokenKind) (pieces : List Piece),
    Follows goals kinds pieces →
    Follows (.node true unindented :: goals) (v.kinds ++ kinds) (v.pieces ++ pieces)

theorem followsNode_record {f : String × Value} {fields : List (String × Value)}
    (h : FollowsEntries (f :: fields)) : FollowsNode (.record (f :: fields)) := by
  intro unindented goals kinds pieces hgoals
  have hentries (m : Mark) := h m goals _ _ (hgoals.blockEnd m)
  have hmap := Follows.blockMapStart hentries unindented
  simpa only [Value.kinds, Value.pieces, List.cons_append, List.append_assoc, List.nil_append]
    using hmap

theorem followsEntries_cons {name : String} {v : Value} {fields : List (String × Value)}
    (hv : FollowsNode v) (hfields : FollowsEntries fields) :
    FollowsEntries ((name, v) :: fields) := by
  intro m goals kinds pieces hgoals
  have hrest := hfields m goals kinds pieces hgoals
  have hvalue := hv true (.mapKey m :: goals) _ _ hrest
  obtain ⟨kind, more, hkinds, hkind⟩ := exists_kinds_cons v
  rw [hkinds, List.cons_append] at hvalue
  have hname := (Follows.value hkind hvalue).scalar true true .plain name.toList
  have hentry := Follows.key rfl hname
  simpa only [Value.fieldKinds, Value.fieldPieces, hkinds, List.cons_append, List.append_assoc,
    List.nil_append] using hentry

mutual

/-- **A value is followed** as a node. -/
theorem followsNode : ∀ v : Value, FollowsNode v
  | .null => fun _ _ _ _ h => h.scalar true _ _ _
  | .number _ => fun _ _ _ _ h => h.scalar true _ _ _
  | .text _ => fun _ _ _ _ h => h.scalar true _ _ _
  | .record [] => fun _ _ _ _ h => h.braces true _
  | .record (f :: fields) => followsNode_record (followsEntries (f :: fields))

/-- **Fields are followed** as the entries of a map. -/
theorem followsEntries : ∀ fields : List (String × Value), FollowsEntries fields
  | [] => fun _ _ _ _ h => h
  | (_, v) :: fields => followsEntries_cons (followsNode v) (followsEntries fields)

end

end Document

/-! ## Items -/

/-- Without anchors and aliases the items are the events. -/
theorem linkFrom_pieces {es : List Event} {pieces : List Piece}
    (h : es.map (·.kind) = pieces.map Piece.event) (n : Nat) (a : Anchors) :
    ∃ items, linkFrom n a es = (items, a, none) ∧
      items.map (·.kind) = pieces.map Piece.item := by
  induction pieces generalizing es n with
  | nil =>
    obtain rfl := List.map_eq_nil_iff.1 h
    exact ⟨[], rfl, rfl⟩
  | cons p pieces ih =>
    obtain ⟨e, es, rfl, he, hes⟩ := List.map_eq_cons_iff.1 h
    obtain ⟨items, hitems, hkinds⟩ := ih hes (n + 1)
    refine ⟨⟨p.item, e.mark⟩ :: items, ?_, by rw [List.map_cons, hkinds, List.map_cons]⟩
    rw [linkFrom, he]
    cases p <;>
    · simp only [Piece.event, Anchors.mark?, hitems]
      rfl

/-- **The items of a printed record.** -/
theorem ofText_print {name : String} {v : Value} {fields : List (String × Value)}
    (h : Value.AreNamed ((name, v) :: fields)) :
    ∃ items, Tree.ofText (print ((name, v) :: fields)) = ⟨items, none, [], false⟩ ∧
      items.map (·.kind) = (Value.record ((name, v) :: fields)).pieces.map Piece.item := by
  obtain ⟨ts, hts, hkinds⟩ := Lexer.tokens_print h
  have hfollows := Document.followsNode (.record ((name, v) :: fields)) false []
    [.textEnd] [] Document.follows_nil
  have hprintable : allPrintable (print ((name, v) :: fields)) = true :=
    allPrintable_fieldLines 0 _ h
  obtain ⟨t, rest, rfl, ht, hrest⟩ := List.map_eq_cons_iff.1 hkinds
  obtain ⟨es, hes, hevents⟩ := hfollows Event.standardTags (4 * (t :: rest).length + 4)
    (t :: rest) (by rw [hkinds]; simp [Value.kinds]) (by omega)
  have hdocument : Document.ofText (print ((name, v) :: fields)) = ⟨es, none, false⟩ := by
    rw [ofText_of_allPrintable hprintable, hts, Document.ofTokens]
    simp only [ht]
    exact hes
  rw [List.append_nil] at hevents
  obtain ⟨items, hitems, hitemKinds⟩ := linkFrom_pieces hevents 0 ⟨[], 0, []⟩
  refine ⟨items, ?_, hitemKinds⟩
  rw [Tree.ofText, hdocument, Tree.ofDocument]
  simp only [hitems]

end Courier.Yaml
