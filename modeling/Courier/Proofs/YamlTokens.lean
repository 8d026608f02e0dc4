import Courier.Proofs.YamlBlocks

/-!
# Tokens of lines

A lexer's state at the start of a line, or behind the colon of a field, is known from the text that
is left and the columns of the open blocks.  From such a state each step fetches one token, with the
ends of the blocks that the line closes; a name is held back until the colon behind it makes it a
key.

* `Reads` — which tokens a state leads to; `Reads.step` puts one step in front.
* `reads_name`, `reads_colon` — **the name of a field and its colon are read**.
-/

namespace Courier.Yaml

open Result (ok_bind)

namespace Lexer

/-! ## Open blocks -/

/-- The column of the innermost of some blocks. -/
def indentOf : List Nat → Int
  | [] => -1
  | k :: _ => k

/-- The columns around the innermost of some blocks. -/
def outerOf : List Nat → List Int
  | [] => []
  | _ :: ks => indentOf ks :: outerOf ks

/-- The blocks to the right of a column are closed. -/
theorem closeFrom_columns (column : Int) (m : Mark) {inner columns : List Nat}
    (hinner : ∀ k ∈ inner, column < (k : Int)) (hcolumns : indentOf columns ≤ column)
    (held : List Token) :
    closeFrom column m (indentOf (inner ++ columns)) (outerOf (inner ++ columns)) held =
      (indentOf columns, outerOf columns,
        held ++ List.replicate inner.length ⟨.blockEnd, m, m⟩) := by
  induction inner generalizing held with
  | nil =>
    cases columns with
    | nil => simp [outerOf, closeFrom]
    | cons k ks =>
      have hk : ¬column < indentOf (k :: ks) := by omega
      rw [List.nil_append, outerOf, closeFrom, if_neg hk]
      simp
  | cons k inner ih =>
    obtain ⟨hk, hinner⟩ := List.forall_mem_cons.1 hinner
    have hk : column < indentOf (k :: (inner ++ columns)) := hk
    rw [List.cons_append, outerOf, closeFrom, if_pos hk, ih hinner, List.append_assoc,
      List.length_cons, List.replicate_succ, List.singleton_append]

/-- A state outside brackets where no key has begun; the columns are those of the open blocks, the
innermost first. -/
def keyless (s : Source) (columns : List Nat) (keyAllowed : Bool) (held : List Token)
    (given : Nat) : Lexer :=
  ⟨s, none, [], indentOf columns, outerOf columns, keyAllowed, held, given, false⟩

/-- Blocks at a column or to its left stay open. -/
theorem closeBlocks_of_le {l : Lexer} {column : Int} (h : l.indent ≤ column) :
    l.closeBlocks column = l := by
  have hclose : closeFrom column l.mark l.indent l.outerIndents l.held =
      (l.indent, l.outerIndents, l.held) := by
    cases l.outerIndents with
    | nil => rfl
    | cons k ks => rw [closeFrom, if_neg (by omega)]
  rw [closeBlocks, hclose]
  split <;> rfl

/-- A line closes the blocks to the right of its column. -/
theorem closeBlocks_keyless (s : Source) {column : Int} {inner columns : List Nat}
    (hinner : ∀ k ∈ inner, column < (k : Int)) (hcolumns : indentOf columns ≤ column)
    (keyAllowed : Bool) (given : Nat) :
    (keyless s (inner ++ columns) keyAllowed [] given).closeBlocks column =
      keyless s columns keyAllowed (List.replicate inner.length ⟨.blockEnd, s.mark, s.mark⟩)
        given := by
  have hclose := closeFrom_columns column s.mark hinner hcolumns []
  have hblock : ¬(keyless s (inner ++ columns) keyAllowed [] given).inFlow = true :=
    Bool.false_ne_true
  rw [closeBlocks, if_neg hblock]
  simp only [keyless, mark]
  rw [hclose]
  rfl

/-! ## What stands between tokens -/

/-- Blanks are passed. -/
theorem skipFrom_blanks (k : Nat) (cs : List Char) (m : Mark) (keyAllowed : Bool) :
    skipFrom false (blanks k ++ cs) m keyAllowed false =
      skipFrom false cs (m.right k) keyAllowed false := by
  induction k generalizing m with
  | zero => rfl
  | succ k ih =>
    show skipFrom false (' ' :: (blanks k ++ cs)) m keyAllowed false = _
    rw [skipFrom, if_neg (by decide), if_neg Bool.false_ne_true, if_pos (Or.inl rfl), ih,
      Mark.right_right, Nat.add_comm 1 k]

/-- A character that begins a token. -/
structure BeginsToken (c : Char) : Prop where
  unbroken : isBreak c = false
  gapless : isGap c = false
  sharp : c ≠ '#'
  mark : c ≠ '\ufeff'

/-- Two states pass to the same place if their gaps end there. -/
theorem skipBetween_eq_of_skipFrom {s s' : Source} {keyAllowed keyAllowed' : Bool}
    (h : skipFrom false s.rest s.mark keyAllowed false =
      skipFrom false s'.rest s'.mark keyAllowed' false) (columns : List Nat) (held : List Token)
    (given : Nat) :
    (keyless s columns keyAllowed held given).skipBetween =
      (keyless s' columns keyAllowed' held given).skipBetween := by
  rw [skipBetween, skipBetween]
  simp only [keyless, inFlow, List.isEmpty_nil, Bool.not_true, h]

/-- A line end within a gap lets a key begin. -/
theorem skipFrom_newline (rest : List Char) (m : Mark) (keyAllowed : Bool) :
    skipFrom false ('\n' :: rest) m keyAllowed false = skipFrom false rest m.down true false := by
  rw [skipFrom, if_pos (by decide), Bool.not_false, Bool.or_true]

theorem skipFrom_token {c : Char} (h : BeginsToken c) (cs : List Char) (m : Mark)
    (keyAllowed : Bool) :
    skipFrom false (c :: cs) m keyAllowed false = (⟨c :: cs, m⟩, keyAllowed) := by
  have hgap := h.gapless
  rw [isGap, Bool.or_eq_false_iff, beq_eq_false_iff_ne, beq_eq_false_iff_ne] at hgap
  rw [skipFrom, if_neg (by simp [h.unbroken]), if_neg Bool.false_ne_true,
    if_neg (by simp [hgap, h.mark]), if_neg h.sharp]

theorem beginsToken_of_isWordChar {c : Char} (h : isWordChar c = true) : BeginsToken c :=
  ⟨isBreak_of_isWordChar h, isGap_of_isWordChar h, ne_of_isWordChar h (by decide),
    ne_of_isWordChar h (by decide)⟩

/-- Whether a source leads on to the line after it, where a key may begin. -/
def LeadsTo (s : Source) (keyAllowed : Bool) (rest : List Char) : Prop :=
  ∃ line, skipFrom false s.rest s.mark keyAllowed false = skipFrom false rest ⟨line, 0⟩ true false

theorem leadsTo_behindBlanks {indent : Nat} {rest : List Char} (hrest : NextLine indent rest)
    (line : Nat) : LeadsTo (behindBlanks rest line) true rest := by
  refine ⟨line, ?_⟩
  cases hrest with
  | none => rfl
  | @name k hk c hc cs =>
    rw [behindBlanks_name k hc, skipFrom_blanks]
    simp [Mark.right]

theorem leadsTo_newline (rest : List Char) (m : Mark) (keyAllowed : Bool) :
    LeadsTo ⟨'\n' :: rest, m⟩ keyAllowed rest :=
  ⟨m.line + 1, skipFrom_newline rest m keyAllowed⟩

/-! ## Steps -/

/-- All tokens of the text that is left are of the given kinds, and no fault follows them. -/
def Reads (l : Lexer) (kinds : List TokenKind) : Prop :=
  ∀ fuel, l.source.rest.length < fuel →
    ∃ ts, tokens fuel l = ⟨ts, none⟩ ∧ ts.map (·.kind) = kinds

/-- What stands before the next token does not matter to it. -/
theorem tokens_of_skipBetween {l l' : Lexer} (h : l.skipBetween = l'.skipBetween) (fuel : Nat) :
    tokens fuel l = tokens fuel l' := by
  cases fuel with
  | zero => rfl
  | succ fuel =>
    have hfetch : l.fetch = l'.fetch := by rw [fetch, fetch, h]
    rw [tokens, tokens, hfetch]

/-- One step: a token is fetched, some tokens are given out, and reading goes on. -/
theorem Reads.step {l₂ : Lexer} {kinds : List TokenKind} (h : l₂.Reads kinds) {l l₁ : Lexer}
    (hfetch : l.fetch = .ok l₁) (hstale : l₁.dropStaleKeys = .ok l₁) (hended : l₁.ended = false)
    {free kept : List Token} (hrelease : l₁.release l₁.given l₁.held = (free, kept))
    (hnext : ({ l₁ with held := kept, given := l₁.given + free.length } : Lexer).skipBetween =
      l₂.skipBetween)
    (hless : l₂.source.rest.length < l.source.rest.length) :
    l.Reads (free.map (·.kind) ++ kinds) := by
  intro fuel hfuel
  cases fuel with
  | zero => exact absurd hfuel (Nat.not_lt_zero _)
  | succ fuel =>
    obtain ⟨ts, hts, hkinds⟩ := h fuel (by omega)
    refine ⟨free ++ ts, ?_, by rw [List.map_append, hkinds]⟩
    rw [tokens, hfetch, show (Except.ok l₁).bind dropStaleKeys = .ok l₁ from hstale]
    simp only
    rw [if_neg (by simp [hended]), hrelease, tokens_of_skipBetween hnext, hts]

variable {l : Lexer}

/-- A state reads what another one reads whose gap ends at the same place. -/
theorem Reads.of_skipBetween {l' : Lexer} {kinds : List TokenKind} (h : l'.Reads kinds)
    (hskip : l.skipBetween = l'.skipBetween)
    (hle : l'.source.rest.length ≤ l.source.rest.length) : l.Reads kinds := by
  intro fuel hfuel
  rw [tokens_of_skipBetween hskip]
  exact h fuel (Nat.lt_of_le_of_lt hle hfuel)

/-- Where no key has begun all held tokens are given out. -/
theorem release_all (hkey : l.keyStart = none) {depth : Nat}
    (houter : l.outerKeys = List.replicate depth none) (number : Nat) (ts : List Token) :
    l.release number ts = (ts, []) := by
  have hawaits (number : Nat) : l.awaitsKey number = false := by
    simp [awaitsKey, hkey, houter]
  induction ts generalizing number with
  | nil => rfl
  | cons t ts ih => rw [release, if_neg (by simp [hawaits]), ih]

/-- A token that may begin a key is held. -/
theorem release_key {k : KeyStart} (hkey : l.keyStart = some k) (houter : l.outerKeys = [])
    (t : Token) (number : Nat) (ts : List Token) (hnumber : k.number = number + ts.length) :
    l.release number (ts ++ [t]) = (ts, [t]) := by
  have hawaits (n : Nat) : l.awaitsKey n = (k.number == n) := by
    simp [awaitsKey, hkey, houter]
  induction ts generalizing number with
  | nil => rw [List.nil_append, release, if_pos (by simp [hawaits, hnumber])]
  | cons s ts ih =>
    rw [List.length_cons] at hnumber
    have hlater : k.number ≠ number := by omega
    rw [List.cons_append, release, if_neg (by simp [hawaits, hlater]), ih (number + 1) (by omega)]

/-- No key goes stale where none has begun. -/
theorem dropStaleKeys_none (hkey : l.keyStart = none) {depth : Nat}
    (houter : l.outerKeys = List.replicate depth none) : l.dropStaleKeys = .ok l := by
  cases l
  simp_all [dropStaleKeys]

theorem dropStaleKeys_keyless (s : Source) (columns : List Nat) (keyAllowed : Bool)
    (held : List Token) (given : Nat) :
    (keyless s columns keyAllowed held given).dropStaleKeys =
      .ok (keyless s columns keyAllowed held given) :=
  dropStaleKeys_none rfl (show _ = List.replicate 0 none from rfl)

/-- A key does not go stale on its line. -/
theorem dropStaleKeys_key {k : KeyStart} (hkey : l.keyStart = some k) (houter : l.outerKeys = [])
    (hk : isStale l.mark k = false) : l.dropStaleKeys = .ok l := by
  cases l
  simp_all [dropStaleKeys]

theorem dropKey_none (hkey : l.keyStart = none) : l.dropKey = .ok l := by
  rw [dropKey, hkey]

/-- No key is noted where none may begin. -/
theorem noteKey_of_not (h : l.keyAllowed = false) : l.noteKey = .ok l := by
  rw [noteKey, h, if_neg Bool.false_ne_true]

/-- One step after which no key has begun. -/
theorem Reads.step_keyless {l₂ : Lexer} {kinds : List TokenKind} (h : l₂.Reads kinds) {s : Source}
    {columns : List Nat} {keyAllowed : Bool} {held : List Token} {given : Nat}
    (hfetch : l.fetch = .ok (keyless s columns keyAllowed held given))
    (hnext : (keyless s columns keyAllowed [] (given + held.length)).skipBetween = l₂.skipBetween)
    (hless : l₂.source.rest.length < l.source.rest.length) :
    l.Reads (held.map (·.kind) ++ kinds) :=
  h.step hfetch (dropStaleKeys_keyless ..) rfl
    (release_all rfl (show _ = List.replicate 0 none from rfl) _ _) hnext hless

/-- A key is noted where one may begin. -/
theorem noteKey_of_allowed (h : l.keyAllowed = true) (hkey : l.keyStart = none) :
    l.noteKey =
      .ok { l with
        keyStart :=
          some ⟨!l.inFlow && l.indent == l.mark.column, l.given + l.held.length, l.mark⟩ } := by
  rw [noteKey, if_pos h, dropKey_none hkey]
  rfl

/-- What is fetched is decided by what stands behind the gap and the blocks that end there. -/
theorem fetch_eq {l' : Lexer} (hskip : l.skipBetween = l') (hstale : l'.dropStaleKeys = .ok l')
    {c : Char} {cs : List Char} (hrest : (l'.closeBlocks l'.mark.column).source.rest = c :: cs) :
    l.fetch = (l'.closeBlocks l'.mark.column).fetchAt c cs := by
  rw [fetch, hskip, hstale, ok_bind]
  simp only [hrest]

/-- The same where no key has begun: the blocks to the right of the place end. -/
theorem fetch_keyless {text : List Char} {m₀ m : Mark} {keyAllowed keyAllowed' : Bool} {c : Char}
    {cs : List Char}
    (hskip : skipFrom false text m₀ keyAllowed false = (⟨c :: cs, m⟩, keyAllowed'))
    (inner : List Nat) (hinner : ∀ k ∈ inner, m.column < k) {columns : List Nat}
    (hcolumns : indentOf columns ≤ m.column) (given : Nat) :
    (keyless ⟨text, m₀⟩ (inner ++ columns) keyAllowed [] given).fetch =
      (keyless ⟨c :: cs, m⟩ columns keyAllowed' (List.replicate inner.length ⟨.blockEnd, m, m⟩)
        given).fetchAt c cs := by
  have hbetween : (keyless ⟨text, m₀⟩ (inner ++ columns) keyAllowed [] given).skipBetween =
      keyless ⟨c :: cs, m⟩ (inner ++ columns) keyAllowed' [] given := by
    rw [skipBetween]
    simp only [keyless, inFlow, List.isEmpty_nil, Bool.not_true, hskip]
  have hclose := closeBlocks_keyless ⟨c :: cs, m⟩ (fun k hk => Int.ofNat_lt.2 (hinner k hk))
    hcolumns keyAllowed' given
  rw [fetch, hbetween, dropStaleKeys_keyless, ok_bind]
  simp only [show (keyless ⟨c :: cs, m⟩ (inner ++ columns) keyAllowed' [] given).mark = m from rfl,
    hclose]
  rfl

/-! ## Plain scalars -/

theorem atMarker_of_ne {c m : Char} (h : c ≠ m) (cs : List Char) :
    atMarker m (c :: cs) = false := by
  cases cs with
  | nil => rfl
  | cons d cs =>
    cases cs with
    | nil => rfl
    | cons e cs => simp [atMarker, h]

/-- What a plain scalar may begin with: no indicator, and a sign only before more of a word. -/
structure BeginsPlain (c : Char) (cs : List Char) : Prop where
  indicator : isIndicator c = false
  gapless : isGap c = false
  unbroken : isBreak c = false
  word : c = '?' ∨ c = ':' ∨ c = '-' → atWordEnd cs = false

theorem beginsPlain_of_isWordChar {c : Char} (h : isWordChar c = true) (cs : List Char) :
    BeginsPlain c cs := by
  refine ⟨isIndicator_of_isWordChar h, isGap_of_isWordChar h, isBreak_of_isWordChar h, ?_⟩
  rintro (rfl | rfl | rfl) <;> exact absurd h (by decide)

theorem startsPlain_of_beginsPlain {c : Char} {cs : List Char} (h : BeginsPlain c cs) :
    startsPlain false (c :: cs) = true := by
  have hindicator := h.indicator
  simp only [isIndicator, isFlowIndicator, Bool.or_eq_false_iff, beq_eq_false_iff_ne] at hindicator
  by_cases hsign : c = '?' ∨ c = ':' ∨ c = '-'
  · have hword := h.word hsign
    cases cs with
    | nil => cases hword
    | cons d cs =>
      have hd : isGap d = false := (Bool.or_eq_false_iff.1 hword).1
      rcases hsign with rfl | rfl | rfl <;> simp [startsPlain, hword, hd]
  · rw [not_or, not_or] at hsign
    simp [startsPlain, isFlowIndicator, h.gapless, h.unbroken, hindicator, hsign]

/-- What begins a plain scalar is fetched as one. -/
theorem fetchAt_plain {c : Char} {cs : List Char} (h : BeginsPlain c cs)
    (hplace : l.mark.column ≠ 0 ∨ isWordChar c = true) (houter : l.outerKeys = []) :
    l.fetchAt c cs = l.fetchPlain := by
  have hflow : l.inFlow = false := by rw [inFlow, houter]; rfl
  have hmarker (m : Char) (hm : isWordChar m = false) :
      (l.mark.column == 0 && atMarker m (c :: cs)) = false := by
    rcases hplace with hcolumn | hc
    · simp [hcolumn]
    · rw [atMarker_of_ne (ne_of_isWordChar hc hm), Bool.and_false]
  have hsign (d : Char) (hd : d = '?' ∨ d = ':' ∨ d = '-') : ¬(c = d ∧ atWordEnd cs = true) := by
    rintro ⟨rfl, hend⟩
    rw [h.word hd] at hend
    cases hend
  have hindicator := h.indicator
  simp only [isIndicator, isFlowIndicator, Bool.or_eq_false_iff, beq_eq_false_iff_ne] at hindicator
  simp only [fetchAt, hmarker '-' (by decide), hmarker '.' (by decide), hflow,
    startsPlain_of_beginsPlain h]
  simp [hindicator, hsign]

/-! ## Names -/

/-- A name that is written as it is. -/
structure IsName (cs : List Char) : Prop where
  nonempty : cs ≠ []
  letters : ∀ c ∈ cs, isNameLetter c = true
  short : cs.length ≤ 1024

/-- The blocks that are open behind a key at a column. -/
def opened (column : Nat) (columns : List Nat) : List Nat :=
  if indentOf columns < column then column :: columns else columns

/-- The start of a block that a key at a column opens. -/
def opening (column : Nat) (columns : List Nat) : List TokenKind :=
  if indentOf columns < column then [.blockMapStart] else []

/-- The state behind a name that is held because it may be a key. -/
def behindName (rest : List Char) (line column : Nat) (columns : List Nat) (name : List Char)
    (required : Bool) (given : Nat) : Lexer :=
  ⟨⟨rest, ⟨line, column + name.length⟩⟩, some ⟨required, given, ⟨line, column⟩⟩, [],
    indentOf columns, outerOf columns, false,
    [⟨.scalar .plain name, ⟨line, column⟩, ⟨line, column + name.length⟩⟩], given, false⟩

/-- A name fits the width of a key. -/
theorem not_isStale_name {name : List Char} (hname : IsName name) (line column : Nat)
    (required : Bool) (given : Nat) :
    isStale ⟨line, column + name.length⟩ ⟨required, given, ⟨line, column⟩⟩ = false := by
  have hshort := hname.short
  simp only [isStale, Nat.lt_irrefl, decide_false, Bool.false_or, decide_eq_false_iff_not]
  omega

/-- A name where a key may begin is fetched and noted. -/
theorem fetchPlain_name {name : List Char} (hname : ∀ c ∈ name, isNameLetter c = true)
    {rest : List Char} (hrest : atWordEnd rest = true) (m : Mark) (columns : List Nat)
    (held : List Token) (given : Nat) :
    (keyless ⟨name ++ ':' :: rest, m⟩ columns true held given).fetchPlain =
      .ok ⟨⟨':' :: rest, m.right name.length⟩,
        some ⟨indentOf columns == m.column, given + held.length, m⟩, [], indentOf columns,
        outerOf columns, false, held ++ [⟨.scalar .plain name, m, m.right name.length⟩], given,
        false⟩ := by
  have hread := plainFrom_name hname hrest (indentOf columns + 1).toNat m m []
  rw [fetchPlain, noteKey_of_allowed rfl rfl, ok_bind, PlainScalar.read]
  simp only [keyless, inFlow, List.isEmpty_nil, Bool.not_true, Bool.not_false, Bool.true_and, mark]
  rw [hread, ok_bind]
  rfl

/-- A colon that ends a word is fetched as the sign of a value. -/
theorem fetchAt_colon (hcolumn : l.mark.column ≠ 0) (houter : l.outerKeys = []) {rest : List Char}
    (hrest : atWordEnd rest = true) : l.fetchAt ':' rest = l.fetchValue := by
  have hflow : l.inFlow = false := by rw [inFlow, houter]; rfl
  simp [fetchAt, hcolumn, hflow, hrest]

/-- A name at the start of a line closes the blocks to its right and is held. -/
theorem reads_name {name : List Char} (hname : IsName name) {column line : Nat}
    {inner columns : List Nat} (hinner : ∀ k ∈ inner, column < k)
    (hcolumns : indentOf columns ≤ column) {rest : List Char} (hrest : atWordEnd rest = true)
    (given : Nat) {kinds : List TokenKind}
    (h : ∀ required given, (behindName (':' :: rest) line column columns name required
      given).Reads kinds) :
    (keyless ⟨blanks column ++ (name ++ ':' :: rest), ⟨line, 0⟩⟩ (inner ++ columns) true []
      given).Reads (List.replicate inner.length .blockEnd ++ kinds) := by
  obtain ⟨c, cs, rfl⟩ := List.exists_cons_of_ne_nil hname.nonempty
  have hc := isWordChar_of_isNameLetter (hname.letters c List.mem_cons_self)
  have hskip : skipFrom false (blanks column ++ (c :: cs ++ ':' :: rest)) ⟨line, 0⟩ true false =
      (⟨c :: (cs ++ ':' :: rest), ⟨line, column⟩⟩, true) := by
    rw [skipFrom_blanks, List.cons_append, skipFrom_token (beginsToken_of_isWordChar hc)]
    simp [Mark.right]
  have hfetch := fetch_keyless (m := ⟨line, column⟩) hskip inner hinner hcolumns given
  rw [fetchAt_plain (beginsPlain_of_isWordChar hc _) (Or.inr hc) rfl, ← List.cons_append,
    fetchPlain_name hname.letters hrest, List.length_replicate] at hfetch
  have hstep := (h (indentOf columns == column) (given + inner.length)).step hfetch
    (dropStaleKeys_key rfl rfl (not_isStale_name hname ..)) rfl
    (release_key rfl rfl _ _ _ (by rw [List.length_replicate]))
    (by rw [List.length_replicate]; rfl) (by simp [behindName, keyless, blanks]; omega)
  rwa [List.map_replicate] at hstep

/-- A token is put in front of all held tokens. -/
theorem insert_front (kind : TokenKind) (m : Mark) :
    l.insert l.given kind m = { l with held := ⟨kind, m, m⟩ :: l.held } := by
  simp [insert]

theorem openBlock_of_le {column : Nat} (h : column ≤ l.indent) (number : Option Nat)
    (kind : TokenKind) (m : Mark) : l.openBlock column number kind m = l := by
  rw [openBlock, if_pos (Or.inr h)]

theorem openBlock_of_lt {column : Nat} (houter : l.outerKeys = []) (h : l.indent < column)
    (number : Nat) (kind : TokenKind) (m : Mark) :
    l.openBlock column (some number) kind m =
      { l with outerIndents := l.indent :: l.outerIndents, indent := column }.insert number kind
        m := by
  have hstays : ¬(l.inFlow = true ∨ (column : Int) ≤ l.indent) := by
    rw [inFlow, houter]
    rintro (hflow | hle)
    · cases hflow
    · omega
  rw [openBlock, if_neg hstays]

/-- A colon behind a name puts the sign of a key in front of it, and before that the start of a
block if the key opens one. -/
theorem fetchValue_behindName (rest : List Char) (line column : Nat) (columns : List Nat)
    (name : List Char) (required : Bool) (given : Nat) :
    ∃ held, (behindName (':' :: rest) line column columns name required given).fetchValue =
        .ok (keyless ⟨rest, ⟨line, column + name.length + 1⟩⟩ (opened column columns) false held
          given) ∧
      held.map (·.kind) = opening column columns ++ [.key, .scalar .plain name, .value] := by
  have hkey : (behindName (':' :: rest) line column columns name required given).insert given .key
      ⟨line, column⟩ = { behindName (':' :: rest) line column columns name required given with
        held := [⟨.key, ⟨line, column⟩, ⟨line, column⟩⟩,
          ⟨.scalar .plain name, ⟨line, column⟩, ⟨line, column + name.length⟩⟩] } :=
    insert_front _ _
  unfold opened opening
  rw [fetchValue]
  simp only [behindName] at hkey ⊢
  rw [hkey]
  by_cases hopens : indentOf columns < column
  · rw [if_pos hopens, if_pos hopens, openBlock_of_lt rfl hopens]
    simp only [insert, Nat.sub_self]
    exact ⟨_, rfl, rfl⟩
  · rw [if_neg hopens, if_neg hopens, openBlock_of_le (Int.not_lt.1 hopens)]
    exact ⟨_, rfl, rfl⟩

/-- The colon behind a name makes it a key, which opens a block unless it stands in one. -/
theorem reads_colon {name : List Char} (hname : IsName name) {column line : Nat}
    {columns : List Nat} (hcolumns : indentOf columns ≤ column) {rest : List Char}
    (hrest : atWordEnd rest = true) (required : Bool) (given : Nat) {kinds : List TokenKind}
    (h : ∀ m given, m.column = column + name.length + 1 →
      (keyless ⟨rest, m⟩ (opened column columns) false [] given).Reads kinds) :
    (behindName (':' :: rest) line column columns name required given).Reads
      (opening column columns ++ [.key, .scalar .plain name, .value] ++ kinds) := by
  have hskip : (behindName (':' :: rest) line column columns name required given).skipBetween =
      behindName (':' :: rest) line column columns name required given := by
    have hcolon : BeginsToken ':' := ⟨by decide, by decide, by decide, by decide⟩
    rw [skipBetween]
    simp only [behindName, inFlow, List.isEmpty_nil, Bool.not_true]
    rw [skipFrom_token hcolon]
  have hclose : (behindName (':' :: rest) line column columns name required given).closeBlocks
      ((column + name.length : Nat) : Int) =
        behindName (':' :: rest) line column columns name required given :=
    closeBlocks_of_le (by simp only [behindName]; omega)
  have hfetch := fetch_eq hskip (dropStaleKeys_key rfl rfl (not_isStale_name hname ..))
    (congrArg (·.source.rest) hclose)
  rw [show (behindName (':' :: rest) line column columns name required given).mark.column =
    column + name.length from rfl, hclose] at hfetch
  have hcolumn : (behindName (':' :: rest) line column columns name required given).mark.column ≠
      0 := by
    have hlength := List.length_pos_of_ne_nil hname.nonempty
    show column + name.length ≠ 0
    omega
  obtain ⟨held, hvalue, hkinds⟩ := fetchValue_behindName rest line column columns name required
    given
  rw [fetchAt_colon hcolumn rfl hrest, hvalue] at hfetch
  rw [← hkinds]
  exact (h _ (given + held.length) rfl).step_keyless hfetch rfl (by simp [behindName, keyless])

end Lexer

end Courier.Yaml
