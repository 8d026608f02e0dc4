import Courier.Proofs.YamlTokens

/-!
# Printed records as tokens

The lines that are written for a record are read as tokens: a name and a colon before each value,
and around the fields of each record the start and the end of a block.

* `isScalar_textLine` — **a text is one scalar**, of the style that was chosen for it.
* `readsTail`, `readsFields` — values and fields, by the shape of a record.
* `tokens_print` — **the tokens of a printed record**.
-/

namespace Courier.Yaml

open Result (ok_bind)

namespace Lexer

/-! ## Values on one line -/

/-- A text that is fetched as one scalar within a block, up to the line that follows. -/
structure IsScalar (column : Nat) (text rest : List Char) (style : Style) (cs : List Char) :
    Prop where
  begins : ∃ c more, text = c :: more ∧ BeginsToken c
  longer : rest.length < text.length
  fetchAt : ∀ c more, text = c :: more → ∀ m columns given, column < m.column →
    indentOf columns = column → ∃ s keyAllowed,
      (keyless ⟨text, m⟩ columns false [] given).fetchAt c more =
        .ok (keyless s columns keyAllowed [⟨.scalar style cs, m, s.mark⟩] given) ∧
      LeadsTo s keyAllowed rest

/-- A scalar behind a colon is read. -/
theorem reads_scalar {column : Nat} {text rest : List Char} {style : Style} {cs : List Char}
    (hscalar : IsScalar column text rest style cs) {columns : List Nat}
    (hcolumns : indentOf columns = column) (m : Mark) (hm : column ≤ m.column) (given : Nat)
    {kinds : List TokenKind}
    (h : ∀ line given, (keyless ⟨rest, ⟨line, 0⟩⟩ columns true [] given).Reads kinds) :
    (keyless ⟨' ' :: text, m⟩ columns false [] given).Reads (.scalar style cs :: kinds) := by
  obtain ⟨c, more, rfl, hc⟩ := hscalar.begins
  obtain ⟨s, keyAllowed, hfetchAt, line, hleads⟩ :=
    hscalar.fetchAt c more rfl (m.right 1) columns given (Nat.lt_succ_of_le hm) hcolumns
  have hskip : skipFrom false (' ' :: c :: more) m false false =
      (⟨c :: more, m.right 1⟩, false) :=
    (skipFrom_blanks 1 _ m false).trans (skipFrom_token hc more _ false)
  have hindent : indentOf columns ≤ (m.right 1).column := by
    show indentOf columns ≤ ((m.column + 1 : Nat) : Int)
    omega
  have hfetch := (fetch_keyless hskip [] (List.forall_mem_nil _) hindent given).trans hfetchAt
  exact (h line (given + 1)).step_keyless hfetch (skipBetween_eq_of_skipFrom hleads columns [] _)
    (Nat.lt_succ_of_lt hscalar.longer)

/-- A plain text is fetched as one scalar. -/
theorem isScalar_plain {c : Char} {cs : List Char} (h : PlainText c cs) {column : Nat}
    {rest : List Char} (hrest : NextLine column rest) :
    IsScalar column (c :: (cs ++ '\n' :: rest)) rest .plain (c :: cs) where
  begins := by
    refine ⟨c, cs ++ '\n' :: rest, rfl, h.unbroken, ?_, ?_, ?_⟩
    · rw [isGap_of_isPrintable h.printable, h.unpadded]
    · rintro rfl
      exact absurd h.indicator (by decide)
    · rintro rfl
      exact absurd h.printable (by decide)
  longer := by
    rw [List.length_cons, List.length_append, List.length_cons]
    omega
  fetchAt := by
    rintro _ _ ⟨⟩ m columns given hm hcolumns
    have hbegins : BeginsPlain c (cs ++ '\n' :: rest) := by
      refine ⟨h.indicator, ?_, h.unbroken, fun hsign => ?_⟩
      · rw [isGap_of_isPrintable h.printable, h.unpadded]
      · rw [atWordEnd_append_newline, h.word hsign]
    obtain ⟨line, hread⟩ := read_plain h hrest m hm
    refine ⟨behindBlanks rest line, true, ?_, leadsTo_behindBlanks hrest line⟩
    have hindent : (indentOf columns + 1).toNat = column + 1 := by omega
    rw [fetchAt_plain hbegins (Or.inl (Nat.ne_of_gt (Nat.lt_of_le_of_lt (Nat.zero_le _) hm))) rfl,
      fetchPlain, noteKey_of_not rfl, ok_bind]
    simp only [keyless, inFlow, List.isEmpty_nil, Bool.not_true, hindent]
    rw [← List.cons_append, hread]
    rfl

theorem fetchAt_quoted (l : Lexer) (double : Bool) (cs : List Char) :
    l.fetchAt (if double then '"' else '\'') cs = l.fetchQuoted double := by
  cases double <;> simp [Lexer.fetchAt, atMarker_of_ne]

/-- A quoted text that is read back is fetched as one scalar. -/
theorem isScalar_quoted (double : Bool) (column : Nat) {cs text rest : List Char}
    (htext : rest.length < text.length)
    (hread : ∀ m, ∃ m', readQuoted double ⟨(if double then '"' else '\'') :: text, m⟩ =
      .ok (cs, ⟨'\n' :: rest, m'⟩)) :
    IsScalar column ((if double then '"' else '\'') :: text) rest
      (if double then .double else .single) cs where
  begins := by
    refine ⟨_, text, rfl, ?_⟩
    cases double <;> exact ⟨by decide, by decide, by decide, by decide⟩
  longer := Nat.lt_succ_of_lt htext
  fetchAt := by
    rintro _ _ ⟨⟩ m columns given hm hcolumns
    obtain ⟨m', hread⟩ := hread m
    refine ⟨⟨'\n' :: rest, m'⟩, false, ?_, leadsTo_newline rest m' false⟩
    rw [fetchAt_quoted, fetchQuoted, noteKey_of_not rfl, ok_bind]
    simp only [keyless]
    rw [hread]
    rfl

/-- A literal block is fetched as one scalar. -/
theorem isScalar_literal {cs : List Char} (hcs : cs ≠ []) (hclean : isClean cs = true)
    {column : Nat} {rest : List Char} (hrest : NextLine column rest) :
    IsScalar column
      ('|' :: (indentHint cs ++ chompingHint cs
        ++ '\n' :: (literalBody (column + 2) true cs
          ++ ((if cs.getLast?.any isBreak then [] else ['\n']) ++ rest)))) rest .literal cs where
  begins := ⟨'|', _, rfl, by decide, by decide, by decide, by decide⟩
  longer := by
    simp only [List.length_cons, List.length_append]
    omega
  fetchAt := by
    rintro _ _ ⟨⟩ m columns given hm hcolumns
    obtain ⟨line, hread⟩ := readBlock_literal hcs hclean hrest m
    refine ⟨behindBlanks rest line, true, ?_, leadsTo_behindBlanks hrest line⟩
    have hfetchAt (l : Lexer) (houter : l.outerKeys = []) (more : List Char) :
        l.fetchAt '|' more = l.fetchBlock true := by
      simp [Lexer.fetchAt, atMarker_of_ne, inFlow, houter]
    rw [hfetchAt _ rfl, fetchBlock, dropKey_none rfl, ok_bind]
    simp only [keyless, hcolumns]
    rw [hread]
    rfl

/-- **A text is fetched as one scalar** of the style that it is written in. -/
theorem isScalar_textLine (cs : List Char) {column : Nat} {rest : List Char}
    (hrest : NextLine column rest) :
    IsScalar column (textLine (column + 2) cs ++ rest) rest (styleOf cs) cs := by
  obtain ⟨hstyle, hfeed, hclean⟩ | ⟨hstyle, htext, hallows⟩ | ⟨hstyle, hfeed, hallows⟩ | hstyle :=
    styleOf_cases cs
  · have hscalar := isScalar_literal (List.ne_nil_of_mem hfeed) hclean hrest
    simpa only [textLine, hstyle, List.append_assoc, List.cons_append] using hscalar
  · obtain ⟨c, cs, rfl⟩ : ∃ c more, cs = c :: more := by
      refine List.exists_cons_of_ne_nil ?_
      rintro rfl
      cases htext
    have hscalar := isScalar_plain (plainText_of_allowsPlain hallows) hrest
    simpa only [textLine, hstyle, List.append_assoc, List.cons_append, List.nil_append]
      using hscalar
  · have hread := readQuoted_single (Nat.succ_pos (column + 1))
      (singleText_of_allowsSingle hfeed hallows) rest
    have hscalar : IsScalar column
        ('\'' :: (singleBody (column + 2) false cs ++ '\'' :: '\n' :: rest)) rest .single cs :=
      isScalar_quoted false column (by simp; omega) hread
    simpa only [textLine, hstyle, List.append_assoc, List.cons_append, List.nil_append]
      using hscalar
  · have hread := readQuoted_double cs ('\n' :: rest)
    have hscalar : IsScalar column ('"' :: (cs.flatMap doubleChar ++ '"' :: '\n' :: rest)) rest
        .double cs :=
      isScalar_quoted true column (by simp; omega) hread
    simpa only [textLine, hstyle, List.append_assoc, List.cons_append, List.nil_append]
      using hscalar

/-- Letters and digits are fetched as one scalar. -/
theorem isScalar_word {cs : List Char} (hne : cs ≠ []) (hcs : ∀ c ∈ cs, isWordChar c = true)
    {column : Nat} {rest : List Char} (hrest : NextLine column rest) :
    IsScalar column (cs ++ '\n' :: rest) rest .plain cs := by
  obtain ⟨c, cs, rfl⟩ := List.exists_cons_of_ne_nil hne
  exact isScalar_plain (plainText_of_word hcs) hrest

/-! ## Records -/

end Lexer

mutual

/-- The tokens of a value. -/
def Value.kinds : Value → List TokenKind
  | .null => [.scalar .plain ['n', 'u', 'l', 'l']]
  | .number n => [.scalar .plain (Text.digits n)]
  | .text s => [.scalar (styleOf s.toList) s.toList]
  | .record [] => [.flowMapStart, .flowMapEnd]
  | .record (f :: fs) => .blockMapStart :: (Value.fieldKinds (f :: fs) ++ [.blockEnd])

/-- The tokens of a record's fields. -/
def Value.fieldKinds : List (String × Value) → List TokenKind
  | [] => []
  | (name, v) :: rest =>
    [.key, .scalar .plain name.toList, .value] ++ (v.kinds ++ Value.fieldKinds rest)

end

mutual

/-- Whether the names of fields are such as are written as they are. -/
def Value.IsNamed : Value → Prop
  | .record fields => Value.AreNamed fields
  | _ => True

/-- Whether the names of some fields, and those within their values, are written as they are. -/
def Value.AreNamed : List (String × Value) → Prop
  | [] => True
  | (name, v) :: rest => Lexer.IsName name.toList ∧ v.IsNamed ∧ Value.AreNamed rest

end

namespace Lexer

/-- Reading goes on at the line behind the fields of a block, whichever blocks within it are still
open; their ends are the first tokens then. -/
def GoesOn (rest : List Char) (column : Nat) (outer : List Nat) (kinds : List TokenKind) : Prop :=
  ∀ (inner : List Nat) (line given : Nat), (∀ k ∈ inner, column < k) →
    (keyless ⟨rest, ⟨line, 0⟩⟩ (inner ++ column :: outer) true [] given).Reads
      (List.replicate inner.length .blockEnd ++ kinds)

/-- What follows the colon of a field is read as a value, and reading goes on behind it. -/
def ReadsTail (v : Value) : Prop :=
  ∀ (column : Nat) (outer : List Nat) (rest : List Char) (kinds : List TokenKind),
    NextLine column rest → GoesOn rest column outer kinds →
    ∀ (m : Mark) (given : Nat), column < m.column →
      (keyless ⟨v.tail column ++ rest, m⟩ (column :: outer) false [] given).Reads (v.kinds ++ kinds)

/-- The lines of fields are read within the block of their record, and reading goes on behind
them. -/
def ReadsFields (fields : List (String × Value)) : Prop :=
  ∀ (column : Nat) (outer : List Nat) (rest : List Char) (kinds : List TokenKind),
    NextLine column rest → GoesOn rest column outer kinds →
    GoesOn (Value.fieldLines column fields ++ rest) column outer (Value.fieldKinds fields ++ kinds)

theorem nextLine_fieldLines {fields : List (String × Value)} (h : Value.AreNamed fields)
    {column : Nat} {rest : List Char} (hrest : NextLine column rest) :
    NextLine column (Value.fieldLines column fields ++ rest) := by
  cases fields with
  | nil => exact hrest
  | cons f fields =>
    obtain ⟨name, v⟩ := f
    obtain ⟨hname, -, -⟩ := h
    obtain ⟨c, cs, hcs⟩ := List.exists_cons_of_ne_nil hname.nonempty
    have hc : isNameLetter c = true := hname.letters c (by rw [hcs]; exact List.mem_cons_self)
    have hline := NextLine.name (Nat.le_refl column) hc
      (cs ++ ':' :: (v.tail column ++ Value.fieldLines column fields ++ rest))
    simpa only [Value.fieldLines, hcs, List.append_assoc, List.cons_append] using hline

theorem atWordEnd_tail (v : Value) (column : Nat) (rest : List Char) :
    atWordEnd (v.tail column ++ rest) = true := by
  cases v with
  | record fields => cases fields <;> simp [Value.tail, atWordEnd, isGap, isBreak]
  | _ => simp [Value.tail, atWordEnd, isGap]

/-- The line of a field is read up to its value. -/
theorem reads_field {name : List Char} (hname : IsName name) (v : Value) {column : Nat}
    (inner : List Nat) (hinner : ∀ k ∈ inner, column < k) {columns : List Nat}
    (hcolumns : indentOf columns ≤ column) (rest : List Char) (line given : Nat)
    {kinds : List TokenKind}
    (h : ∀ m given, column < m.column →
      (keyless ⟨v.tail column ++ rest, m⟩ (opened column columns) false [] given).Reads kinds) :
    (keyless ⟨blanks column ++ (name ++ ':' :: (v.tail column ++ rest)), ⟨line, 0⟩⟩
      (inner ++ columns) true [] given).Reads
        (List.replicate inner.length .blockEnd ++
          (opening column columns ++ [.key, .scalar .plain name, .value] ++ kinds)) := by
  refine reads_name hname hinner hcolumns (atWordEnd_tail v column rest) given
    fun required given => ?_
  refine reads_colon hname hcolumns (atWordEnd_tail v column rest) required given
    fun m given hm => h m given ?_
  omega

/-- The fields of a record are read as a block where they are indented further than what is around
them. -/
theorem reads_block {name : String} {v : Value} {fields : List (String × Value)}
    (hnamed : Value.AreNamed ((name, v) :: fields)) (hv : ReadsTail v)
    (hfields : ReadsFields fields) {column : Nat} {columns : List Nat}
    (hcolumns : indentOf columns < column) {rest : List Char} (hrest : NextLine column rest)
    {kinds : List TokenKind} (h : GoesOn rest column columns kinds) (line given : Nat) :
    (keyless ⟨Value.fieldLines column ((name, v) :: fields) ++ rest, ⟨line, 0⟩⟩ columns true []
      given).Reads (.blockMapStart :: (Value.fieldKinds ((name, v) :: fields) ++ kinds)) := by
  obtain ⟨hname, -, hnamed⟩ := hnamed
  have hopened : opened column columns = column :: columns := if_pos hcolumns
  have hopening : opening column columns = [.blockMapStart] := if_pos hcolumns
  have hread := reads_field hname v [] (by simp) (Int.le_of_lt hcolumns)
    (Value.fieldLines column fields ++ rest) line given fun m given hm => by
      rw [hopened]
      exact hv column columns _ _ (nextLine_fieldLines hnamed hrest)
        (hfields column columns rest kinds hrest h) m given hm
  rw [hopening] at hread
  simpa only [Value.fieldLines, Value.fieldKinds, List.append_assoc, List.cons_append,
    List.nil_append, List.length_nil, List.replicate_zero] using hread

/-- Further fields are read within the block of their record. -/
theorem readsFields_cons {name : String} {v : Value} {fields : List (String × Value)}
    (hnamed : Value.AreNamed ((name, v) :: fields)) (hv : ReadsTail v)
    (hfields : ReadsFields fields) : ReadsFields ((name, v) :: fields) := by
  intro column outer rest kinds hrest h inner line given hinner
  obtain ⟨hname, -, hnamed⟩ := hnamed
  have hstays : ¬indentOf (column :: outer) < column := Int.lt_irrefl _
  have hopened : opened column (column :: outer) = column :: outer := if_neg hstays
  have hopening : opening column (column :: outer) = [] := if_neg hstays
  have hread := reads_field hname v inner hinner (Int.le_refl (indentOf (column :: outer)))
    (Value.fieldLines column fields ++ rest) line given fun m given hm => by
      rw [hopened]
      exact hv column outer _ _ (nextLine_fieldLines hnamed hrest)
        (hfields column outer rest kinds hrest h) m given hm
  rw [hopening] at hread
  simpa only [Value.fieldLines, Value.fieldKinds, List.append_assoc, List.cons_append,
    List.nil_append] using hread

/-- A scalar behind the colon of a field is read. -/
theorem reads_scalarTail {column : Nat} {text rest : List Char} {style : Style} {cs : List Char}
    (hscalar : IsScalar column text rest style cs) {outer : List Nat} {kinds : List TokenKind}
    (h : GoesOn rest column outer kinds) (m : Mark) (given : Nat) (hm : column < m.column) :
    (keyless ⟨' ' :: text, m⟩ (column :: outer) false [] given).Reads (.scalar style cs :: kinds) :=
  reads_scalar hscalar rfl m (Nat.le_of_lt hm) given fun line given => h [] line given nofun

theorem readsTail_null : ReadsTail .null := by
  intro column outer rest kinds hrest h m given hm
  have hword : ['n', 'u', 'l', 'l'].all isWordChar = true := by decide
  have hscalar := isScalar_word (List.cons_ne_nil _ _) (List.all_eq_true.1 hword) hrest
  exact reads_scalarTail hscalar h m given hm

theorem readsTail_number (n : Nat) : ReadsTail (.number n) := by
  intro column outer rest kinds hrest h m given hm
  have hscalar := isScalar_word (Text.digits_ne_nil n) (fun _ => isWordChar_of_mem_digits) hrest
  have hread := reads_scalarTail hscalar h m given hm
  simpa only [Value.tail, Value.kinds, List.append_assoc, List.cons_append, List.nil_append]
    using hread

theorem readsTail_text (s : String) : ReadsTail (.text s) := by
  intro column outer rest kinds hrest h m given hm
  exact reads_scalarTail (isScalar_textLine s.toList hrest) h m given hm

/-- The state behind an opening brace. -/
def inBraces (s : Source) (columns : List Nat) (held : List Token) (given : Nat) : Lexer :=
  ⟨s, none, [none], indentOf columns, outerOf columns, true, held, given, false⟩

/-- An opening brace is fetched. -/
theorem fetch_openBrace {columns : List Nat} (m : Mark) (hm : indentOf columns ≤ m.column + 1)
    (rest : List Char) (given : Nat) :
    (keyless ⟨' ' :: '\x7b' :: rest, m⟩ columns false [] given).fetch =
      .ok (inBraces ⟨rest, m.right 2⟩ columns [⟨.flowMapStart, m.right 1, m.right 2⟩] given) := by
  have hbrace : BeginsToken '\x7b' := ⟨by decide, by decide, by decide, by decide⟩
  have hskip : skipFrom false (' ' :: '\x7b' :: rest) m false false =
      (⟨'\x7b' :: rest, m.right 1⟩, false) :=
    (skipFrom_blanks 1 _ m false).trans (skipFrom_token hbrace rest _ false)
  have hfetchAt (l : Lexer) (more : List Char) :
      l.fetchAt '\x7b' more = l.fetchFlowStart .flowMapStart := by
    simp [Lexer.fetchAt, atMarker_of_ne]
  have hfetch := fetch_keyless (m := m.right 1) hskip [] (List.forall_mem_nil _) hm given
  rw [hfetchAt, fetchFlowStart, noteKey_of_not rfl] at hfetch
  exact hfetch

/-- A closing brace is fetched. -/
theorem fetch_closeBrace (columns : List Nat) (m : Mark) (rest : List Char) (given : Nat) :
    (inBraces ⟨'\x7d' :: rest, m⟩ columns [] given).fetch =
      .ok (keyless ⟨rest, m.right 1⟩ columns false [⟨.flowMapEnd, m, m.right 1⟩] given) := by
  have hskip : (inBraces ⟨'\x7d' :: rest, m⟩ columns [] given).skipBetween =
      inBraces ⟨'\x7d' :: rest, m⟩ columns [] given := rfl
  have hfetchAt (l : Lexer) (more : List Char) :
      l.fetchAt '\x7d' more = l.fetchFlowEnd .flowMapEnd := by
    simp [Lexer.fetchAt, atMarker_of_ne]
  rw [fetch_eq hskip (dropStaleKeys_none rfl (show _ = List.replicate 1 none from rfl)) rfl,
    hfetchAt]
  rfl

/-- A record without fields is read as a pair of braces. -/
theorem readsTail_empty : ReadsTail (.record []) := by
  intro column outer rest kinds hrest h m given hm
  have hindent : indentOf (column :: outer) ≤ m.column + 1 := by
    show (column : Int) ≤ m.column + 1
    omega
  have hclose := (h [] (m.line + 1) (given + 2) (List.forall_mem_nil _)).step_keyless
    (fetch_closeBrace (column :: outer) (m.right 2) ('\n' :: rest) (given + 1))
    (skipBetween_eq_of_skipFrom (skipFrom_newline rest _ false) _ [] _)
    (Nat.lt_succ_of_lt (Nat.lt_succ_self _))
  exact hclose.step (fetch_openBrace m hindent ('\x7d' :: '\n' :: rest) given)
    (dropStaleKeys_none rfl (show _ = List.replicate 1 none from rfl)) rfl
    (release_all rfl (show _ = List.replicate 1 none from rfl) _ _) rfl
    (Nat.lt_succ_of_lt (Nat.lt_succ_self _))

/-- A record with fields is read from the lines below its name. -/
theorem readsTail_record {name : String} {v : Value} {fields : List (String × Value)}
    (hnamed : Value.AreNamed ((name, v) :: fields)) (hv : ReadsTail v)
    (hfields : ReadsFields fields) : ReadsTail (.record ((name, v) :: fields)) := by
  intro column outer rest kinds hrest h m given hm
  have hinner : indentOf (column :: outer) < ((column + 2 : Nat) : Int) := by
    show (column : Int) < ((column + 2 : Nat) : Int)
    omega
  have hgoes : GoesOn rest (column + 2) (column :: outer) (.blockEnd :: kinds) := by
    intro inner line given hinner
    have hcloses := h (inner ++ [column + 2]) line given fun k hk => by
      rcases List.mem_append.1 hk with hk | hk
      · exact Nat.lt_trans (Nat.lt_add_of_pos_right Nat.two_pos) (hinner k hk)
      · rw [List.mem_singleton.1 hk]
        exact Nat.lt_add_of_pos_right Nat.two_pos
    rw [List.length_append, List.length_singleton, List.replicate_succ'] at hcloses
    simpa only [List.append_assoc, List.singleton_append] using hcloses
  have hread := reads_block hnamed hv hfields hinner (hrest.mono (Nat.le_add_right _ 2)) hgoes
    (m.line + 1) given
  have hkinds : (Value.record ((name, v) :: fields)).kinds ++ kinds =
      .blockMapStart :: (Value.fieldKinds ((name, v) :: fields) ++ .blockEnd :: kinds) := by
    simp only [Value.kinds, List.cons_append, List.append_assoc, List.nil_append]
  rw [hkinds]
  exact hread.of_skipBetween (skipBetween_eq_of_skipFrom (skipFrom_newline _ m false) _ [] given)
    (Nat.le_succ _)

mutual

/-- **A value is read** from what follows the colon of its field. -/
theorem readsTail : ∀ v : Value, v.IsNamed → ReadsTail v
  | .null, _ => readsTail_null
  | .number n, _ => readsTail_number n
  | .text s, _ => readsTail_text s
  | .record [], _ => readsTail_empty
  | .record ((_, v) :: fields), h =>
    readsTail_record h (readsTail v h.2.1) (readsFields fields h.2.2)

/-- **Fields are read** from their lines. -/
theorem readsFields : ∀ fields : List (String × Value), Value.AreNamed fields → ReadsFields fields
  | [], _ => fun _ _ _ _ _ h => h
  | (_, v) :: fields, h => readsFields_cons h (readsTail v h.2.1) (readsFields fields h.2.2)

end

/-! ## Whole texts -/

/-- The last step gives out all tokens that are held. -/
theorem reads_last {l l₁ : Lexer} (hfetch : l.fetch = .ok l₁) (hkey : l₁.keyStart = none)
    (houter : l₁.outerKeys = []) (hended : l₁.ended = true) :
    l.Reads (l₁.held.map (·.kind)) := by
  intro fuel hfuel
  cases fuel with
  | zero => cases hfuel
  | succ fuel =>
    have houter : l₁.outerKeys = List.replicate 0 none := houter
    have hstale : l₁.dropStaleKeys = .ok l₁ := dropStaleKeys_none hkey houter
    refine ⟨l₁.held, ?_, rfl⟩
    rw [tokens, hfetch, show (Except.ok l₁).bind dropStaleKeys = .ok l₁ from hstale]
    simp only
    rw [if_pos hended, release_all hkey houter, List.append_nil]

/-- The end of a text closes its outermost block. -/
theorem fetchEnd_keyless (line : Nat) (held : List Token) (given : Nat) :
    (keyless ⟨[], ⟨line, 0⟩⟩ [0] true held given).fetchEnd =
      .ok ⟨⟨[], ⟨line, 0⟩⟩, none, [], -1, [], false,
        held ++ [⟨.blockEnd, ⟨line, 0⟩, ⟨line, 0⟩⟩] ++ [⟨.textEnd, ⟨line, 0⟩, ⟨line, 0⟩⟩], given,
        true⟩ := rfl

/-- The end of the text ends all blocks. -/
theorem goesOn_end : GoesOn [] 0 [] [.blockEnd, .textEnd] := by
  intro inner line given hinner
  have hclose := closeBlocks_keyless ⟨[], ⟨line, 0⟩⟩ (fun k hk => Int.ofNat_lt.2 (hinner k hk))
    (Int.le_refl (indentOf [0])) true given
  have hskip : (keyless ⟨[], ⟨line, 0⟩⟩ (inner ++ [0]) true [] given).skipBetween =
      keyless ⟨[], ⟨line, 0⟩⟩ (inner ++ [0]) true [] given := rfl
  have hfetch : (keyless ⟨[], ⟨line, 0⟩⟩ (inner ++ [0]) true [] given).fetch =
      (keyless ⟨[], ⟨line, 0⟩⟩ [0] true
        (List.replicate inner.length ⟨.blockEnd, ⟨line, 0⟩, ⟨line, 0⟩⟩) given).fetchEnd := by
    rw [fetch, hskip, dropStaleKeys_keyless, ok_bind]
    simp only [show (keyless ⟨[], ⟨line, 0⟩⟩ (inner ++ [0]) true [] given).mark.column = 0 from rfl]
    rw [hclose]
    rfl
  have hread := reads_last (hfetch.trans (fetchEnd_keyless line _ given)) rfl rfl rfl
  simpa using hread

/-- **The tokens of a printed record.** -/
theorem tokens_print {name : String} {v : Value} {fields : List (String × Value)}
    (h : Value.AreNamed ((name, v) :: fields)) :
    ∃ ts, Token.ofText (print ((name, v) :: fields)) = ⟨ts, none⟩ ∧
      ts.map (·.kind) =
        .blockMapStart :: (Value.fieldKinds ((name, v) :: fields) ++ [.blockEnd, .textEnd]) := by
  have hread := reads_block h (readsTail v h.2.1) (readsFields fields h.2.2)
    (show indentOf [] < ((0 : Nat) : Int) by decide) NextLine.none goesOn_end 0 0
  rw [List.append_nil] at hread
  exact hread ((print ((name, v) :: fields)).length + 1) (Nat.lt_succ_self _)

end Lexer

end Courier.Yaml
