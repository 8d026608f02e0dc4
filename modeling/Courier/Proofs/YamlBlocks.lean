import Courier.Proofs.YamlQuotes

/-!
# Literal blocks are read back

A literal block says by its header how far its lines are indented, where they do not show it
themselves, and what becomes of the line ends behind its last line; so the text that it holds can
begin with blanks and end with line ends.

* `readBlock_literal` — **a text with line feeds is read back** from its lines.
-/

namespace Courier.Yaml

open Result (ok_bind)

/-! ## What a block holds -/

namespace BlockText

/-- The whole text with the line ends at its tail. -/
def whole (t : BlockText) : List Char := t.seen.reverse ++ t.last ++ t.empty

/-- Between two lines a text is empty but for line ends, or it ends in a line and its end. -/
structure BetweenLines (t : BlockText) : Prop where
  isBreak_empty : ∀ c ∈ t.empty, isBreak c = true
  lines : (t.seen = [] ∧ t.last = []) ∨
    (∃ a, t.seen.head? = some a ∧ isBreak a = false) ∧ ∃ b, t.last = [b] ∧ isBreak b = true

/-- Within a line a text ends in a character of it. -/
structure InLine (t : BlockText) : Prop where
  last : t.last = []
  empty : t.empty = []
  lines : ∃ a, t.seen.head? = some a ∧ isBreak a = false

/-- What is left of a text without the line ends at its tail. -/
theorem BetweenLines.seen_eq {t : BlockText} (h : t.BetweenLines) :
    t.seen = t.whole.reverse.dropWhile isBreak := by
  have hends : ∀ c ∈ t.empty.reverse ++ t.last.reverse, isBreak c = true := by
    intro c hc
    rw [List.mem_append, List.mem_reverse, List.mem_reverse] at hc
    rcases hc with hc | hc
    · exact h.isBreak_empty c hc
    · obtain ⟨-, hlast⟩ | ⟨-, b, hlast, hb⟩ := h.lines
      · rw [hlast] at hc
        cases hc
      · rw [hlast, List.mem_singleton] at hc
        rwa [hc]
  rw [whole, List.reverse_append, List.reverse_append, List.reverse_reverse, ← List.append_assoc,
    List.dropWhile_append_of_pos hends]
  obtain ⟨hseen, -⟩ | ⟨⟨a, hseen, ha⟩, -⟩ := h.lines
  · rw [hseen]
    rfl
  · obtain ⟨as, hseen⟩ := List.head?_eq_some_iff.1 hseen
    rw [hseen, List.dropWhile_cons_of_neg (by simp [ha])]

end BlockText

/-! ## Headers -/

/-- How the sign that is written in a header for a text is read. -/
def chompingFor (cs : List Char) : Chomping := ((chompingHint cs).head?.bind chompingOf?).getD .clip

/-- How the number that is written in a header for a text is read. -/
def incrementFor (cs : List Char) : Option Nat := if indentHint cs = [] then none else some 2

theorem chompingHint_cases (cs : List Char) :
    chompingHint cs = ['-'] ∨ chompingHint cs = [] ∨ chompingHint cs = ['+'] := by
  unfold chompingHint
  split
  · exact Or.inl rfl
  · split
    · exact Or.inl rfl
    · split
      · exact Or.inr (Or.inr rfl)
      · split
        · exact Or.inr (Or.inr rfl)
        · exact Or.inr (Or.inl rfl)

theorem indentHint_cases (cs : List Char) : indentHint cs = [] ∨ indentHint cs = ['2'] := by
  unfold indentHint
  split
  · exact Or.inr rfl
  · exact Or.inl rfl

/-- The header that is written for a text is read back. -/
theorem readHeader_hints (cs body : List Char) (m : Mark) :
    readHeader ⟨'|' :: (indentHint cs ++ chompingHint cs ++ '\n' :: body), m⟩ =
      .ok (⟨chompingFor cs, incrementFor cs⟩, ⟨body, m.down⟩) := by
  obtain hindent | hindent := indentHint_cases cs <;>
    obtain hchomping | hchomping | hchomping := chompingHint_cases cs <;>
    · rw [chompingFor, incrementFor, hindent, hchomping]
      rfl

/-- A text that ends in one line end is kept whole by a header that keeps one. -/
theorem finish_clip {t : BlockText} (h : t.BetweenLines) {c d : Char} {more : List Char}
    (hc : isBreak c = true) (hd : ¬isBreak d = true) (hwhole : t.whole.reverse = c :: d :: more) :
    t.finish .clip = t.whole := by
  have hseen : t.seen = d :: more := by
    rw [h.seen_eq, hwhole, List.dropWhile_cons_of_pos hc, List.dropWhile_cons_of_neg hd]
  have hends : t.last ++ t.empty = [c] := by
    have hlines : t.seen.reverse ++ (t.last ++ t.empty) = t.seen.reverse ++ [c] :=
      calc t.seen.reverse ++ (t.last ++ t.empty)
        _ = t.whole := (List.append_assoc _ _ _).symm
        _ = (c :: d :: more).reverse := by rw [← hwhole, List.reverse_reverse]
        _ = t.seen.reverse ++ [c] := by rw [hseen, List.reverse_cons]
    exact List.append_cancel_left hlines
  obtain ⟨hempty, -⟩ | ⟨-, b, hb, -⟩ := h.lines
  · rw [hempty] at hseen
    cases hseen
  · rw [hb, List.singleton_append, List.cons.injEq] at hends
    show t.seen.reverse ++ t.last = t.seen.reverse ++ t.last ++ t.empty
    rw [hends.2, List.append_nil]

/-- What a header keeps of the lines of its text. -/
theorem finish_chompingFor {t : BlockText} (h : t.BetweenLines) {cs : List Char} (hcs : cs ≠ [])
    (hwhole : t.whole = cs ++ if cs.getLast?.any isBreak then [] else ['\n']) :
    t.finish (chompingFor cs) = cs := by
  obtain ⟨c, more, hreverse⟩ := List.exists_cons_of_ne_nil (mt List.reverse_eq_nil_iff.1 hcs)
  have hlast : cs.getLast?.any isBreak = isBreak c := by
    rw [List.getLast?_eq_head?_reverse, hreverse, List.head?_cons, Option.any_some]
  rw [hlast] at hwhole
  by_cases hc : isBreak c = true
  · rw [if_pos hc, List.append_nil] at hwhole
    subst hwhole
    cases more with
    | nil =>
      have hchomping : chompingFor t.whole = .keep := by
        simp [chompingFor, chompingHint, hreverse, hc, chompingOf?]
      rw [hchomping]
      rfl
    | cons d more =>
      by_cases hd : isBreak d = true
      · have hchomping : chompingFor t.whole = .keep := by
          simp [chompingFor, chompingHint, hreverse, hc, hd, chompingOf?]
        rw [hchomping]
        rfl
      · have hchomping : chompingFor t.whole = .clip := by
          simp [chompingFor, chompingHint, hreverse, hc, hd]
        rw [hchomping]
        exact finish_clip h hc hd hreverse
  · have hchomping : chompingFor cs = .strip := by
      simp [chompingFor, chompingHint, hreverse, hc, chompingOf?]
    rw [if_neg hc] at hwhole
    have hseen : t.seen = cs.reverse := by
      rw [h.seen_eq, hwhole, List.reverse_append, List.reverse_singleton, List.singleton_append,
        List.dropWhile_cons_of_pos (by decide), hreverse, List.dropWhile_cons_of_neg hc]
    rw [hchomping]
    show t.seen.reverse = cs
    rw [hseen, List.reverse_reverse]

/-! ## Lines -/

/-- The end of the last line of a text, of which the rest is given and whether a line ended before
it. -/
def lineEnd : Bool → List Char → List Char
  | broke, [] => if broke then [] else ['\n']
  | _, c :: cs => lineEnd (isBreak c) cs

theorem lineEnd_eq (broke : Bool) {cs : List Char} (hcs : cs ≠ []) :
    lineEnd broke cs = if cs.getLast?.any isBreak then [] else ['\n'] := by
  induction cs generalizing broke with
  | nil => exact absurd rfl hcs
  | cons c cs ih =>
    cases cs with
    | nil => rfl
    | cons d cs =>
      rw [lineEnd, ih _ (List.cons_ne_nil d cs), List.getLast?_cons_cons]

/-- The blanks of an indentation are passed. -/
theorem blockFrom_blanks {indent : Nat} (begun : Mark) (k : Nat) (cs : List Char) (m : Mark)
    (hm : m.column + k ≤ indent) (t : BlockText) :
    blockFrom true indent begun (blanks k ++ cs) m false t =
      blockFrom true indent begun cs (m.right k) false t := by
  induction k generalizing m with
  | zero => rfl
  | succ k ih =>
    have hcolumn : m.column < indent := by omega
    show blockFrom true indent begun (' ' :: (blanks k ++ cs)) m false t = _
    have hright : (m.right 1).column + k ≤ indent := by
      show m.column + 1 + k ≤ indent
      omega
    rw [blockFrom, if_pos ⟨hcolumn, rfl⟩, ih (m.right 1) hright, Mark.right_right, Nat.add_comm 1 k]

/-- A block ends before a line that is indented less. -/
theorem blockFrom_nextLine {indent parent : Nat} (hparent : parent < indent) {rest : List Char}
    (hrest : NextLine parent rest) (begun : Mark) (line : Nat) (t : BlockText) :
    blockFrom true indent begun rest ⟨line, 0⟩ false t = .ok (t, behindBlanks rest line) := by
  cases hrest with
  | none => rfl
  | @name k hk c hc cs =>
    have hword := isWordChar_of_isNameLetter hc
    have hspace : c ≠ ' ' := ne_of_isWordChar hword (by decide)
    have htab : c ≠ '\t' := ne_of_isWordChar hword (by decide)
    have hcolumn : ((⟨line, 0⟩ : Mark).right k).column ≠ indent := by
      show 0 + k ≠ indent
      omega
    rw [blockFrom_blanks begun k _ _ (by simp only; omega), behindBlanks_name k hc, blockFrom,
      if_neg (by simp [hspace]), if_neg (by simp [htab]),
      if_neg (by simp [isBreak_of_isWordChar hword]), if_neg hcolumn]
    simp [Mark.right]

/-- Where a reader of a literal block stands: between two lines, or within a line. -/
def BlockText.Stands (broke : Bool) (m : Mark) (t : BlockText) : Prop :=
  if broke = true then m.column = 0 ∧ t.BetweenLines else t.InLine

/-- A character of a text is read for itself, the indentation before it apart. -/
theorem blockFrom_char {indent : Nat} (begun : Mark) (c : Char) (cs : List Char) {broke : Bool}
    {m : Mark} {t : BlockText} (ht : t.Stands broke m) :
    ∃ m' t', BlockText.Stands (isBreak c) m' t' ∧ t'.whole = t.whole ++ [c] ∧ ∀ rest,
      blockFrom true indent begun (literalBody indent broke (c :: cs) ++ rest) m (!broke) t =
        blockFrom true indent begun (literalBody indent (isBreak c) cs ++ rest) m' (!isBreak c)
          t' := by
  cases hc : isBreak c with
  | true =>
    have hspace : c ≠ ' ' := by
      rintro rfl
      cases hc
    have htab : c ≠ '\t' := by
      rintro rfl
      cases hc
    cases broke with
    | true =>
      obtain ⟨hm, ht⟩ := ht
      refine ⟨m.down, { t with empty := t.empty ++ [c] }, ⟨rfl, ?_, ht.lines⟩,
        by simp [BlockText.whole], fun rest => ?_⟩
      · rw [List.forall_mem_append, List.forall_mem_singleton]
        exact ⟨ht.isBreak_empty, hc⟩
      · rw [literalBody, if_pos hc, List.cons_append, Bool.not_true, blockFrom,
          if_neg (by simp [hspace]), if_neg (by simp [htab]), if_pos hc]
    | false =>
      have ht : t.InLine := ht
      refine ⟨m.down, { t with last := [c] }, ⟨rfl, by simp [ht.empty], ?_⟩,
        by simp [BlockText.whole, ht.last, ht.empty], fun rest => ?_⟩
      · exact Or.inr ⟨ht.lines, c, rfl, hc⟩
      · rw [literalBody, if_pos hc, List.cons_append, Bool.not_false, blockFrom, if_pos hc,
          Bool.not_true]
  | false =>
    cases broke with
    | true =>
      obtain ⟨hm, ht⟩ := ht
      have hcolumn : (m.right indent).column = indent := by
        show m.column + indent = indent
        omega
      refine ⟨(m.right indent).right 1, t.startLine true c, ⟨rfl, rfl, c, rfl, hc⟩,
        by simp [BlockText.whole, BlockText.startLine], fun rest => ?_⟩
      rw [literalBody, if_neg (by simp [hc]), if_pos rfl, List.append_assoc, List.cons_append,
        Bool.not_true, blockFrom_blanks begun indent _ m (by omega), blockFrom,
        if_neg (by simp [hcolumn]), if_neg (by simp [hcolumn]), if_neg (by simp [hc]),
        if_pos hcolumn, Bool.not_false]
    | false =>
      have ht : t.InLine := ht
      refine ⟨m.right 1, { t with seen := c :: t.seen }, ⟨ht.last, ht.empty, c, rfl, hc⟩,
        by simp [BlockText.whole, ht.last, ht.empty], fun rest => ?_⟩
      rw [literalBody, if_neg (by simp [hc]), if_neg Bool.false_ne_true, List.nil_append,
        List.cons_append, Bool.not_false, blockFrom, if_neg (by simp [hc])]

/-- The lines of a text are read from any place in them, up to a line that is indented less. -/
theorem blockFrom_lines {indent parent : Nat} (hparent : parent < indent) {rest : List Char}
    (hrest : NextLine parent rest) (begun : Mark) (cs : List Char) {broke : Bool} {m : Mark}
    {t : BlockText} (ht : t.Stands broke m) :
    ∃ t' line, blockFrom true indent begun
        (literalBody indent broke cs ++ (lineEnd broke cs ++ rest)) m (!broke) t =
          .ok (t', behindBlanks rest line) ∧
      t'.BetweenLines ∧ t'.whole = t.whole ++ cs ++ lineEnd broke cs := by
  induction cs generalizing broke m t with
  | nil =>
    cases broke with
    | true =>
      obtain ⟨hm, ht⟩ := ht
      have hm : m = ⟨m.line, 0⟩ := by rw [← hm]
      refine ⟨t, m.line, ?_, ht, by simp [lineEnd]⟩
      rw [hm]
      exact blockFrom_nextLine hparent hrest begun m.line t
    | false =>
      have ht : t.InLine := ht
      refine ⟨{ t with last := ['\n'] }, m.line + 1, ?_, ⟨by simp [ht.empty], ?_⟩, ?_⟩
      · show blockFrom true indent begun ('\n' :: rest) m true t = _
        rw [blockFrom, if_pos (by decide)]
        exact blockFrom_nextLine hparent hrest begun (m.line + 1) _
      · exact Or.inr ⟨ht.lines, '\n', rfl, by decide⟩
      · simp [BlockText.whole, ht.last, ht.empty, lineEnd]
  | cons c cs ih =>
    obtain ⟨m₁, t₁, ht₁, hwhole₁, hchar⟩ := blockFrom_char begun c cs ht
    obtain ⟨t', line, hread, ht', hwhole⟩ := ih ht₁
    refine ⟨t', line, ?_, ht', ?_⟩
    · rw [hchar, lineEnd, hread]
    · rw [hwhole, hwhole₁, lineEnd, List.append_assoc t.whole, List.singleton_append]

/-! ## Blocks -/

/-- No empty line stands before a line that begins with a character other than a blank. -/
theorem leadingLines_blanks (begun : Mark) {c : Char} (hspace : c ≠ ' ') (htab : c ≠ '\t')
    (hbreak : isBreak c = false) (k : Nat) (cs : List Char) (m : Mark) :
    leadingLines begun (blanks k ++ c :: cs) m [] 0 =
      .ok ([], m.column + k, ⟨c :: cs, m.right k⟩) := by
  induction k generalizing m with
  | zero =>
    show leadingLines begun (c :: cs) m [] 0 = _
    rw [leadingLines, if_neg hspace, if_neg htab, if_neg (by simp [hbreak]), Nat.zero_max]
    rfl
  | succ k ih =>
    show leadingLines begun (' ' :: (blanks k ++ c :: cs)) m [] 0 = _
    rw [leadingLines, if_pos rfl, ih, Mark.right_right, Nat.add_comm k 1, ← Nat.add_assoc]
    rfl

/-- Where a header has no number the first line shows its indentation. -/
theorem head_of_indentHint {c : Char} {cs : List Char} (h : indentHint (c :: cs) = [])
    (hclean : isClean (c :: cs) = true) : c ≠ ' ' ∧ c ≠ '\t' ∧ isBreak c = false := by
  rw [isClean, Bool.and_eq_true, List.all_eq_true] at hclean
  have hprintable := hclean.1 c List.mem_cons_self
  rw [indentHint, List.head?_cons, Option.any_some, ite_eq_right_iff] at h
  have hedge : ¬(isSpace c || isBreak c) = true := fun hedge => List.cons_ne_nil _ _ (h hedge)
  rw [Bool.or_eq_true, not_or] at hedge
  refine ⟨?_, ?_, by simpa using hedge.2⟩
  · rintro rfl
    exact hedge.1 rfl
  · rintro rfl
    cases hprintable

/-- **A text with line feeds is read back** from its lines. -/
theorem readBlock_literal {cs : List Char} (hcs : cs ≠ []) (hclean : isClean cs = true)
    {parent : Nat} {rest : List Char} (hrest : NextLine parent rest) (m : Mark) :
    ∃ line, readBlock true parent
        ⟨'|' :: (indentHint cs ++ chompingHint cs
          ++ '\n' :: (literalBody (parent + 2) true cs
            ++ ((if cs.getLast?.any isBreak then [] else ['\n']) ++ rest))), m⟩ =
      .ok (cs, behindBlanks rest line) := by
  have hstart : BlockText.Stands true m.down ⟨[], [], [], false⟩ :=
    ⟨rfl, by simp, Or.inl ⟨rfl, rfl⟩⟩
  obtain ⟨t, line, hread, ht, hwhole⟩ :=
    blockFrom_lines (Nat.lt_add_of_pos_right Nat.two_pos) hrest m cs hstart
  rw [lineEnd_eq true hcs] at hread hwhole
  have hfinish := finish_chompingFor ht hcs hwhole
  rw [Bool.not_true] at hread
  refine ⟨line, ?_⟩
  rw [readBlock, readHeader_hints, ok_bind]
  obtain hhint | hhint := indentHint_cases cs
  · obtain ⟨c, more, rfl⟩ := List.exists_cons_of_ne_nil hcs
    have hincrement : incrementFor (c :: more) = none := by rw [incrementFor, if_pos hhint]
    obtain ⟨hspace, htab, hbreak⟩ := head_of_indentHint hhint hclean
    have hbody : literalBody (parent + 2) true (c :: more) =
        blanks (parent + 2) ++ c :: literalBody (parent + 2) false more := by
      rw [literalBody, if_neg (by simp [hbreak]), if_pos rfl]
    have hindent : max (max (0 + (parent + 2)) ((parent : Int) + 1).toNat) 1 = parent + 2 := by
      omega
    rw [hbody, List.append_assoc, List.cons_append] at hread ⊢
    rw [blockFrom_blanks m (parent + 2) _ m.down (Nat.le_of_eq (Nat.zero_add _))] at hread
    simp only [hincrement]
    rw [leadingLines_blanks m hspace htab hbreak, ok_bind]
    simp only [show m.down.column = 0 from rfl, hindent]
    rw [hread, ok_bind, hfinish]
  · have hincrement : incrementFor cs = some 2 := by rw [incrementFor, if_neg (by simp [hhint])]
    have hindent : (max (parent : Int) 0).toNat + 2 = parent + 2 := by omega
    simp only [hincrement, hindent]
    rw [hread, ok_bind, hfinish]

end Courier.Yaml
