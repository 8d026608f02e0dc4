import Courier.Yaml.Lexer
import Courier.Yaml.Printer
import Courier.Proofs.Numerals
import Courier.Proofs.Result

/-!
# Plain scalars are read back

A printed value is followed by the line of another field, or by nothing.  A text is written plain
only where none of its characters would be taken for structure; then the reader of plain scalars
passes it up to the end of its line and stops at the next line, which is indented less.

* `NextLine` — what may follow the last line of a value.
* `read_plain` — **a plain text is read back**.
* `plainFrom_name` — the name of a field is read up to the colon behind it.
-/

namespace Courier.Yaml

/-! ## Characters -/

theorem isGap_of_isPrintable {c : Char} (h : isPrintable c = true) : isGap c = isSpace c := by
  have htab : c ≠ '\t' := by
    rintro rfl
    cases h
  simp [isGap, isSpace, htab]

@[simp] theorem Mark.right_right (m : Mark) (a b : Nat) :
    (m.right a).right b = m.right (a + b) := by
  simp [Mark.right, Nat.add_assoc]

/-- A letter of a field's name. -/
def isNameLetter (c : Char) : Bool := ('a' ≤ c && c ≤ 'z') || c == '_'

/-- A digit or a letter of a name. -/
def isWordChar (c : Char) : Bool := Text.isDigit c || isNameLetter c

theorem isWordChar_of_isNameLetter {c : Char} (h : isNameLetter c = true) :
    isWordChar c = true := by
  rw [isWordChar, h, Bool.or_true]

theorem isWordChar_of_mem_digits {n : Nat} {c : Char} (h : c ∈ Text.digits n) :
    isWordChar c = true := by
  rw [isWordChar, Text.isDigit_of_mem_digits h, Bool.true_or]

theorem ne_of_isWordChar {c d : Char} (hc : isWordChar c = true) (hd : isWordChar d = false) :
    c ≠ d := by
  rintro rfl
  rw [hc] at hd
  cases hd

theorem isSpace_of_isWordChar {c : Char} (hc : isWordChar c = true) : isSpace c = false := by
  simp [isSpace, ne_of_isWordChar hc (show isWordChar ' ' = false by decide)]

theorem isBreak_of_isWordChar {c : Char} (hc : isWordChar c = true) : isBreak c = false := by
  simp [isBreak, ne_of_isWordChar hc (show isWordChar '\n' = false by decide),
    ne_of_isWordChar hc (show isWordChar '\u2028' = false by decide),
    ne_of_isWordChar hc (show isWordChar '\u2029' = false by decide)]

theorem isGap_of_isWordChar {c : Char} (hc : isWordChar c = true) : isGap c = false := by
  simp [isGap, ne_of_isWordChar hc (show isWordChar ' ' = false by decide),
    ne_of_isWordChar hc (show isWordChar '\t' = false by decide)]

theorem isPrintable_of_isWordChar {c : Char} (hc : isWordChar c = true) : isPrintable c = true := by
  have hrange : 0x20 ≤ c.toNat ∧ c.toNat ≤ 0x7E := by
    rw [isWordChar, Bool.or_eq_true, isNameLetter, Bool.or_eq_true, Bool.and_eq_true,
      decide_eq_true_eq, decide_eq_true_eq, beq_iff_eq, Char.le_def, Char.le_def,
      UInt32.le_iff_toNat_le, UInt32.le_iff_toNat_le] at hc
    rcases hc with hdigit | ⟨hlow, hhigh⟩ | rfl
    · obtain ⟨hlow, hhigh⟩ := Text.isDigit_iff.1 hdigit
      omega
    · have hlow : 97 ≤ c.toNat := hlow
      have hhigh : c.toNat ≤ 122 := hhigh
      omega
    · decide
  simp [isPrintable, hrange]

/-- No sign that begins something else than a plain scalar is a letter or digit. -/
theorem isIndicator_of_isWordChar {c : Char} (hc : isWordChar c = true) :
    isIndicator c = false := by
  have hsigns : [',', '[', ']', '\x7b', '\x7d', '#', '&', '*', '!', '|', '>', '\'', '"',
      '%', '@', '\x60'].any isWordChar = false := by decide
  rw [Bool.eq_false_iff]
  intro hi
  refine List.any_eq_false.1 hsigns c ?_ hc
  simpa [isIndicator, isFlowIndicator, or_assoc] using hi

/-! ## Styles -/

/-- What is known of a text by its style. -/
theorem styleOf_cases (cs : List Char) :
    (styleOf cs = .literal ∧ '\n' ∈ cs ∧ isClean cs = true) ∨
      (styleOf cs = .plain ∧ (Scalar.ofPlain cs).isText = true ∧ allowsPlain cs = true) ∨
      (styleOf cs = .single ∧ '\n' ∉ cs ∧ allowsSingle cs = true) ∨ styleOf cs = .double := by
  unfold styleOf
  by_cases hfeed : '\n' ∈ cs
  · rw [if_pos hfeed]
    split
    · rename_i hliteral
      rw [allowsLiteral, Bool.and_eq_true] at hliteral
      exact Or.inl ⟨rfl, hfeed, hliteral.1⟩
    · exact Or.inr (Or.inr (Or.inr rfl))
  · rw [if_neg hfeed]
    split
    · rename_i hplain
      exact Or.inr (Or.inl ⟨rfl, hplain.1, hplain.2.2⟩)
    · split
      · rename_i hsingle
        exact Or.inr (Or.inr (Or.inl ⟨rfl, hfeed, hsingle⟩))
      · exact Or.inr (Or.inr (Or.inr rfl))

/-! ## What follows a value -/

/-- What follows the last line of a value in a block: nothing, or the line of a name that is
indented no further than the block. -/
inductive NextLine (indent : Nat) : List Char → Prop where
  | none : NextLine indent []
  | name {k : Nat} (hk : k ≤ indent) {c : Char} (hc : isNameLetter c = true) (cs : List Char) :
    NextLine indent (blanks k ++ c :: cs)

theorem NextLine.mono {indent indent' : Nat} (h : indent ≤ indent') {rest : List Char}
    (hrest : NextLine indent rest) : NextLine indent' rest := by
  cases hrest with
  | none => exact .none
  | name hk hc cs => exact .name (Nat.le_trans hk h) hc cs

/-- A line from its first character that is no blank. -/
def behindBlanks (rest : List Char) (line : Nat) : Source :=
  ⟨rest.dropWhile isSpace, ⟨line, (rest.takeWhile isSpace).length⟩⟩

theorem behindBlanks_name (k : Nat) {c : Char} (hc : isNameLetter c = true) (cs : List Char)
    (line : Nat) : behindBlanks (blanks k ++ c :: cs) line = ⟨c :: cs, ⟨line, k⟩⟩ := by
  have hspace := isSpace_of_isWordChar (isWordChar_of_isNameLetter hc)
  have hall : ∀ d ∈ blanks k, isSpace d = true := by
    intro d hd
    rw [List.eq_of_mem_replicate hd]
    rfl
  rw [behindBlanks, List.dropWhile_append_of_pos hall, List.takeWhile_append_of_pos hall,
    List.dropWhile_cons_of_neg (by simp [hspace]), List.takeWhile_cons_of_neg (by simp [hspace])]
  simp [blanks]

/-! ## Plain scalars -/

/-- Blanks behind a line end leave no trace. -/
theorem plainFrom_blanks (indent : Nat) (begun : Mark) (first more : List Char) (k : Nat)
    (cs : List Char) (m : Mark) (seen : List Char) :
    plainFrom false indent begun (blanks k ++ cs) m (.lines first more) seen =
      plainFrom false indent begun cs (m.right k) (.lines first more) seen := by
  induction k generalizing m with
  | zero => rfl
  | succ k ih =>
    show plainFrom false indent begun (' ' :: (blanks k ++ cs)) m _ seen = _
    rw [plainFrom, if_neg (by decide), if_pos (by decide), if_neg (by simp)]
    show plainFrom false indent begun (blanks k ++ cs) (m.right 1) (.lines first more) seen = _
    rw [ih, Mark.right_right, Nat.add_comm 1 k]

/-- Behind the line of a plain scalar its reader stops at the next line. -/
theorem plainFrom_nextLine {indent : Nat} {rest : List Char} (hrest : NextLine indent rest)
    (begun m : Mark) (seen : List Char) :
    plainFrom false (indent + 1) begun ('\n' :: rest) m .none seen =
      .ok ⟨seen.reverse, true, behindBlanks rest (m.line + 1)⟩ := by
  rw [plainFrom, if_pos (by decide)]
  cases hrest with
  | none => rfl
  | @name k hk c hc cs =>
    have hcolumn : (m.down.right k).column < indent + 1 := by
      show 0 + k < indent + 1
      omega
    show plainFrom false (indent + 1) begun (blanks k ++ c :: cs) m.down (.lines ['\n'] []) seen = _
    have hword := isWordChar_of_isNameLetter hc
    rw [plainFrom_blanks, behindBlanks_name k hc, plainFrom,
      if_neg (by simp [isBreak_of_isWordChar hword]), if_neg (by simp [isGap_of_isWordChar hword]),
      if_pos ⟨nofun, by simp [blocksPlain, hcolumn]⟩]
    simp [Gap.hasBreak, Mark.right, Mark.down]

/-- Whether a colon that ends a word or a sharp sign that begins a comment stands behind a
character. -/
def marksBehind (a : Char) : List Char → Bool
  | ':' :: more => atWordEnd more
  | '#' :: _ => isGap a || isBreak a
  | _ => false

theorem hasInnerIndicator_cons (a : Char) (cs : List Char) :
    hasInnerIndicator (a :: cs) = (marksBehind a cs || hasInnerIndicator cs) := by
  rw [hasInnerIndicator.eq_def]
  simp only
  congr 1

/-- The gap that the character before leaves: blanks behind a blank, and otherwise none. -/
def GapBehind (a : Char) (gap : Gap) : Prop :=
  if isSpace a then ∃ bs, gap = .blanks bs else gap = .none

/-- The text of a gap with one more blank. -/
theorem exists_addBlank {a : Char} {gap : Gap} (h : GapBehind a gap) (c : Char) :
    ∃ bs, gap.addBlank c = .blanks bs ∧ bs = gap.text ++ [c] := by
  unfold GapBehind at h
  split at h
  · obtain ⟨bs, rfl⟩ := h
    exact ⟨_, rfl, rfl⟩
  · subst h
    exact ⟨_, rfl, rfl⟩

/-- What is left of a plain scalar behind a character of it: no line end, nothing that reads as
structure, and no blank at its end. -/
structure PlainBehind (a : Char) (cs : List Char) : Prop where
  printable : ∀ c ∈ cs, isPrintable c = true
  unbroken : ∀ c ∈ cs, isBreak c = false
  unmarked : hasInnerIndicator (a :: cs) = false
  unpadded : isSpace ((a :: cs).getLast (List.cons_ne_nil a cs)) = false

theorem PlainBehind.tail {a c : Char} {cs : List Char} (h : PlainBehind a (c :: cs)) :
    PlainBehind c cs where
  printable := (List.forall_mem_cons.1 h.printable).2
  unbroken := (List.forall_mem_cons.1 h.unbroken).2
  unmarked := by
    have hmark := h.unmarked
    rw [hasInnerIndicator_cons, Bool.or_eq_false_iff] at hmark
    exact hmark.2
  unpadded := h.unpadded

/-- A word ends at the end of a line. -/
theorem atWordEnd_append_newline (cs rest : List Char) :
    atWordEnd (cs ++ '\n' :: rest) = atWordEnd cs := by
  cases cs <;> rfl

/-- The next character neither begins a comment behind a blank nor ends the scalar. -/
theorem PlainBehind.goesOn {a c : Char} {cs : List Char} (h : PlainBehind a (c :: cs))
    (rest : List Char) :
    (isSpace a = true → c ≠ '#') ∧ endsPlain false c (cs ++ '\n' :: rest) = false := by
  have hmark := h.unmarked
  rw [hasInnerIndicator_cons, Bool.or_eq_false_iff] at hmark
  constructor
  · rintro ha rfl
    have hgap : isGap a = true := by simpa [isGap, isSpace] using Or.inl ha
    simp [marksBehind, hgap] at hmark
  · rw [endsPlain, atWordEnd_append_newline]
    by_cases hcolon : c = ':'
    · subst hcolon
      simpa [marksBehind] using hmark.1
    · simp [hcolon]

/-- A plain scalar is read to the end of its line, from behind any character of it. -/
theorem plainFrom_behind {indent : Nat} {rest : List Char} (hrest : NextLine indent rest)
    (begun : Mark) {a : Char} {cs : List Char} (h : PlainBehind a cs) (gap : Gap)
    (hgap : GapBehind a gap) (m : Mark) (hm : indent < m.column) (seen : List Char) :
    ∃ line, plainFrom false (indent + 1) begun (cs ++ '\n' :: rest) m gap seen =
      .ok ⟨seen.reverse ++ gap.text ++ cs, true, behindBlanks rest line⟩ := by
  induction cs generalizing a gap m seen with
  | nil =>
    have hlast : isSpace a = false := h.unpadded
    simp only [GapBehind, hlast, Bool.false_eq_true, if_false] at hgap
    subst hgap
    refine ⟨m.line + 1, ?_⟩
    rw [List.nil_append, plainFrom_nextLine hrest]
    simp [Gap.text]
  | cons c cs ih =>
    have hbreak : isBreak c = false := h.unbroken c List.mem_cons_self
    have hprintable : isPrintable c = true := h.printable c List.mem_cons_self
    rw [List.cons_append, plainFrom, if_neg (by simp [hbreak])]
    by_cases hspace : isSpace c = true
    · have hc : isGap c = true := (isGap_of_isPrintable hprintable).trans hspace
      obtain ⟨bs, hbs, htext⟩ := exists_addBlank hgap c
      have hnotab : ¬(gap.hasBreak = true ∧ m.column < indent + 1 ∧ c = '\t') := by omega
      obtain ⟨line, hline⟩ := ih h.tail (.blanks bs) (by simp [GapBehind, hspace]) (m.right 1)
        (Nat.lt_add_right 1 hm) seen
      refine ⟨line, ?_⟩
      rw [if_pos hc, if_neg hnotab, hbs, hline, Gap.text, htext]
      simp
    · have hc : isGap c = false := by
        rw [isGap_of_isPrintable hprintable]
        simpa using hspace
      obtain ⟨hgoes, hword⟩ := h.goesOn rest
      have hstays : ¬(gap ≠ .none ∧
          blocksPlain false (indent + 1) m (c :: (cs ++ '\n' :: rest)) = true) := by
        rintro ⟨hne, hblocks⟩
        have hcolumn : ¬m.column < indent + 1 := by omega
        have hzero : m.column ≠ 0 := by omega
        have ha : isSpace a = true := by
          by_contra ha
          exact hne (by simpa [GapBehind, ha] using hgap)
        have hsharp : c ≠ '#' := hgoes ha
        simp [blocksPlain, hcolumn, hzero, hsharp] at hblocks
      obtain ⟨line, hline⟩ := ih h.tail .none (by simp [GapBehind, hspace]) (m.right 1)
        (Nat.lt_add_right 1 hm) (c :: (gap.text.reverse ++ seen))
      refine ⟨line, ?_⟩
      rw [if_neg (by simp [hc]), if_neg hstays, if_neg (by simp [strayColon]),
        if_neg (by simp [hword]), hline]
      simp [Gap.text]

/-- A text that may be written plain, by its first character. -/
structure PlainText (c : Char) (cs : List Char) : Prop where
  behind : PlainBehind c cs
  printable : isPrintable c = true
  unbroken : isBreak c = false
  unpadded : isSpace c = false
  indicator : isIndicator c = false
  word : c = '?' ∨ c = ':' ∨ c = '-' → atWordEnd cs = false

theorem plainText_of_allowsPlain {c : Char} {cs : List Char} (h : allowsPlain (c :: cs) = true) :
    PlainText c cs := by
  simp only [allowsPlain, isClean, isPadded, readsAsStructure, Bool.and_eq_true,
    Bool.or_eq_false_iff, Bool.not_eq_true', List.all_eq_true, List.any_eq_false,
    List.forall_mem_cons] at h
  obtain ⟨⟨⟨⟨⟨hc, hcs⟩, -⟩, hbreak, hbreaks⟩, hhead, hlast⟩, hstructure⟩ := h
  obtain ⟨⟨⟨⟨hindicator, hword⟩, -⟩, -⟩, hmarks⟩ := hstructure
  rw [List.head?_cons, Option.any_some, Bool.or_eq_false_iff] at hhead
  rw [List.getLast?_eq_some_getLast (List.cons_ne_nil c cs), Option.any_some,
    Bool.or_eq_false_iff] at hlast
  refine ⟨⟨hcs, ?_, hmarks, hlast.1⟩, hc, hhead.2, hhead.1, hindicator, ?_⟩
  · simpa using hbreaks
  · intro hsign
    simpa [hsign, or_assoc] using hword

/-- **A plain text is read back** up to the line behind it. -/
theorem read_plain {c : Char} {cs : List Char} (h : PlainText c cs) {indent : Nat}
    {rest : List Char} (hrest : NextLine indent rest) (m : Mark) (hm : indent < m.column) :
    ∃ line, PlainScalar.read false (indent + 1) ⟨c :: cs ++ '\n' :: rest, m⟩ =
      .ok ⟨c :: cs, true, behindBlanks rest line⟩ := by
  have hgap : isGap c = false := by
    rw [isGap_of_isPrintable h.printable, h.unpadded]
  have hword : endsPlain false c (cs ++ '\n' :: rest) = false := by
    rw [endsPlain, atWordEnd_append_newline]
    by_cases hcolon : c = ':'
    · simp [hcolon, h.word (Or.inr (Or.inl hcolon))]
    · simp [hcolon]
  obtain ⟨line, hline⟩ := plainFrom_behind hrest m h.behind .none
    (by simp [GapBehind, h.unpadded]) (m.right 1) (Nat.lt_add_right 1 hm) [c]
  refine ⟨line, ?_⟩
  show plainFrom false (indent + 1) m (c :: (cs ++ '\n' :: rest)) m .none [] = _
  rw [plainFrom, if_neg (by simp [h.unbroken]), if_neg (by simp [hgap]), if_neg (by simp),
    if_neg (by simp [strayColon]), if_neg (by simp [hword])]
  exact hline

theorem hasInnerIndicator_of_word {cs : List Char} (h : ∀ c ∈ cs, isWordChar c = true) :
    hasInnerIndicator cs = false := by
  induction cs with
  | nil => rfl
  | cons a cs ih =>
    obtain ⟨ha, hcs⟩ := List.forall_mem_cons.1 h
    rw [hasInnerIndicator_cons, ih hcs, Bool.or_false]
    cases cs with
    | nil => rfl
    | cons c cs =>
      have hc := hcs c List.mem_cons_self
      have hcolon : c ≠ ':' := ne_of_isWordChar hc (by decide)
      have hsharp : c ≠ '#' := ne_of_isWordChar hc (by decide)
      unfold marksBehind
      split
      · rename_i heq
        exact absurd (List.cons.inj heq).1 hcolon
      · rename_i heq
        exact absurd (List.cons.inj heq).1 hsharp
      · rfl

/-- A text of letters and digits may be written plain. -/
theorem plainText_of_word {c : Char} {cs : List Char} (h : ∀ d ∈ c :: cs, isWordChar d = true) :
    PlainText c cs := by
  obtain ⟨hc, hcs⟩ := List.forall_mem_cons.1 h
  have hbehind : PlainBehind c cs :=
    ⟨fun d hd => isPrintable_of_isWordChar (hcs d hd),
      fun d hd => isBreak_of_isWordChar (hcs d hd),
      hasInnerIndicator_of_word h, isSpace_of_isWordChar (h _ (List.getLast_mem _))⟩
  refine ⟨hbehind, isPrintable_of_isWordChar hc, isBreak_of_isWordChar hc,
    isSpace_of_isWordChar hc, isIndicator_of_isWordChar hc, ?_⟩
  rintro (rfl | rfl | rfl) <;> exact absurd hc (by decide)

/-- A name is read up to the colon behind it. -/
theorem plainFrom_name {cs : List Char} (hcs : ∀ c ∈ cs, isNameLetter c = true) {rest : List Char}
    (hrest : atWordEnd rest = true) (indent : Nat) (begun m : Mark) (seen : List Char) :
    plainFrom false indent begun (cs ++ ':' :: rest) m .none seen =
      .ok ⟨seen.reverse ++ cs, false, ⟨':' :: rest, m.right cs.length⟩⟩ := by
  induction cs generalizing m seen with
  | nil =>
    rw [List.nil_append, plainFrom, if_neg (by decide), if_neg (by decide), if_neg (by simp),
      if_neg (by simp [strayColon]), if_pos (by simp [endsPlain, hrest])]
    simp [Gap.hasBreak, Mark.right]
  | cons c cs ih =>
    obtain ⟨hc, hcs⟩ := List.forall_mem_cons.1 hcs
    have hword := isWordChar_of_isNameLetter hc
    have hcolon : c ≠ ':' := ne_of_isWordChar hword (by decide)
    rw [List.cons_append, plainFrom, if_neg (by simp [isBreak_of_isWordChar hword]),
      if_neg (by simp [isGap_of_isWordChar hword]), if_neg (by simp), if_neg (by simp [strayColon]),
      if_neg (by simp [endsPlain, hcolon]), ih hcs]
    simp [Gap.text, Nat.add_comm]

end Courier.Yaml
