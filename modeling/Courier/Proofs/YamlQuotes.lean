import Mathlib.Algebra.Group.Nat.Defs
import Courier.Proofs.Transcoding
import Courier.Proofs.YamlLines

/-!
# Quoted scalars are read back

Between double quotes any text is written, and between single quotes any text without line feeds
whose blanks do not touch its line ends.

* `readQuoted_double`, `readQuoted_single` — **a quoted text is read back** up to its closing quote.
-/

namespace Courier.Yaml

/-! ## Characters by number -/

/-- The value of hexadecimal digits behind a value. -/
def hexFrom : Nat → List Char → Option Nat
  | value, [] => some value
  | value, c :: cs => (hexValue? c).bind fun d => hexFrom (value * 16 + d) cs

theorem hexFrom_append (value : Nat) (cs ds : List Char) :
    hexFrom value (cs ++ ds) = (hexFrom value cs).bind fun v => hexFrom v ds := by
  induction cs generalizing value with
  | nil => rfl
  | cons c cs ih =>
    rw [List.cons_append, hexFrom, hexFrom]
    cases hexValue? c with
    | none => rfl
    | some d => exact ih _

theorem hexValue?_digitChar : ∀ d, d < 16 → hexValue? (Nat.digitChar d).toUpper = some d := by
  decide

theorem hexFrom_hexDigits (n : Nat) :
    hexFrom 0 ((Text.hexDigits n).map Char.toUpper) = some n := by
  induction n using Nat.strongRecOn with
  | ind n ih =>
    rw [Text.hexDigits, Nat.toDigits_eq_if (by decide)]
    by_cases hn : n < 16
    · rw [if_pos hn, List.map_singleton, hexFrom, hexValue?_digitChar n hn, Option.bind_some,
        hexFrom, Nat.zero_mul, Nat.zero_add]
    · rw [if_neg hn, List.map_append, hexFrom_append]
      have hhigh := ih (n / 16) (by omega)
      rw [Text.hexDigits] at hhigh
      rw [hhigh, Option.bind_some, List.map_singleton, hexFrom,
        hexValue?_digitChar (n % 16) (Nat.mod_lt _ (by decide)), Option.bind_some, hexFrom,
        Nat.div_add_mod']

/-- Zeros in front do not count. -/
theorem hexFrom_zeros (k : Nat) (cs : List Char) :
    hexFrom 0 (List.replicate k '0' ++ cs) = hexFrom 0 cs := by
  induction k with
  | zero => rfl
  | succ k ih => exact ih

theorem hexFrom_paddedHex (width n : Nat) : hexFrom 0 (paddedHex width n) = some n :=
  (hexFrom_zeros _ _).trans (hexFrom_hexDigits n)

theorem length_paddedHex {width n : Nat} (hwidth : 0 < width) (hn : n < 16 ^ width) :
    (paddedHex width n).length = width := by
  have hlength : (Text.hexDigits n).length ≤ width :=
    (Nat.length_toDigits_le_iff (by decide) hwidth).2 hn
  rw [paddedHex, List.length_append, List.length_replicate, List.length_map]
  omega

theorem isScalarValue_toNat (c : Char) : isScalarValue c.toNat = true := by
  rcases c.valid with hlow | ⟨hlow, hhigh⟩
  · have hlow : c.toNat < 0xD800 := hlow
    simp [isScalarValue, hlow]
  · have hlow : 0xDFFF < c.toNat := hlow
    have hhigh : c.toNat ≤ 0x10FFFF := Nat.lt_succ_iff.1 hhigh
    simp [isScalarValue, hlow, hhigh]

/-- A character that is given by number is read when its digits are. -/
theorem quotedFrom_digits (double : Bool) (begun at' : Mark) (gap : Gap) (rest seen : List Char)
    {c : Char} {ds : List Char} (hne : ds ≠ []) {value : Nat}
    (hds : hexFrom value ds = some c.toNat) (m : Mark) :
    quotedFrom double begun (ds ++ rest) m (.digits ds.length value at') gap seen =
      quotedFrom double begun rest (m.right ds.length) .body gap (c :: seen) := by
  induction ds generalizing value m with
  | nil => exact absurd rfl hne
  | cons d ds ih =>
    obtain ⟨v, hv, hds⟩ := Option.bind_eq_some_iff.1 hds
    rw [List.cons_append, quotedFrom, hv]
    simp only
    by_cases hlast : ds = []
    · subst hlast
      have hvalue : value * 16 + v = c.toNat := Option.some.inj hds
      rw [if_neg (by simp), hvalue, if_pos (isScalarValue_toNat c), Char.ofNat_toNat]
      rfl
    · have hlength : 0 < ds.length := List.length_pos_of_ne_nil hlast
      rw [if_pos (by simp [hlength]), List.length_cons, Nat.add_sub_cancel, ih hlast hds,
        Mark.right_right, Nat.add_comm 1]

/-! ## Double quotes -/

/-- How a character stands between double quotes: for itself, as an escape, or by number. -/
theorem doubleChar_cases (c : Char) :
    (doubleChar c = [c] ∧ isPrintable c = true ∧ isBreak c = false ∧ c ≠ '"' ∧ c ≠ '\\') ∨
      (∃ e, doubleChar c = ['\\', e] ∧ isBreak e = false ∧ escapeOf e = .char c) ∨
      (∃ e width, doubleChar c = '\\' :: e :: paddedHex width c.toNat ∧ isBreak e = false ∧
        escapeOf e = .digits width ∧ 0 < width ∧ c.toNat < 16 ^ width) := by
  unfold doubleChar
  split <;> try exact Or.inr (Or.inl ⟨_, rfl, rfl, rfl⟩)
  rename_i hnull hbell hback htab hfeed hvertical hform hreturn hescape hquote hslash hnext hline
    hparagraph
  split
  · rename_i hprintable
    have hbreak : isBreak c = false := by
      rw [isBreak, beq_false_of_ne hfeed, beq_false_of_ne hline, beq_false_of_ne hparagraph]
      rfl
    exact Or.inl ⟨rfl, hprintable, hbreak, hquote, hslash⟩
  · refine Or.inr (Or.inr ?_)
    split
    · exact ⟨_, _, rfl, rfl, rfl, by decide, by omega⟩
    · split
      · exact ⟨_, _, rfl, rfl, rfl, by decide, by omega⟩
      · have hrange := Text.Utf8.toNat_lt c
        exact ⟨_, _, rfl, rfl, rfl, by decide, by omega⟩

/-- One more blank behind a gap without line ends. -/
theorem addBlank_of_unbroken {gap : Gap} (h : gap.hasBreak = false) (c : Char) :
    (gap.addBlank c).text = gap.text ++ [c] ∧ (gap.addBlank c).hasBreak = false := by
  cases gap with
  | none => exact ⟨rfl, rfl⟩
  | blanks cs => exact ⟨rfl, rfl⟩
  | lines first more => cases h

/-- Behind a backslash, what it escapes is read. -/
theorem quotedFrom_backslash (begun m : Mark) (hm : m.column ≠ 0) (gap : Gap)
    (cs seen : List Char) :
    quotedFrom true begun ('\\' :: cs) m .body gap seen =
      quotedFrom true begun cs (m.right 1) .escape .none (gap.text.reverse ++ seen) := by
  rw [quotedFrom, if_neg (by decide), if_neg (by decide), if_neg (by simp [hm]), if_pos rfl,
    if_neg (by decide), if_pos rfl]

/-- What stands for a character between double quotes is read as that character. -/
theorem quotedFrom_doubleChar (begun : Mark) (c : Char) (rest : List Char) (m : Mark)
    (hm : m.column ≠ 0) (gap : Gap) (hgap : gap.hasBreak = false) (seen : List Char) :
    ∃ m' gap' seen', m'.column ≠ 0 ∧ gap'.hasBreak = false ∧
      seen'.reverse ++ gap'.text = seen.reverse ++ gap.text ++ [c] ∧
      quotedFrom true begun (doubleChar c ++ rest) m .body gap seen =
        quotedFrom true begun rest m' .body gap' seen' := by
  obtain ⟨hchar, hprintable, hbreak, hquote, hslash⟩ | ⟨e, hchar, hbreak, hescape⟩ |
    ⟨e, width, hchar, hbreak, hescape, hwidth, hrange⟩ := doubleChar_cases c
  · rw [hchar, List.singleton_append, quotedFrom, if_neg (by simp [hbreak])]
    by_cases hspace : isSpace c = true
    · rw [if_pos ((isGap_of_isPrintable hprintable).trans hspace)]
      obtain ⟨htext, hstays⟩ := addBlank_of_unbroken hgap c
      exact ⟨m.right 1, gap.addBlank c, seen, Nat.succ_ne_zero _, hstays, by simp [htext], rfl⟩
    · have hc : isGap c = false := by
        rw [isGap_of_isPrintable hprintable]
        simpa using hspace
      rw [if_neg (by simp [hc]), if_neg (by simp [hm]), if_pos rfl, if_neg hquote, if_neg hslash]
      exact ⟨m.right 1, .none, _, Nat.succ_ne_zero _, rfl, by simp [Gap.text], rfl⟩
  · rw [hchar, List.cons_append, List.singleton_append, quotedFrom_backslash begun m hm,
      quotedFrom, if_neg (by simp [hbreak]), hescape]
    exact ⟨(m.right 1).right 1, .none, _, Nat.succ_ne_zero _, rfl, by simp [Gap.text], rfl⟩
  · have hlength := length_paddedHex hwidth hrange
    have hdigits := quotedFrom_digits true begun ((m.right 1).right 1) .none rest
      (gap.text.reverse ++ seen) (List.ne_nil_of_length_pos (by omega))
      (hexFrom_paddedHex width c.toNat) ((m.right 1).right 1)
    rw [hlength] at hdigits
    rw [hchar, List.cons_append, List.cons_append, quotedFrom_backslash begun m hm, quotedFrom,
      if_neg (by simp [hbreak]), hescape]
    refine ⟨((m.right 1).right 1).right width, .none, _, ?_, rfl, by simp [Gap.text], hdigits⟩
    exact Nat.ne_of_gt (Nat.lt_of_lt_of_le hwidth (Nat.le_add_left _ _))

/-- Text between double quotes is read from any place in it. -/
theorem quotedFrom_double (begun : Mark) (cs rest : List Char) (m : Mark) (hm : m.column ≠ 0)
    (gap : Gap) (hgap : gap.hasBreak = false) (seen : List Char) :
    ∃ m', quotedFrom true begun (cs.flatMap doubleChar ++ '"' :: rest) m .body gap seen =
      .ok (seen.reverse ++ gap.text ++ cs, ⟨rest, m'⟩) := by
  induction cs generalizing m gap seen with
  | nil =>
    refine ⟨m.right 1, ?_⟩
    rw [List.flatMap_nil, List.nil_append, quotedFrom, if_neg (by decide), if_neg (by decide),
      if_neg (by simp [hm]), if_pos rfl, if_pos rfl]
    simp
  | cons c cs ih =>
    obtain ⟨m₁, gap₁, seen₁, hm₁, hgap₁, htext, hchar⟩ := quotedFrom_doubleChar begun c
      (cs.flatMap doubleChar ++ '"' :: rest) m hm gap hgap seen
    obtain ⟨m', hread⟩ := ih m₁ hm₁ gap₁ hgap₁ seen₁
    refine ⟨m', ?_⟩
    rw [List.flatMap_cons, List.append_assoc, hchar, hread, htext, List.append_assoc,
      List.singleton_append]

/-- **Text between double quotes is read back.** -/
theorem readQuoted_double (cs rest : List Char) (m : Mark) :
    ∃ m', readQuoted true ⟨'"' :: cs.flatMap doubleChar ++ '"' :: rest, m⟩ =
      .ok (cs, ⟨rest, m'⟩) := by
  obtain ⟨m', hread⟩ := quotedFrom_double m cs rest (m.right 1) (Nat.succ_ne_zero _) .none rfl []
  exact ⟨m', hread⟩

/-! ## Single quotes -/

/-- The gap behind a part of a text between single quotes: behind line ends none of which is a line
feed there is no blank, and behind blanks there is no line end. -/
inductive SingleGap : Bool → Gap → List Char → Prop where
  | none (cs : List Char) : SingleGap false .none cs
  | blanks (bs : List Char) {cs : List Char} (h : cs.head?.any isBreak = false) :
    SingleGap false (.blanks bs) cs
  | lines {first : List Char} (hfirst : first ≠ ['\n']) (more : List Char) {cs : List Char}
    (h : cs.head?.any isSpace = false) : SingleGap true (.lines first more) cs

/-- A text that may stand between single quotes, without line feeds. -/
structure SingleText (cs : List Char) : Prop where
  printable : ∀ c ∈ cs, isPrintable c = true
  feedless : '\n' ∉ cs
  untrailed : hasPair isSpace isBreak cs = false
  unled : hasPair isBreak isSpace cs = false

theorem hasPair_cons (p q : Char → Bool) (a : Char) (cs : List Char) :
    hasPair p q (a :: cs) = ((p a && cs.head?.any q) || hasPair p q cs) := by
  cases cs with
  | nil => simp [hasPair]
  | cons b cs => rfl

theorem SingleText.tail {c : Char} {cs : List Char} (h : SingleText (c :: cs)) :
    SingleText cs where
  printable := (List.forall_mem_cons.1 h.printable).2
  feedless := fun hmem => h.feedless (List.mem_cons_of_mem c hmem)
  untrailed := by
    have hpair := h.untrailed
    rw [hasPair_cons, Bool.or_eq_false_iff] at hpair
    exact hpair.2
  unled := by
    have hpair := h.unled
    rw [hasPair_cons, Bool.or_eq_false_iff] at hpair
    exact hpair.2

theorem singleText_of_allowsSingle {cs : List Char} (hfeed : '\n' ∉ cs)
    (h : allowsSingle cs = true) : SingleText cs := by
  simp only [allowsSingle, isClean, Bool.and_eq_true, Bool.not_eq_true', List.all_eq_true] at h
  exact ⟨h.1.1, hfeed, h.1.2, h.2⟩

/-- The blanks that indent a line leave no trace. -/
theorem quotedFrom_blanks (begun : Mark) (first more : List Char) (k : Nat) (cs : List Char)
    (m : Mark) (seen : List Char) :
    quotedFrom false begun (blanks k ++ cs) m .body (.lines first more) seen =
      quotedFrom false begun cs (m.right k) .body (.lines first more) seen := by
  induction k generalizing m with
  | zero => rfl
  | succ k ih =>
    show quotedFrom false begun (' ' :: (blanks k ++ cs)) m .body _ seen = _
    rw [quotedFrom, if_neg (by decide), if_pos (by decide)]
    show quotedFrom false begun (blanks k ++ cs) (m.right 1) .body (.lines first more) seen = _
    rw [ih, Mark.right_right, Nat.add_comm 1 k]

/-- The indentation of a line leaves no trace. -/
theorem quotedFrom_indent (begun : Mark) {indent : Nat} (hindent : 0 < indent) {broke : Bool}
    {gap : Gap} {cs : List Char} (hgap : SingleGap broke gap cs) (m : Mark)
    (hm : broke = false → m.column ≠ 0) (rest seen : List Char) :
    ∃ m', m'.column ≠ 0 ∧
      quotedFrom false begun ((if broke = true then blanks indent else []) ++ rest) m .body gap seen
        = quotedFrom false begun rest m' .body gap seen := by
  cases hgap with
  | none => exact ⟨m, hm rfl, rfl⟩
  | blanks bs h => exact ⟨m, hm rfl, rfl⟩
  | @lines first hfirst more cs h =>
    refine ⟨m.right indent, Nat.ne_of_gt (Nat.lt_of_lt_of_le hindent (Nat.le_add_left _ _)), ?_⟩
    rw [if_pos rfl, quotedFrom_blanks]

/-- A character within a line is read for itself, a quote that is written twice as one. -/
theorem quotedFrom_singleChar (begun : Mark) {c : Char} {cs : List Char}
    (h : SingleText (c :: cs)) (hbreak : isBreak c = false) {broke : Bool} {gap : Gap}
    (hgap : SingleGap broke gap (c :: cs)) (m : Mark) (hm : m.column ≠ 0)
    (rest seen : List Char) :
    ∃ m' gap' seen', m'.column ≠ 0 ∧ SingleGap false gap' cs ∧
      seen'.reverse ++ gap'.text = seen.reverse ++ gap.text ++ [c] ∧
      quotedFrom false begun ((if c = '\'' then ['\'', '\''] else [c]) ++ rest) m .body gap seen =
        quotedFrom false begun rest m' .body gap' seen' := by
  have hprintable := h.printable c List.mem_cons_self
  by_cases hspace : isSpace c = true
  · have hc : isGap c = true := (isGap_of_isPrintable hprintable).trans hspace
    have hquote : c ≠ '\'' := by
      rintro rfl
      cases hspace
    have hnext : cs.head?.any isBreak = false := by
      have hpair := h.untrailed
      rw [hasPair_cons, hspace, Bool.true_and, Bool.or_eq_false_iff] at hpair
      exact hpair.1
    rw [if_neg hquote, List.singleton_append, quotedFrom, if_neg (by simp [hbreak]), if_pos hc]
    cases hgap with
    | none =>
      exact ⟨m.right 1, .blanks [c], seen, Nat.succ_ne_zero _, .blanks [c] hnext,
        by simp [Gap.text], rfl⟩
    | blanks bs =>
      exact ⟨m.right 1, .blanks (bs ++ [c]), seen, Nat.succ_ne_zero _, .blanks _ hnext,
        by simp [Gap.text], rfl⟩
    | lines hfirst more hled =>
      rw [List.head?_cons, Option.any_some, hspace] at hled
      cases hled
  · have hc : isGap c = false := by
      rw [isGap_of_isPrintable hprintable]
      simpa using hspace
    by_cases hquote : c = '\''
    · subst hquote
      rw [if_pos rfl, List.cons_append, List.singleton_append, quotedFrom, if_neg (by decide),
        if_neg (by decide), if_neg (by simp [hm]), if_neg (by decide), if_pos rfl]
      exact ⟨m.right 2, .none, _, Nat.succ_ne_zero _, .none cs, by simp [Gap.text], rfl⟩
    · rw [if_neg hquote, List.singleton_append, quotedFrom, if_neg (by simp [hbreak]),
        if_neg (by simp [hc]), if_neg (by simp [hm]), if_neg (by decide), if_neg hquote]
      exact ⟨m.right 1, .none, _, Nat.succ_ne_zero _, .none cs, by simp [Gap.text], rfl⟩

/-- A line end behind a part of a text between single quotes is kept. -/
theorem SingleGap.addBreak {c : Char} {cs : List Char} (h : SingleText (c :: cs))
    (hbreak : isBreak c = true) {broke : Bool} {gap : Gap} (hgap : SingleGap broke gap (c :: cs)) :
    SingleGap true (gap.addBreak c) cs ∧ (gap.addBreak c).text = gap.text ++ [c] := by
  have hfeed : c ≠ '\n' := by
    rintro rfl
    exact h.feedless List.mem_cons_self
  have hnext : cs.head?.any isSpace = false := by
    have hpair := h.unled
    rw [hasPair_cons, hbreak, Bool.true_and, Bool.or_eq_false_iff] at hpair
    exact hpair.1
  cases hgap with
  | none => exact ⟨.lines (by simp [hfeed]) [] hnext, by simp [Gap.addBreak, Gap.text, hfeed]⟩
  | blanks bs hled =>
    rw [List.head?_cons, Option.any_some, hbreak] at hled
    cases hled
  | lines hfirst more hled =>
    exact ⟨.lines hfirst (more ++ [c]) hnext, by simp [Gap.addBreak, Gap.text, hfirst]⟩

/-- Text between single quotes is read from any place in it. -/
theorem quotedFrom_single (begun : Mark) {indent : Nat} (hindent : 0 < indent) {cs : List Char}
    (h : SingleText cs) {broke : Bool} {gap : Gap} (hgap : SingleGap broke gap cs) (m : Mark)
    (hm : broke = false → m.column ≠ 0) (rest seen : List Char) :
    ∃ m', quotedFrom false begun (singleBody indent broke cs ++ '\'' :: '\n' :: rest) m .body gap
      seen = .ok (seen.reverse ++ gap.text ++ cs, ⟨'\n' :: rest, m'⟩) := by
  induction cs generalizing broke gap m seen with
  | nil =>
    obtain ⟨m₁, hm₁, hindented⟩ :=
      quotedFrom_indent begun hindent hgap m hm ('\'' :: '\n' :: rest) seen
    refine ⟨m₁.right 1, ?_⟩
    rw [singleBody, hindented, quotedFrom, if_neg (by decide), if_neg (by decide),
      if_neg (by simp [hm₁]), if_neg (by decide), if_pos rfl]
    simp
  | cons c cs ih =>
    rw [singleBody]
    by_cases hbreak : isBreak c = true
    · obtain ⟨hgap', htext⟩ := hgap.addBreak h hbreak
      obtain ⟨m', hread⟩ := ih h.tail hgap' m.down nofun seen
      refine ⟨m', ?_⟩
      rw [if_pos hbreak, List.cons_append, quotedFrom, if_pos hbreak, hread, htext]
      simp
    · have hbreak : isBreak c = false := by simpa using hbreak
      obtain ⟨m₁, hm₁, hindented⟩ := quotedFrom_indent begun hindent hgap m hm
        ((if c = '\'' then ['\'', '\''] else [c]) ++
          (singleBody indent false cs ++ '\'' :: '\n' :: rest)) seen
      obtain ⟨m₂, gap₂, seen₂, hm₂, hgap₂, htext, hchar⟩ := quotedFrom_singleChar begun h hbreak
        hgap m₁ hm₁ (singleBody indent false cs ++ '\'' :: '\n' :: rest) seen
      obtain ⟨m', hread⟩ := ih h.tail hgap₂ m₂ (fun _ => hm₂) seen₂
      refine ⟨m', ?_⟩
      rw [if_neg (by simp [hbreak]), List.append_assoc, List.append_assoc, hindented, hchar, hread,
        htext, List.append_assoc, List.singleton_append]

/-- **Text between single quotes is read back.** -/
theorem readQuoted_single {indent : Nat} (hindent : 0 < indent) {cs : List Char}
    (h : SingleText cs) (rest : List Char) (m : Mark) :
    ∃ m', readQuoted false ⟨'\'' :: singleBody indent false cs ++ '\'' :: '\n' :: rest, m⟩ =
      .ok (cs, ⟨'\n' :: rest, m'⟩) := by
  obtain ⟨m', hread⟩ := quotedFrom_single m hindent h (.none cs) (m.right 1)
    (fun _ => Nat.succ_ne_zero _) rest []
  exact ⟨m', hread⟩

end Courier.Yaml
