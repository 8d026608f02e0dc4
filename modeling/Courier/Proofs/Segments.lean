import Courier.Url.Parser
import Courier.Proofs.Transcoding

/-!
# Segments of paths

A path is split at its slashes, each segment is escaped, and segments of dots are resolved.  A
segment that was none of dots does not become one by being escaped, and segments that are none of
dots stay as they are behind any directory.

* `Url.resolveFrom_eq` — resolving is entering one segment after another; dots at the end leave an
  empty segment.
* `Url.isDots_escape` — escaping makes no dots.
* `Url.text_readPath_append` — **a path behind a path**: the directory of the first is kept, and the
  second follows with its escapes.
-/

namespace Courier

/-! ## Splitting -/

namespace Text

variable {p : Char → Bool}

theorem splitAtAll_ne_nil (cs : List Char) : splitAtAll p cs ≠ [] := by
  cases cs with
  | nil => simp [splitAtAll]
  | cons c cs =>
    rw [splitAtAll]
    split
    · simp
    · split
      · simp
      · simp

/-- A text is split at each separator on its own. -/
theorem splitAtAll_append {sep : Char} (hsep : p sep = true) (cs ds : List Char) :
    splitAtAll p (cs ++ sep :: ds) = splitAtAll p cs ++ splitAtAll p ds := by
  induction cs with
  | nil => simp [splitAtAll, hsep]
  | cons c cs ih =>
    simp only [List.cons_append, splitAtAll, ih]
    split
    · rfl
    · cases hcs : splitAtAll p cs with
      | nil => exact absurd hcs (splitAtAll_ne_nil cs)
      | cons part rest => rfl

theorem splitAtAll_replicate {sep : Char} (hsep : p sep = true) (k : Nat) :
    splitAtAll p (List.replicate k sep) = List.replicate (k + 1) [] := by
  induction k with
  | zero => rfl
  | succ k ih => simp [List.replicate_succ, splitAtAll, hsep, ih]

/-- Parts with a separator in front of each are the text with one in front. -/
theorem flatMap_splitAtAll {sep : Char} (hsep : p sep = true) {f : Char → List Char}
    (hf : f sep = [sep]) {cs : List Char} (hcs : ∀ c ∈ cs, p c = true → c = sep) :
    (splitAtAll p cs).flatMap (fun part => sep :: part.flatMap f) = sep :: cs.flatMap f := by
  induction cs with
  | nil => rfl
  | cons c cs ih =>
    obtain ⟨hc, hrest⟩ := List.forall_mem_cons.1 hcs
    have hih := ih hrest
    rw [splitAtAll]
    split
    · rename_i hseparates
      obtain rfl := hc hseparates
      simp [hf, hih]
    · cases hparts : splitAtAll p cs with
      | nil => exact absurd hparts (splitAtAll_ne_nil cs)
      | cons part rest =>
        rw [hparts] at hih
        simp only [List.flatMap_cons, List.cons_append, List.cons.injEq, true_and] at hih ⊢
        rw [List.append_assoc, hih]

end Text

namespace Url

/-! ## Dots -/

/-- A segment that stands for a directory. -/
def isDots (s : List Char) : Bool := isDoubleDot s || isSingleDot s

/-- Texts of dots, each of which may be escaped. -/
inductive Dotted : List Char → Prop where
  | nil : Dotted []
  | dot {cs : List Char} (h : Dotted cs) : Dotted ('.' :: cs)
  | escaped {e : Char} {cs : List Char} (he : e = 'e' ∨ e = 'E') (h : Dotted cs) :
      Dotted ('%' :: '2' :: e :: cs)

theorem dotted_of_isDots {s : List Char} (h : isDots s = true) : Dotted s := by
  have hall : ∀ t ∈ ["..", "%2e%2e", "%2e%2E", "%2E%2e", "%2E%2E", "%2e.", "%2E.", ".%2e", ".%2E",
      ".", "%2e", "%2E"], Dotted t.toList := by
    simp only [List.forall_mem_cons, List.not_mem_nil, false_imp_iff, implies_true, and_true]
    refine ⟨?_, ?_, ?_, ?_, ?_, ?_, ?_, ?_, ?_, ?_, ?_, ?_⟩
    all_goals
      repeat' first
        | exact .nil
        | exact Or.inl rfl
        | exact Or.inr rfl
        | apply Dotted.dot
        | apply Dotted.escaped
  have hmem := hall (String.ofList s) (by
    simpa [isDots, isDoubleDot, isSingleDot, or_assoc] using h)
  rwa [String.toList_ofList] at hmem

/-- Only the byte of the dot is escaped as the dot is. -/
theorem eq_of_upperHexDigits {n : Nat} (h : n < 256) (hhigh : upperHexDigit (n / 16) = '2')
    (hlow : upperHexDigit (n % 16) = 'e' ∨ upperHexDigit (n % 16) = 'E') : n = 0x2E := by
  have htwo : ∀ d, d < 16 → upperHexDigit d = '2' → d = 2 := by decide
  have hletter : ∀ d, d < 16 → upperHexDigit d = 'e' ∨ upperHexDigit d = 'E' → d = 14 := by decide
  have hfirst := htwo (n / 16) (by omega) hhigh
  have hsecond := hletter (n % 16) (by omega) hlow
  omega

/-- The first byte of a character is that of a dot only for the dot. -/
theorem exists_encodeChar (c : Char) :
    ∃ b bs, Text.Utf8.encodeChar c = b :: bs ∧ (b.toNat = 0x2E → c = '.') := by
  have hbound := Text.Utf8.toNat_lt c
  unfold Text.Utf8.encodeChar Text.Utf8.byte
  simp only
  split
  · refine ⟨_, _, rfl, ?_⟩
    intro hdot
    rw [UInt8.toNat_ofNat', Nat.mod_eq_of_lt (by omega)] at hdot
    rw [← Char.ofNat_toNat c, hdot]
  · split
    · refine ⟨_, _, rfl, ?_⟩
      intro hdot
      rw [UInt8.toNat_ofNat'] at hdot
      omega
    · split
      · refine ⟨_, _, rfl, ?_⟩
        intro hdot
        rw [UInt8.toNat_ofNat'] at hdot
        omega
      · refine ⟨_, _, rfl, ?_⟩
        intro hdot
        rw [UInt8.toNat_ofNat'] at hdot
        omega

/-- No character of the path set is escaped as a dot is. -/
theorem escapeWhole_ne_dot {c : Char} (h : inPathSet c = true) {e : Char} (he : e = 'e' ∨ e = 'E')
    (cs ds : List Char) : escapeWhole c ++ cs ≠ '%' :: '2' :: e :: ds := by
  obtain ⟨b, bs, hbytes, hdot⟩ := exists_encodeChar c
  intro heq
  simp only [escapeWhole, hbytes, List.flatMap_cons, escapeByte, List.cons_append,
    List.cons.injEq, true_and] at heq
  obtain ⟨hhigh, hlow, -⟩ := heq
  rw [← hlow] at he
  obtain rfl := hdot (eq_of_upperHexDigits b.toNat_lt hhigh he)
  revert h
  decide

/-- Escapes begin with their sign. -/
theorem exists_escapeWhole (c : Char) : ∃ rest, escapeWhole c = '%' :: rest := by
  obtain ⟨b, bs, hbytes, -⟩ := exists_encodeChar c
  exact ⟨_, by rw [escapeWhole, hbytes, List.flatMap_cons, escapeByte, List.cons_append]⟩

theorem escape_cons (set : Char → Bool) (c : Char) (cs : List Char) :
    escape set (c :: cs) = (if set c then escapeWhole c else [c]) ++ escape set cs := rfl

/-- Slashes of a path are not escaped. -/
theorem escape_slash_cons (cs : List Char) :
    escape inPathSet ('/' :: cs) = '/' :: escape inPathSet cs := by
  have hslash : inPathSet '/' = false := by decide
  simp [escape_cons, hslash]

/-- A text that begins with another character than the sign of escapes is not escaped there. -/
theorem escape_eq_cons {set : Char → Bool} {s cs : List Char} {c : Char} (hc : c ≠ '%')
    (h : escape set s = c :: cs) : ∃ rest, s = c :: rest ∧ escape set rest = cs := by
  cases s with
  | nil => cases h
  | cons d rest =>
    rw [escape_cons] at h
    split at h
    · obtain ⟨more, hmore⟩ := exists_escapeWhole d
      rw [hmore] at h
      exact absurd (List.cons.inj h).1.symm hc
    · obtain ⟨rfl, hrest⟩ := List.cons.inj h
      exact ⟨rest, rfl, hrest⟩

/-- A text that is dotted after being escaped was so before. -/
theorem escape_eq_self_of_dotted {s : List Char} (h : Dotted (escape inPathSet s)) :
    escape inPathSet s = s := by
  generalize ht : escape inPathSet s = t at h
  induction h generalizing s with
  | nil =>
    cases s with
    | nil => rfl
    | cons c s =>
      rw [escape_cons] at ht
      split at ht
      · obtain ⟨rest, hrest⟩ := exists_escapeWhole c
        rw [hrest] at ht
        cases ht
      · cases ht
  | dot h ih =>
    obtain ⟨rest, rfl, hrest⟩ := escape_eq_cons (by decide) ht
    rw [ih hrest]
  | escaped he h ih =>
    rename_i e cs
    cases s with
    | nil => cases ht
    | cons c s =>
      rw [escape_cons] at ht
      split at ht
      · rename_i hset
        exact absurd ht (escapeWhole_ne_dot hset he _ _)
      · obtain ⟨rfl, htail⟩ := List.cons.inj ht
        have htwo : escape inPathSet s = '2' :: e :: cs := htail
        obtain ⟨rest, rfl, hmore⟩ := escape_eq_cons (by decide) htwo
        have hletter : e ≠ '%' := by
          rcases he with rfl | rfl
          all_goals decide
        obtain ⟨rest, rfl, hrest⟩ := escape_eq_cons hletter hmore
        rw [ih hrest]

/-- Escaping makes no dots. -/
theorem isDots_escape {s : List Char} (h : isDots s = false) :
    isDots (escape inPathSet s) = false := by
  cases hdots : isDots (escape inPathSet s) with
  | false => rfl
  | true =>
    rw [escape_eq_self_of_dotted (dotted_of_isDots hdots), h] at hdots
    cases hdots

/-! ## Directories -/

/-- The directory behind a segment. -/
def enter (dir : List (List Char)) (s : List Char) : List (List Char) :=
  if isDoubleDot s then dropSegment dir else if isSingleDot s then dir else dir ++ [s]

/-- Resolving is entering one segment after another; dots at the end leave an empty segment. -/
theorem resolveFrom_eq (dir raw : List (List Char)) :
    resolveFrom dir raw =
      raw.foldl enter dir ++ if raw.getLast?.any isDots then [[]] else [] := by
  induction raw generalizing dir with
  | nil => simp [resolveFrom]
  | cons s rest ih =>
    cases rest with
    | nil =>
      simp only [resolveFrom, List.foldl_cons, List.foldl_nil, enter]
      by_cases hdouble : isDoubleDot s = true
      · simp [hdouble, isDots]
      · by_cases hsingle : isSingleDot s = true
        · simp [hdouble, hsingle, isDots]
        · simp [hdouble, hsingle, isDots]
    | cons next more =>
      rw [resolveFrom, List.foldl_cons, List.getLast?_cons_cons]
      simp only [reduceCtorEq, if_false, ih, enter]
      split
      · rfl
      · split
        · rfl
        · rfl

theorem foldl_enter_of_plain {raw : List (List Char)} (h : ∀ s ∈ raw, isDots s = false)
    (dir : List (List Char)) : raw.foldl enter dir = dir ++ raw := by
  induction raw generalizing dir with
  | nil => simp
  | cons s rest ih =>
    obtain ⟨hs, hrest⟩ := List.forall_mem_cons.1 h
    obtain ⟨hdouble, hsingle⟩ := Bool.or_eq_false_iff.1 hs
    simp [enter, hdouble, hsingle, ih hrest]

/-- Segments that are none of dots stay as they are behind any segments. -/
theorem resolveFrom_append {raw plain : List (List Char)} (hne : plain ≠ [])
    (h : ∀ s ∈ plain, isDots s = false) (dir : List (List Char)) :
    resolveFrom dir (raw ++ plain) = raw.foldl enter dir ++ plain := by
  have hlast := List.getLast?_eq_some_getLast hne
  have hplain := h _ (List.getLast_mem hne)
  rw [resolveFrom_eq, List.foldl_append, foldl_enter_of_plain h, List.getLast?_append, hlast]
  simp [hplain]

/-! ## Paths -/

theorem eq_of_isSlash {c : Char} (h : isSlash c = true) : c = '/' ∨ c = '\\' := by
  simpa [isSlash] using h

/-- The escaped segments of a text. -/
def escapedSegments (cs : List Char) : List (List Char) :=
  (Text.splitAtAll isSlash cs).map (escape inPathSet)

theorem readPath_cons {c : Char} (hc : isSlash c = true) (cs : List Char) :
    readPath true (c :: cs) = .segments (resolveFrom [] (escapedSegments cs)) := by
  have hdrop : dropSlash true (c :: cs) = cs := by simp [dropSlash, eq_of_isSlash hc]
  rw [readPath, if_neg (by simp), hdrop]
  rfl

theorem escapedSegments_append {c : Char} (hc : isSlash c = true) (cs ds : List Char) :
    escapedSegments (cs ++ c :: ds) = escapedSegments cs ++ escapedSegments ds := by
  rw [escapedSegments, Text.splitAtAll_append hc, List.map_append]
  rfl

theorem escapedSegments_ne_nil (cs : List Char) : escapedSegments cs ≠ [] := by
  simpa [escapedSegments] using Text.splitAtAll_ne_nil cs

/-- A text in which all slashes are of the usual kind and no segment is one of dots. -/
structure PlainSegments (cs : List Char) : Prop where
  noBackslash : '\\' ∉ cs
  noDots : ∀ s ∈ Text.splitAtAll (· == '/') cs, isDots s = false

/-- The parts at a slash of a plain text are plain. -/
theorem PlainSegments.of_append {cs ds : List Char} (h : PlainSegments (cs ++ '/' :: ds)) :
    PlainSegments cs ∧ PlainSegments ds := by
  have hbackslash := h.noBackslash
  have hdots := h.noDots
  rw [@Text.splitAtAll_append (· == '/') '/' (by decide)] at hdots
  simp only [List.mem_append, List.mem_cons, not_or] at hbackslash
  exact ⟨⟨hbackslash.1, fun s hs => hdots s (List.mem_append_left _ hs)⟩,
    ⟨hbackslash.2.2, fun s hs => hdots s (List.mem_append_right _ hs)⟩⟩

theorem splitAtAll_isSlash {cs : List Char} (h : '\\' ∉ cs) :
    Text.splitAtAll isSlash cs = Text.splitAtAll (· == '/') cs := by
  induction cs with
  | nil => rfl
  | cons c cs ih =>
    simp only [List.mem_cons, not_or] at h
    have hc : isSlash c = (c == '/') := by simp [isSlash, Ne.symm h.1]
    simp only [Text.splitAtAll, ih h.2, hc]

theorem PlainSegments.escaped {cs : List Char} (h : PlainSegments cs) :
    ∀ s ∈ escapedSegments cs, isDots s = false := by
  intro s hs
  obtain ⟨raw, hraw, rfl⟩ := List.mem_map.1 hs
  rw [splitAtAll_isSlash h.noBackslash] at hraw
  exact isDots_escape (h.noDots raw hraw)

/-- The text of segments that have been split is the text that they come from. -/
theorem text_escapedSegments {cs : List Char} (h : '\\' ∉ cs) :
    (Path.segments (escapedSegments cs)).text = '/' :: escape inPathSet cs := by
  have hslashes : ∀ c ∈ cs, isSlash c = true → c = '/' := by
    intro c hc hslash
    rcases eq_of_isSlash hslash with rfl | rfl
    · rfl
    · exact absurd hc h
  rw [Path.text, escapedSegments, List.flatMap_map]
  exact Text.flatMap_splitAtAll (by decide) (by decide) hslashes

theorem text_append (dir rest : List (List Char)) :
    (Path.segments (dir ++ rest)).text =
      (Path.segments dir).text ++ (Path.segments rest).text := List.flatMap_append ..

/-- The directory that the text of a path leads to, whatever follows. -/
def directoryOf : List Char → List (List Char)
  | [] => []
  | _ :: cs => (escapedSegments cs).foldl enter []

/-- **A path behind a path.**  Behind the directory of the first, the second follows with its
escapes. -/
theorem text_readPath_append {cs ds : List Char} (hcs : ∀ c, cs.head? = some c → isSlash c = true)
    (hds : PlainSegments ds) :
    (readPath true (cs ++ '/' :: ds)).text =
      (Path.segments (directoryOf cs)).text ++ '/' :: escape inPathSet ds := by
  have hslash : isSlash '/' = true := by decide
  have hne := escapedSegments_ne_nil ds
  rw [← text_escapedSegments hds.noBackslash, ← text_append]
  cases cs with
  | nil =>
    rw [List.nil_append, readPath_cons hslash, directoryOf]
    have hself := @resolveFrom_append [] _ hne hds.escaped []
    rw [List.nil_append] at hself
    rw [hself, List.foldl_nil]
  | cons c cs =>
    rw [List.cons_append, readPath_cons (hcs c rfl), escapedSegments_append hslash,
      resolveFrom_append hne hds.escaped, directoryOf]

theorem plainSegments_replicate (k : Nat) : PlainSegments (List.replicate k '/') where
  noBackslash := by simp [List.mem_replicate]
  noDots s hs := by
    rw [Text.splitAtAll_replicate (by decide)] at hs
    rw [List.eq_of_mem_replicate hs]
    decide

theorem escape_replicate (k : Nat) :
    escape inPathSet (List.replicate k '/') = List.replicate k '/' := by
  induction k with
  | zero => rfl
  | succ k ih => rw [List.replicate_succ, escape_slash_cons, ih]

/-- Behind the directory of a path, slashes follow as they are; without any, there is one in their
place if the path is empty or ends in dots. -/
theorem exists_text_readPath {cs : List Char} (hcs : ∀ c, cs.head? = some c → isSlash c = true)
    (k : Nat) :
    ∃ j, (readPath true (cs ++ List.replicate k '/')).text =
      (Path.segments (directoryOf cs)).text ++ List.replicate j '/' := by
  cases k with
  | succ k =>
    refine ⟨k + 1, ?_⟩
    rw [List.replicate_succ, text_readPath_append hcs (plainSegments_replicate k),
      escape_replicate]
  | zero =>
    rw [List.replicate_zero, List.append_nil]
    cases cs with
    | nil => exact ⟨1, by decide⟩
    | cons c cs =>
      rw [readPath_cons (hcs c rfl), resolveFrom_eq, text_append, directoryOf]
      split
      · exact ⟨1, rfl⟩
      · exact ⟨0, rfl⟩

/-- The directory of a plain path is the path, escaped. -/
theorem text_directoryOf {cs : List Char} (h : PlainSegments cs) :
    (Path.segments (directoryOf ('/' :: cs))).text = escape inPathSet ('/' :: cs) := by
  rw [directoryOf, foldl_enter_of_plain h.escaped, List.nil_append,
    text_escapedSegments h.noBackslash, escape_slash_cons]

/-! ## Slashes at the end -/

theorem slash_notMem_escapeWhole (c : Char) : '/' ∉ escapeWhole c := by
  have hdigit : ∀ d, d < 16 → upperHexDigit d ≠ '/' := by decide
  intro h
  obtain ⟨b, -, hb⟩ := List.mem_flatMap.1 h
  have hbound := b.toNat_lt
  simp only [escapeByte, List.mem_cons, List.not_mem_nil, or_false, Char.reduceEq, false_or] at hb
  rcases hb with hb | hb
  · exact hdigit _ (by omega) hb.symm
  · exact hdigit _ (by omega) hb.symm

/-- Escaping a text that does not end in a slash makes none there. -/
theorem getLast?_escape_ne {cs : List Char} (h : cs.getLast? ≠ some '/') :
    (escape inPathSet cs).getLast? ≠ some '/' := by
  intro hend
  cases hlast : cs.getLast? with
  | none =>
    rw [List.getLast?_eq_none_iff.1 hlast] at hend
    cases hend
  | some c =>
    obtain ⟨front, rfl⟩ := List.getLast?_eq_some_iff.1 hlast
    have hsplit : escape inPathSet (front ++ [c]) =
        escape inPathSet front ++ if inPathSet c then escapeWhole c else [c] := by
      rw [escape, List.flatMap_append, List.flatMap_singleton]
      rfl
    rw [hsplit, List.getLast?_append] at hend
    split at hend
    · obtain ⟨rest, hrest⟩ := exists_escapeWhole c
      have hsome : (escapeWhole c).getLast? = some (rest.getLast?.getD '%') := by
        rw [hrest, List.getLast?_cons]
      rw [hsome, Option.some_or] at hend
      exact slash_notMem_escapeWhole c (List.mem_of_getLast? (hsome.trans hend))
    · exact h (hlast.trans hend)

end Url

end Courier
