import Courier.Proofs.Segments
import Courier.Proofs.Transcoding

/-!
# Forms

A query is a form: pairs with `&` between them, each a name and a value with `=` between them.  What
a name or value holds of these signs is escaped, so that none of them is read as another pair.

* `Url.readForm` — how a form is read: by its signs first, and then each name and value.
* `Url.readFormText_formText` — a name or value is read back.
* `Url.readForm_appendForm` — **pairs that are appended to a query are read back**, behind those
  that it had.
-/

namespace Courier

/-- A text without a separator is not split. -/
theorem Text.splitAtAll_of_forall {p : Char → Bool} {cs : List Char} (h : ∀ c ∈ cs, p c = false) :
    splitAtAll p cs = [cs] := by
  induction cs with
  | nil => rfl
  | cons c cs ih =>
    obtain ⟨hc, hrest⟩ := List.forall_mem_cons.1 h
    simp [splitAtAll, hc, ih hrest]

namespace Url

/-! ## Reading forms -/

/-- A `+` stands for a blank. -/
def blankOfPlus (c : Char) : Char := if c = '+' then ' ' else c

/-- A name or value as it is read: blanks and escapes are resolved, and ill-formed bytes are
replaced. -/
def readFormText (cs : List Char) : String :=
  Text.Utf8.stringLossy (unescape (cs.map blankOfPlus))

/-- A name and its value around the first `=`; without any, the value is empty. -/
def readFormPair (cs : List Char) : String × String :=
  (readFormText (cs.takeWhile (· != '=')), readFormText ((cs.dropWhile (· != '=')).drop 1))

/-- The pairs of a form.  Nothing between two `&` is no pair. -/
def readForm (cs : List Char) : List (String × String) :=
  ((Text.splitAtAll (· == '&') cs).filter (!·.isEmpty)).map readFormPair

@[simp] theorem readForm_nil : readForm [] = [] := rfl

/-- Two forms with `&` between them have the pairs of both. -/
theorem readForm_append (cs ds : List Char) :
    readForm (cs ++ '&' :: ds) = readForm cs ++ readForm ds := by
  rw [readForm, Text.splitAtAll_append (by decide), List.filter_append, List.map_append]
  rfl

/-! ## Escapes -/

/-- A character that begins no escape stands for itself. -/
theorem unescape_cons {c : Char} (hc : c ≠ '%') (cs : List Char) :
    unescape (c :: cs) = Text.Utf8.encodeChar c ++ unescape cs := by
  rw [unescape]
  intro a b rest hpercent
  exact absurd hpercent hc

theorem hexDigit?_upperHexDigit : ∀ d, d < 16 → hexDigit? (upperHexDigit d) = some d := by decide

theorem isFormChar_upperHexDigit : ∀ d, d < 16 → isFormChar (upperHexDigit d) = true := by decide

/-- The escape of a byte stands for it. -/
theorem unescape_escapeByte (b : UInt8) (cs : List Char) :
    unescape (escapeByte b ++ cs) = b :: unescape cs := by
  have hbyte : b.toNat < 256 := b.toNat_lt
  have hdigits : UInt8.ofNat (b.toNat / 16 * 16 + b.toNat % 16) = b := by
    rw [Nat.div_add_mod', UInt8.ofNat_toNat]
  simp only [escapeByte, List.cons_append, List.nil_append]
  rw [unescape, hexDigit?_upperHexDigit _ (by omega), hexDigit?_upperHexDigit _ (by omega)]
  simp only [hdigits]

theorem unescape_flatMap_escapeByte (bs : List UInt8) (cs : List Char) :
    unescape (bs.flatMap escapeByte ++ cs) = bs ++ unescape cs := by
  induction bs with
  | nil => rfl
  | cons b bs ih =>
    rw [List.flatMap_cons, List.append_assoc, unescape_escapeByte, ih, List.cons_append]

/-! ## Names and values -/

/-- What a character becomes in a form. -/
def formChar (c : Char) : List Char :=
  if c = ' ' then ['+'] else if isFormChar c then [c] else escapeWhole c

theorem formText_eq (s : String) : formText s = s.toList.flatMap formChar := rfl

/-- An escape holds nothing but its sign and characters that stand for themselves. -/
theorem mem_escapeWhole {c d : Char} (h : d ∈ escapeWhole c) : d = '%' ∨ isFormChar d = true := by
  obtain ⟨b, -, hd⟩ := List.mem_flatMap.1 h
  have hbyte : b.toNat < 256 := b.toNat_lt
  simp only [escapeByte, List.mem_cons, List.not_mem_nil, or_false] at hd
  rcases hd with rfl | rfl | rfl
  · exact Or.inl rfl
  · exact Or.inr (isFormChar_upperHexDigit _ (by omega))
  · exact Or.inr (isFormChar_upperHexDigit _ (by omega))

/-- The characters of which names and values consist. -/
theorem mem_formText {s : String} {d : Char} (h : d ∈ formText s) :
    d = '+' ∨ d = '%' ∨ isFormChar d = true := by
  obtain ⟨c, -, hd⟩ := List.mem_flatMap.1 h
  split at hd
  · exact Or.inl (List.mem_singleton.1 hd)
  · split at hd
    · rename_i hform
      rw [List.mem_singleton.1 hd]
      exact Or.inr (Or.inr hform)
    · exact Or.inr (mem_escapeWhole hd)

/-- The signs of a form do not occur in names and values. -/
theorem ne_of_mem_formText {s : String} {d sign : Char} (h : d ∈ formText s)
    (hsign : sign = '&' ∨ sign = '=') : d ≠ sign := by
  rintro rfl
  rcases hsign with rfl | rfl
  · exact absurd (mem_formText h) (by decide)
  · exact absurd (mem_formText h) (by decide)

/-- No `+` stands in an escape, where it would be read as a blank. -/
theorem map_blankOfPlus_escapeWhole (c : Char) :
    (escapeWhole c).map blankOfPlus = escapeWhole c := by
  have hself : ∀ d ∈ escapeWhole c, blankOfPlus d = id d := by
    intro d hd
    apply if_neg
    rintro rfl
    exact absurd (mem_escapeWhole hd) (by decide)
  rw [List.map_congr_left hself, List.map_id]

/-- **A character is read back** from what it becomes in a form. -/
theorem unescape_formChar (c : Char) (cs : List Char) :
    unescape ((formChar c).map blankOfPlus ++ cs) = Text.Utf8.encodeChar c ++ unescape cs := by
  unfold formChar
  split
  · rename_i hblank
    subst hblank
    exact unescape_cons (by decide) cs
  · split
    · rename_i hform
      have hplus : blankOfPlus c = c := by
        apply if_neg
        rintro rfl
        exact absurd hform (by decide)
      have hpercent : c ≠ '%' := by
        rintro rfl
        exact absurd hform (by decide)
      rw [List.map_singleton, hplus, List.singleton_append, unescape_cons hpercent]
    · rw [map_blankOfPlus_escapeWhole, escapeWhole, unescape_flatMap_escapeByte]

/-- **A name or value is read back.** -/
theorem readFormText_formText (s : String) : readFormText (formText s) = s := by
  have hbytes : ∀ cs : List Char,
      unescape ((cs.flatMap formChar).map blankOfPlus) = Text.Utf8.encode cs := by
    intro cs
    induction cs with
    | nil => rfl
    | cons c cs ih =>
      rw [List.flatMap_cons, List.map_append, unescape_formChar, ih]
      rfl
  rw [readFormText, formText_eq, hbytes, Text.Utf8.stringLossy, Text.Utf8.decodeLossy_encode,
    String.ofList_toList]

/-! ## Pairs -/

theorem readFormPair_formPair (p : String × String) : readFormPair (formPair p) = p := by
  have hname : ∀ c ∈ formText p.1, (c != '=') = true := fun c hc =>
    bne_iff_ne.2 (ne_of_mem_formText hc (Or.inr rfl))
  rw [readFormPair, formPair, List.takeWhile_append_of_pos hname,
    List.dropWhile_append_of_pos hname, List.takeWhile_cons_of_neg (by simp),
    List.dropWhile_cons_of_neg (by simp), List.append_nil, List.drop_one, List.tail_cons,
    readFormText_formText, readFormText_formText]

theorem readForm_formPair (p : String × String) : readForm (formPair p) = [p] := by
  have hsign : ∀ c ∈ formPair p, (c == '&') = false := by
    intro c hc
    rw [beq_eq_false_iff_ne]
    rcases List.mem_append.1 hc with hc | hc
    · exact ne_of_mem_formText hc (Or.inl rfl)
    · rcases List.mem_cons.1 hc with rfl | hc
      · decide
      · exact ne_of_mem_formText hc (Or.inl rfl)
  have hne : formPair p ≠ [] := by simp [formPair]
  rw [readForm, Text.splitAtAll_of_forall hsign]
  simp [hne, readFormPair_formPair]

/-- **Pairs that are appended to a query are read back** behind those that it had, whatever they
hold. -/
theorem readForm_appendForm (query : List Char) (pairs : List (String × String)) :
    readForm (appendForm query pairs) = readForm query ++ pairs := by
  induction pairs generalizing query with
  | nil => simp [appendForm]
  | cons p pairs ih =>
    have hfirst : readForm ((if query = [] then [] else query ++ ['&']) ++ formPair p) =
        readForm query ++ [p] := by
      split
      · rename_i hempty
        rw [hempty, List.nil_append, readForm_formPair, readForm_nil, List.nil_append]
      · rw [List.append_assoc, List.singleton_append, readForm_append, readForm_formPair]
    rw [appendForm, ih, hfirst, List.append_assoc, List.singleton_append]

example : appendForm "a=b".toList [("&k", "v=1 +")] = "a=b&%26k=v%3D1+%2B".toList ∧
    readForm "a=b&%26k=v%3D1+%2B".toList = [("a", "b"), ("&k", "v=1 +")] := by decide +kernel

end Url

end Courier
