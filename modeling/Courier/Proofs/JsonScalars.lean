import Courier.Json.Parser
import Courier.Json.Printer
import Courier.Proofs.Numerals
import Courier.Proofs.Result
import Courier.Proofs.Transcoding

/-!
# Strings and numbers are read back

What is written of a string or of an integer is read back from its bytes, whatever follows a string,
and whatever follows an integer but what a number could go on with.

* `Takes` — a reader takes a text from the front of what is left.
* `takes_string` — **a string** is read up to its closing quote, with all its escapes undone.
* `unsignedNumber_digits` — **the digits of a number** are read exactly, if it fits 64 bits.
* `skipSpace_gap` — blanks are skipped.
-/

namespace Courier.Json

open Result (ok_bind)
open Text.Utf8 (encode encodeChar byte)

/-- Whether a reader takes a text from the front of what is left, wherever that stands. -/
def Takes {α : Type} (read : Cursor → Except Error (Step α)) (text : List Char) (a : α)
    (rest : List UInt8) : Prop :=
  ∀ p, ∃ q, read ⟨encode text ++ rest, p⟩ = .ok (a, ⟨rest, q⟩)

/-- Two texts behind one another are taken by two readers in turn. -/
theorem Takes.bind {α β : Type} {read : Cursor → Except Error (Step α)}
    {text text' : List Char} {a : α} {b : β} {rest : List UInt8}
    (h : Takes read text a (encode text' ++ rest)) (next : α → Cursor → Except Error (Step β))
    (h' : Takes (next a) text' b rest) :
    Takes (fun c => do let (a, c) ← read c; next a c) (text ++ text') b rest := by
  intro p
  obtain ⟨q, hq⟩ := h p
  obtain ⟨q', hq'⟩ := h' q
  refine ⟨q', ?_⟩
  show (read _ >>= _) = _
  rw [Text.Utf8.encode_append, List.append_assoc, hq, ok_bind]
  exact hq'

/-- What a reader gives may be turned into something else. -/
theorem Takes.map {α β : Type} {read : Cursor → Except Error (Step α)} {text : List Char} {a : α}
    {rest : List UInt8} (h : Takes read text a rest) (f : α → β) :
    Takes (fun c => do let (a, c) ← read c; .ok (f a, c)) text (f a) rest := by
  intro p
  obtain ⟨q, hq⟩ := h p
  refine ⟨q, ?_⟩
  show (read _ >>= _) = _
  rw [hq, ok_bind]

/-! ## Strings -/

theorem stringRest_plain {b : UInt8} (hlow : 32 ≤ b) (hquote : b ≠ 34) (hslash : b ≠ 92)
    (fuel : Nat) (seen rest : List UInt8) (p : Position) :
    stringRest (fuel + 1) seen ⟨b :: rest, p⟩ =
      stringRest fuel (b :: seen) ⟨rest, p.after b⟩ := by
  have hcontrol : ¬b < 32 := UInt8.not_lt.2 hlow
  rw [stringRest]
  simp only [Cursor.head?, List.head?_cons, if_neg hcontrol]
  rfl

theorem stringRest_plains {bs : List UInt8} (h : ∀ b ∈ bs, 32 ≤ b ∧ b ≠ 34 ∧ b ≠ 92)
    (seen rest : List UInt8) (p : Position) :
    ∃ q, ∀ fuel, stringRest (fuel + bs.length) seen ⟨bs ++ rest, p⟩ =
      stringRest fuel (bs.reverse ++ seen) ⟨rest, q⟩ := by
  induction bs generalizing seen p with
  | nil => exact ⟨p, fun fuel => rfl⟩
  | cons b bs ih =>
    obtain ⟨⟨hlow, hquote, hslash⟩, hrest⟩ := List.forall_mem_cons.1 h
    obtain ⟨q, hq⟩ := ih hrest (b :: seen) (p.after b)
    refine ⟨q, fun fuel => ?_⟩
    rw [List.length_cons, ← Nat.add_assoc, List.cons_append, stringRest_plain hlow hquote hslash,
      hq, List.reverse_cons, List.append_assoc]
    rfl

theorem stringRest_escape {bs rest : List UInt8} {c : Char} {p q : Position}
    (h : escape ⟨bs ++ rest, p.after 92⟩ = .ok (c, ⟨rest, q⟩)) (fuel : Nat) (seen : List UInt8) :
    stringRest (fuel + 1) seen ⟨92 :: bs ++ rest, p⟩ =
      stringRest fuel ((encodeChar c).reverse ++ seen) ⟨rest, q⟩ := by
  rw [stringRest]
  simp only [Cursor.head?, List.cons_append, List.head?_cons, Cursor.next, h, ok_bind]

theorem hexOf?_digitChar {n : Nat} (h : n < 16) :
    encodeChar (Nat.digitChar n) = [byte (Nat.digitChar n).toNat] ∧
      hexOf? (byte (Nat.digitChar n).toNat) = some n := by
  revert n; decide

/-- A control character without a name of its own is escaped by number. -/
theorem numberedEscape_control {n : Nat} (h : n < 32) (rest : List UInt8) (p : Position) :
    ∃ q, escape ⟨encode ['u', '0', '0', Nat.digitChar (n / 16), Nat.digitChar (n % 16)] ++ rest, p⟩
      = .ok (Char.ofNat n, ⟨rest, q⟩) := by
  obtain ⟨hhighText, hhigh⟩ := hexOf?_digitChar (show n / 16 < 16 by omega)
  obtain ⟨hlowText, hlow⟩ := hexOf?_digitChar (show n % 16 < 16 by omega)
  have hvalue : n / 16 * 16 + n % 16 = n := by omega
  have hlone : ¬(0xDC00 ≤ n ∧ n ≤ 0xDFFF) := by omega
  have hplain : n < 0xD800 ∨ 0xDBFF < n := by omega
  simp only [encode, List.flatMap_cons, List.flatMap_nil, hhighText, hlowText]
  simp only [show encodeChar 'u' = [117] from rfl, show encodeChar '0' = [48] from rfl]
  simp only [List.cons_append, List.nil_append, escape, Cursor.head?, List.head?_cons,
    Cursor.next, numberedEscape, hex4, show hexOf? 48 = some 0 from rfl, hhigh, hlow, ok_bind]
  simp only [Nat.zero_mul, Nat.zero_add, hvalue, if_neg hlone, if_pos hplain]
  exact ⟨_, rfl⟩

/-- What stands for a character in a string is a plain character or an escape. -/
theorem escapeChar_cases (c : Char) :
    (escapeChar c = [c] ∧ 32 ≤ c.toNat ∧ c ≠ '"' ∧ c ≠ '\\') ∨
      ∃ cs, escapeChar c = '\\' :: cs ∧ ∀ rest p, ∃ q,
        escape ⟨encode cs ++ rest, p⟩ = .ok (c, ⟨rest, q⟩) := by
  unfold escapeChar
  split
  · exact Or.inr ⟨_, rfl, fun rest p => ⟨_, rfl⟩⟩
  · exact Or.inr ⟨_, rfl, fun rest p => ⟨_, rfl⟩⟩
  · exact Or.inr ⟨_, rfl, fun rest p => ⟨_, rfl⟩⟩
  · exact Or.inr ⟨_, rfl, fun rest p => ⟨_, rfl⟩⟩
  · exact Or.inr ⟨_, rfl, fun rest p => ⟨_, rfl⟩⟩
  · exact Or.inr ⟨_, rfl, fun rest p => ⟨_, rfl⟩⟩
  · exact Or.inr ⟨_, rfl, fun rest p => ⟨_, rfl⟩⟩
  · split
    · rename_i hcontrol
      refine Or.inr ⟨_, rfl, fun rest p => ?_⟩
      obtain ⟨q, hq⟩ := numberedEscape_control hcontrol rest p
      rw [Char.ofNat_toNat] at hq
      exact ⟨q, hq⟩
    · rename_i hquote hslash _ _ _ _ _ hcontrol
      exact Or.inl ⟨rfl, by omega, hquote, hslash⟩


/-- A character of a string takes no more steps than it has bytes. -/
theorem stringRest_escapeChar (c : Char) (seen rest : List UInt8) (p : Position) :
    ∃ steps q, steps ≤ (encode (escapeChar c)).length ∧ ∀ fuel,
      stringRest (fuel + steps) seen ⟨encode (escapeChar c) ++ rest, p⟩ =
        stringRest fuel ((encodeChar c).reverse ++ seen) ⟨rest, q⟩ := by
  rcases escapeChar_cases c with ⟨htext, hlow, hquote, hslash⟩ | ⟨cs, htext, hescape⟩
  · have hplain : ∀ b ∈ encodeChar c, 32 ≤ b ∧ b ≠ 34 ∧ b ≠ 92 := by
      intro b hb
      rw [UInt8.le_iff_toNat_le, ← UInt8.toNat_inj.ne, ← UInt8.toNat_inj.ne]
      have hquote' : c.toNat ≠ 34 := fun h => hquote (Char.toNat_inj.1 h)
      have hslash' : c.toNat ≠ 92 := fun h => hslash (Char.toNat_inj.1 h)
      show 32 ≤ _ ∧ _ ≠ 34 ∧ _ ≠ 92
      rcases Text.Utf8.mem_encodeChar hb with ⟨hsame, -⟩ | hhigh <;> omega
    rw [htext, Text.Utf8.encode_singleton]
    obtain ⟨q, hq⟩ := stringRest_plains hplain seen rest p
    exact ⟨_, q, Nat.le_refl _, hq⟩
  · obtain ⟨q, hq⟩ := hescape rest (p.after 92)
    rw [htext, Text.Utf8.encode_cons, show encodeChar '\\' = [92] from rfl]
    exact ⟨1, q, by simp, fun fuel => stringRest_escape hq fuel seen⟩

/-- The characters of a string are read up to its closing quote. -/
theorem stringRest_text (cs done : List Char) (rest : List UInt8) (p : Position) (fuel : Nat)
    (hfuel : (encode (cs.flatMap escapeChar)).length < fuel) :
    ∃ q, stringRest fuel (encode done).reverse ⟨encode (cs.flatMap escapeChar) ++ 34 :: rest, p⟩ =
      .ok (String.ofList (done ++ cs), ⟨rest, q⟩) := by
  induction cs generalizing done p fuel with
  | nil =>
    obtain ⟨fuel, rfl⟩ : ∃ k, fuel = k + 1 :=
      Nat.exists_eq_succ_of_ne_zero (Nat.ne_zero_of_lt hfuel)
    refine ⟨p.after 34, ?_⟩
    rw [stringRest, List.append_nil]
    simp only [Text.Utf8.string?, List.reverse_reverse, Text.Utf8.decode?_encode]
    rfl
  | cons c cs ih =>
    rw [List.flatMap_cons, Text.Utf8.encode_append, List.length_append] at hfuel
    rw [List.flatMap_cons, Text.Utf8.encode_append, List.append_assoc]
    obtain ⟨steps, q, hsteps, hread⟩ := stringRest_escapeChar c (encode done).reverse
      (encode (cs.flatMap escapeChar) ++ 34 :: rest) p
    obtain ⟨left, rfl⟩ : ∃ left, fuel = left + steps := ⟨fuel - steps, by omega⟩
    have hseen : (encodeChar c).reverse ++ (encode done).reverse =
        (encode (done ++ [c])).reverse := by
      rw [Text.Utf8.encode_append, Text.Utf8.encode_singleton, List.reverse_append]
    obtain ⟨q', hq'⟩ := ih (done ++ [c]) q left (by omega)
    refine ⟨q', ?_⟩
    rw [hread, hseen, hq', List.append_assoc, List.singleton_append]

/-- **A string is read** up to its closing quote. -/
theorem takes_string (s : String) (rest : List UInt8) :
    Takes (fun c => stringBody c.next) (stringText s) s rest := by
  intro p
  have hquote : encodeChar '"' = [34] := rfl
  obtain ⟨q, hq⟩ := stringRest_text s.toList [] rest (p.after 34)
    ((encode (s.toList.flatMap escapeChar) ++ 34 :: rest).length + 1)
    (by rw [List.length_append]; omega)
  refine ⟨q, ?_⟩
  rw [stringText, Text.Utf8.encode_append, Text.Utf8.encode_cons, Text.Utf8.encode_singleton,
    hquote]
  rw [List.nil_append, String.ofList_toList] at hq
  simpa [Cursor.next, stringBody, Text.Utf8.encode] using hq

/-! ## Literals -/

theorem literal_append (ws rest : List UInt8) (p : Position) :
    ∃ q, literal ws ⟨ws ++ rest, p⟩ = .ok ⟨rest, q⟩ := by
  induction ws generalizing p with
  | nil => exact ⟨p, rfl⟩
  | cons w ws ih =>
    obtain ⟨q, hq⟩ := ih (p.after w)
    refine ⟨q, ?_⟩
    simp only [List.cons_append, literal, Cursor.head?, List.head?_cons, if_true]
    exact hq

/-! ## Numbers -/

/-- Whether no number goes on here. -/
def EndsNumber (rest : List UInt8) : Prop :=
  ∀ b, rest.head? = some b → isDigit b = false ∧ b ≠ 46 ∧ b ≠ 69 ∧ b ≠ 101

theorem endsNumber_nil : EndsNumber [] := nofun

/-- A decimal digit is one byte, which is read as that digit. -/
theorem encodeChar_of_isDigit {c : Char} (h : Text.isDigit c = true) :
    ∃ b, encodeChar c = [b] ∧ isDigit b = true ∧ digitOf b = c.toNat - 48 := by
  obtain ⟨hlow, hhigh⟩ := Text.isDigit_iff.1 h
  have hbyte : (byte c.toNat).toNat = c.toNat := Text.Utf8.toNat_byte (by omega)
  refine ⟨byte c.toNat, Text.Utf8.encodeChar_of_lt (by omega), ?_, by rw [digitOf, hbyte]⟩
  rw [isDigit, Bool.and_eq_true, decide_eq_true_eq, decide_eq_true_eq, UInt8.le_iff_toNat_le,
    UInt8.le_iff_toNat_le, hbyte]
  exact ⟨hlow, hhigh⟩

/-- Digits that fit 64 bits are taken into the significand. -/
theorem significand_digits {ds : List Char} (hds : ∀ c ∈ ds, Text.isDigit c = true) {s : Nat}
    (hfits : Nat.ofDigitChars 10 ds s ≤ Text.maxU64) {rest : List UInt8} (hrest : EndsNumber rest)
    (n : Nat) (p : Position) :
    ∃ m q, significand s n (encode ds ++ rest) p = (Nat.ofDigitChars 10 ds s, m, ⟨rest, q⟩) := by
  induction ds generalizing s n p with
  | nil =>
    refine ⟨n, p, ?_⟩
    rw [Nat.ofDigitChars_nil, encode, List.flatMap_nil, List.nil_append]
    cases rest with
    | nil => rfl
    | cons b rest =>
      obtain ⟨hdigit, -⟩ := hrest b rfl
      rw [significand, if_neg (by simp [hdigit])]
  | cons c ds ih =>
    obtain ⟨hc, hds⟩ := List.forall_mem_cons.1 hds
    obtain ⟨b, hbytes, hdigit, hvalue⟩ := encodeChar_of_isDigit hc
    rw [Text.ofDigitChars_cons] at hfits ⊢
    have hstep : s * 10 + digitOf b ≤ Text.maxU64 := by
      rw [hvalue]
      exact Nat.le_trans (Text.le_ofDigitChars ds _) hfits
    rw [Text.Utf8.encode_cons, hbytes, List.append_assoc, List.singleton_append, significand,
      if_pos ⟨hdigit, hstep⟩, hvalue]
    exact ih hds hfits (n + 1) (p.after b)

/-- An integer of 64 bits, signed or unsigned. -/
def FitsWord (n : Int) : Prop := -9223372036854775808 ≤ n ∧ n ≤ 18446744073709551615

/-- An integer part behind which no fraction and no power of ten stands is the number. -/
theorem integerTail_eq {negative : Bool} {s : Nat}
    (hsign : negative = true → s ≠ 0 ∧ s ≤ 9223372036854775808) {rest : List UInt8}
    (hrest : EndsNumber rest) (p : Position) :
    integerTail negative s ⟨rest, p⟩ =
      .ok (.integer (if negative then -(s : Int) else s), ⟨rest, p⟩) := by
  have hend : integerTail negative s ⟨rest, p⟩ =
      if negative then
        if s = 0 ∨ 9223372036854775808 < s then realAt true s 0 ⟨rest, p⟩
        else .ok (.integer (-(s : Int)), ⟨rest, p⟩)
      else .ok (.integer s, ⟨rest, p⟩) := by
    cases rest with
    | nil => rfl
    | cons b rest =>
      obtain ⟨-, hpoint, hcapital, hsmall⟩ := hrest b rfl
      unfold integerTail
      simp only [Cursor.head?, List.head?_cons]
      split
      · rename_i h
        exact absurd (Option.some.inj h) hpoint
      · rename_i h
        exact absurd (Option.some.inj h) hsmall
      · rename_i h
        exact absurd (Option.some.inj h) hcapital
      · rfl
  rw [hend]
  cases negative with
  | false => rfl
  | true =>
    obtain ⟨hzero, hle⟩ := hsign rfl
    rw [if_pos rfl, if_neg (by omega), if_pos rfl]

/-- The digits of a number that fits are read up to their end. -/
theorem unsignedNumber_digits (negative : Bool) (s : Nat)
    (hsign : negative = true → s ≠ 0 ∧ s ≤ 9223372036854775808) (hfits : s ≤ Text.maxU64)
    {rest : List UInt8} (hrest : EndsNumber rest) :
    Takes (unsignedNumber negative) (Text.digits s)
      (.integer (if negative then -(s : Int) else s)) rest := by
  intro p
  by_cases hzero : s = 0
  · subst hzero
    refine ⟨p.after 48, ?_⟩
    rw [← integerTail_eq hsign hrest]
    cases rest with
    | nil => rfl
    | cons b rest =>
      obtain ⟨hdigit, -⟩ := hrest b rfl
      show unsignedNumber negative ⟨48 :: b :: rest, p⟩ = _
      simp [unsignedNumber, Cursor.head?, Cursor.next, hdigit]
  · have hdigits : ∀ c ∈ Text.digits s, Text.isDigit c = true := fun _ => Text.isDigit_of_mem_digits
    have hvalue : Nat.ofDigitChars 10 (Text.digits s) 0 = s := Nat.ofDigitChars_ten_toDigits
    obtain ⟨m, q, hq⟩ := significand_digits hdigits (hvalue.symm ▸ hfits) hrest 0 p
    obtain ⟨c, ds, hhead⟩ := List.exists_cons_of_ne_nil (Text.digits_ne_nil s)
    have hc : Text.isDigit c = true := hdigits c (hhead ▸ List.mem_cons_self)
    obtain ⟨b, hbytes, hdigit, hworth⟩ := encodeChar_of_isDigit hc
    have hnonzero : b ≠ 48 := by
      rintro rfl
      have hworth : 0 = c.toNat - 48 := hworth
      obtain ⟨hlow, -⟩ := Text.isDigit_iff.1 hc
      have hcode : c.toNat = '0'.toNat := show c.toNat = 48 by omega
      have hfirst := Text.head?_digits_ne hzero
      rw [hhead, Char.toNat_inj.1 hcode] at hfirst
      exact hfirst rfl
    refine ⟨q, ?_⟩
    rw [← integerTail_eq hsign hrest]
    rw [hhead, Text.Utf8.encode_cons, hbytes, List.singleton_append, List.cons_append] at hq ⊢
    rw [hhead] at hvalue
    unfold unsignedNumber
    simp only [Cursor.head?, List.head?_cons, if_neg hnonzero, if_pos hdigit, hq, hvalue]
    cases rest with
    | nil => rfl
    | cons d rest =>
      obtain ⟨hend, -⟩ := hrest d rfl
      simp only [List.head?_cons, hend, Bool.false_eq_true, if_false]

theorem ne_of_isDigit {b d : UInt8} (hb : isDigit b = true) (hd : isDigit d = false) : b ≠ d := by
  rintro rfl
  exact absurd hb (by simp [hd])

theorem isSpace_of_isDigit {b : UInt8} (hb : isDigit b = true) : isSpace b = false := by
  simp [isSpace, ne_of_isDigit hb (show isDigit 32 = false from rfl),
    ne_of_isDigit hb (show isDigit 10 = false from rfl),
    ne_of_isDigit hb (show isDigit 9 = false from rfl),
    ne_of_isDigit hb (show isDigit 13 = false from rfl)]

/-! ## Blanks -/

/-- Blanks between the parts of a value. -/
def IsGap (cs : List Char) : Prop := ∀ c ∈ cs, c ∈ [' ', '\n', '\t', '\r']

/-- A gap is skipped. -/
theorem skipSpace_gap {gap : List Char} (hgap : IsGap gap) {b : UInt8} (hb : isSpace b = false)
    (rest : List UInt8) (p : Position) :
    ∃ q, skipSpace ⟨encode gap ++ b :: rest, p⟩ = ⟨b :: rest, q⟩ := by
  have hblank : ∀ c ∈ [' ', '\n', '\t', '\r'], ∃ d, encodeChar c = [d] ∧ isSpace d = true := by
    simp only [List.forall_mem_cons]
    exact ⟨⟨32, rfl, rfl⟩, ⟨10, rfl, rfl⟩, ⟨9, rfl, rfl⟩, ⟨13, rfl, rfl⟩, nofun⟩
  induction gap generalizing p with
  | nil =>
    refine ⟨p, ?_⟩
    show Cursor.dropWhileFrom isSpace (b :: rest) p = _
    rw [Cursor.dropWhileFrom, if_neg (by simp [hb])]
  | cons c gap ih =>
    obtain ⟨hc, hgap⟩ := List.forall_mem_cons.1 hgap
    obtain ⟨d, hbytes, hd⟩ := hblank c hc
    obtain ⟨q, hq⟩ := ih hgap (p.after d)
    refine ⟨q, ?_⟩
    rw [Text.Utf8.encode_cons, hbytes, List.append_assoc, List.singleton_append, ← hq]
    show Cursor.dropWhileFrom isSpace (d :: _) p = _
    rw [Cursor.dropWhileFrom, if_pos hd]
    rfl

theorem skipSpace_cons {b : UInt8} (hb : isSpace b = false) (rest : List UInt8) (p : Position) :
    skipSpace ⟨b :: rest, p⟩ = ⟨b :: rest, p⟩ := by
  show Cursor.dropWhileFrom isSpace (b :: rest) p = _
  rw [Cursor.dropWhileFrom, if_neg (by simp [hb])]

theorem endsNumber_of_mem {b : UInt8} (h : b ∈ [32, 10, 9, 13, 44, 93, 125]) (rest : List UInt8) :
    EndsNumber (b :: rest) := by
  rintro d hd
  rw [List.head?_cons, Option.some.injEq] at hd
  subst hd
  simp only [List.mem_cons, List.not_mem_nil, or_false] at h
  rcases h with rfl | rfl | rfl | rfl | rfl | rfl | rfl <;> decide

theorem endsNumber_gap {gap : List Char} (hgap : IsGap gap) {rest : List UInt8}
    (hrest : EndsNumber rest) : EndsNumber (encode gap ++ rest) := by
  cases gap with
  | nil => exact hrest
  | cons c gap =>
    obtain ⟨hc, -⟩ := List.forall_mem_cons.1 hgap
    simp only [List.mem_cons, List.not_mem_nil, or_false] at hc
    rcases hc with rfl | rfl | rfl | rfl <;> exact endsNumber_of_mem (by decide) _

end Courier.Json
