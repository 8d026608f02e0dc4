import Courier.Json.Parser
import Courier.Proofs.Result
import Courier.Proofs.Transcoding

/-!
# What a reader passes over is text

The reader of JSON goes over bytes, and the only place where it takes bytes that are not ASCII is
within a string.  What it passes over there is text as well: the string is, and an escape stands for
a whole character, so that no character can begin before an escape and end behind it.

* `Cursor.TextTo` — what lies between two places is a text.
* `Yields` — what a reader that succeeds gives, and that it passes over a text.
* `passesText_unsignedNumber`, `passesText_escape` — numbers and escapes are ASCII.
* `stringRest_spec` — **one string**: the bytes passed over are a text because the bytes for which
  they stand are.
-/

namespace Courier.Json

open Result (bind_eq_ok_iff)
open Text.Utf8 (IsText isText_nil isText_singleton)

/-- Whether what lies between two places is a text. -/
def Cursor.TextTo (c c' : Cursor) : Prop := ∃ used, c.rest = used ++ c'.rest ∧ IsText used

theorem Cursor.rest_eq_cons {c : Cursor} {b : UInt8} (h : c.head? = some b) :
    c.rest = b :: c.next.rest := by
  obtain ⟨bs, p⟩ := c
  cases bs with
  | nil => cases h
  | cons d bs =>
    cases h
    rfl

namespace Cursor.TextTo

theorem refl (c : Cursor) : c.TextTo c := ⟨[], rfl, isText_nil⟩

theorem trans {c c' c'' : Cursor} (h : c.TextTo c') (h' : c'.TextTo c'') : c.TextTo c'' := by
  obtain ⟨used, hused, htext⟩ := h
  obtain ⟨used', hused', htext'⟩ := h'
  exact ⟨used ++ used', by rw [hused, hused', List.append_assoc], htext.append htext'⟩

/-- A byte of ASCII is passed. -/
theorem cons {b : UInt8} (h : b.toNat < 0x80) (bs : List UInt8) (p p' : Position) :
    TextTo ⟨b :: bs, p⟩ ⟨bs, p'⟩ := ⟨[b], rfl, isText_singleton h⟩

theorem next {c : Cursor} {b : UInt8} (h : c.head? = some b) (hb : b.toNat < 0x80) :
    c.TextTo c.next := ⟨[b], rest_eq_cons h, isText_singleton hb⟩

end Cursor.TextTo

open Cursor (TextTo)

theorem lt_of_isDigit {b : UInt8} (h : isDigit b = true) : b.toNat < 0x80 := by
  rw [isDigit, Bool.and_eq_true, decide_eq_true_eq, decide_eq_true_eq] at h
  exact Nat.lt_of_le_of_lt (UInt8.le_iff_toNat_le.1 h.2) (by decide)

theorem lt_of_isSpace {b : UInt8} (h : isSpace b = true) : b.toNat < 0x80 := by
  simp only [isSpace, Bool.or_eq_true, beq_iff_eq] at h
  rcases h with ((rfl | rfl) | rfl) | rfl <;> decide

theorem textTo_dropWhile {p : UInt8 → Bool} (hp : ∀ b, p b = true → b.toNat < 0x80) (c : Cursor) :
    c.TextTo (c.dropWhile p) := by
  obtain ⟨bs, at'⟩ := c
  show TextTo ⟨bs, at'⟩ (Cursor.dropWhileFrom p bs at')
  induction bs generalizing at' with
  | nil => exact .refl _
  | cons b bs ih =>
    rw [Cursor.dropWhileFrom]
    split
    · rename_i hb
      exact (TextTo.cons (hp b hb) bs at' _).trans (ih _)
    · exact .refl _

theorem textTo_skipSpace (c : Cursor) : c.TextTo (skipSpace c) :=
  textTo_dropWhile (fun _ => lt_of_isSpace) c

/-- Blanks and a byte of ASCII behind them. -/
theorem textTo_next_skipSpace {c : Cursor} {b : UInt8} (h : (skipSpace c).head? = some b)
    (hb : b.toNat < 0x80) : c.TextTo (skipSpace c).next :=
  (textTo_skipSpace c).trans (.next h hb)

/-! ## Numbers -/

theorem textTo_significand (s n : Nat) (bs : List UInt8) (p : Position) :
    TextTo ⟨bs, p⟩ (significand s n bs p).2.2 := by
  induction bs generalizing s n p with
  | nil => exact .refl _
  | cons b bs ih =>
    rw [significand]
    split
    · rename_i hb
      exact (TextTo.cons (lt_of_isDigit hb.1) bs p _).trans (ih _ _ _)
    · exact .refl _

theorem textTo_skipDigits (n : Nat) (bs : List UInt8) (p : Position) :
    TextTo ⟨bs, p⟩ (skipDigits n bs p).2 := by
  induction bs generalizing n p with
  | nil => exact .refl _
  | cons b bs ih =>
    rw [skipDigits]
    split
    · rename_i hb
      exact (TextTo.cons (lt_of_isDigit hb) bs p _).trans (ih _ _)
    · exact .refl _

/-! ## What readers give -/

/-- Whether a reader that succeeds passes over a text and gives what has a property. -/
def Yields {α : Type} (holds : α → Prop) (c : Cursor) (x : Except Error (Step α)) : Prop :=
  ∀ a c', x = .ok (a, c') → c.TextTo c' ∧ holds a

/-- Whether a reader that succeeds passes over a text. -/
abbrev PassesText {α : Type} (c : Cursor) (x : Except Error (Step α)) : Prop :=
  Yields (fun _ => True) c x

section
variable {α β : Type} {holds : α → Prop}

theorem yields_error (c : Cursor) (e : Error) : Yields holds c (.error e) := by
  intro a c' h
  cases h

theorem yields_ok {a : α} (ha : holds a) {c c' : Cursor} (h : c.TextTo c') :
    Yields holds c (.ok (a, c')) := by
  intro a' c'' hok
  cases hok
  exact ⟨h, ha⟩

theorem passesText_ok (a : α) {c c' : Cursor} (h : c.TextTo c') : PassesText c (.ok (a, c')) :=
  yields_ok trivial h

theorem Yields.after {c c' : Cursor} {x : Except Error (Step α)} (h : Yields holds c' x)
    (hc : c.TextTo c') : Yields holds c x := fun a c'' hx =>
  ⟨hc.trans (h a c'' hx).1, (h a c'' hx).2⟩

theorem Yields.bind {holds' : β → Prop} {c : Cursor} {x : Except Error (Step α)}
    {f : Step α → Except Error (Step β)} (h : Yields holds c x)
    (hf : ∀ a c', holds a → Yields holds' c' (f (a, c'))) : Yields holds' c (x >>= f) := by
  intro b c'' hb
  obtain ⟨⟨a, c'⟩, ha, hfa⟩ := bind_eq_ok_iff.1 hb
  exact (hf a c' (h a c' ha).2).after (h a c' ha).1 b c'' hfa

/-- A step that gives nothing. -/
theorem Yields.bind_cursor {holds' : β → Prop} {c : Cursor} {x : Except Error Cursor}
    {f : Cursor → Except Error (Step β)} (h : ∀ c', x = .ok c' → c.TextTo c')
    (hf : ∀ c', Yields holds' c' (f c')) : Yields holds' c (x >>= f) := by
  intro b c'' hb
  obtain ⟨c', hc', hfc⟩ := bind_eq_ok_iff.1 hb
  exact (hf c').after (h c' hc') b c'' hfc

end

theorem passesText_realAt (negative : Bool) (s : Nat) (e : Int) (c : Cursor) :
    PassesText c (realAt negative s e c) := by
  unfold realAt
  split
  · exact passesText_ok _ (.refl c)
  · exact yields_error c _

theorem passesText_exponentDigits (negative : Bool) (s : Nat) (start : Int) (down : Bool) (e : Nat)
    (bs : List UInt8) (p : Position) :
    PassesText ⟨bs, p⟩ (exponentDigits negative s start down e bs p) := by
  induction bs generalizing e p with
  | nil => exact passesText_realAt _ _ _ _
  | cons b bs ih =>
    rw [exponentDigits]
    split
    · rename_i hb
      have hnext : TextTo ⟨b :: bs, p⟩ ⟨bs, p.after b⟩ := .cons (lt_of_isDigit hb) bs p _
      simp only
      split
      · exact (ih _ _).after hnext
      · split
        · exact yields_error _ _
        · exact passesText_ok _ (hnext.trans (textTo_skipDigits 0 bs _))
    · exact passesText_realAt _ _ _ _

theorem passesText_exponentPart (negative : Bool) (s : Nat) (start : Int) {c : Cursor} {b : UInt8}
    (h : c.head? = some b) (hb : b.toNat < 0x80) :
    PassesText c (exponentPart negative s start c) := by
  have hnext : c.TextTo c.next := .next h hb
  unfold exponentPart
  simp only
  split
  · exact yields_error _ _
  · rename_i d hd
    split
    · rename_i hdigit
      refine (passesText_exponentDigits _ _ _ _ _ _ _).after
        (TextTo.trans ?_ (.next hd (lt_of_isDigit hdigit)))
      split
      · rename_i hsign
        exact hnext.trans (.next hsign (by decide))
      · rename_i hsign
        exact hnext.trans (.next hsign (by decide))
      · exact hnext
    · exact yields_error _ _

theorem passesText_realTail (negative : Bool) (s : Nat) (e : Int) (c : Cursor) :
    PassesText c (realTail negative s e c) := by
  unfold realTail
  split
  · rename_i h
    exact passesText_exponentPart _ _ _ h (by decide)
  · rename_i h
    exact passesText_exponentPart _ _ _ h (by decide)
  · exact passesText_realAt _ _ _ _

theorem passesText_fractionPart (negative : Bool) (s : Nat) (start : Int) {c : Cursor} {b : UInt8}
    (h : c.head? = some b) (hb : b.toNat < 0x80) :
    PassesText c (fractionPart negative s start c) := by
  have hdigits : c.TextTo (significand s 0 c.next.rest c.next.position).2.2 :=
    (TextTo.next h hb).trans (textTo_significand _ _ _ _)
  unfold fractionPart
  simp only
  split
  · split
    · exact (passesText_realTail _ _ _ _).after (hdigits.trans (textTo_skipDigits _ _ _))
    · split
      · exact yields_error _ _
      · exact (passesText_realTail _ _ _ _).after hdigits
  · split
    · exact yields_error _ _
    · exact (passesText_realTail _ _ _ _).after hdigits

theorem passesText_integerTail (negative : Bool) (s : Nat) (c : Cursor) :
    PassesText c (integerTail negative s c) := by
  unfold integerTail
  split
  · rename_i h
    exact passesText_fractionPart _ _ _ h (by decide)
  · rename_i h
    exact passesText_exponentPart _ _ _ h (by decide)
  · rename_i h
    exact passesText_exponentPart _ _ _ h (by decide)
  · split
    · split
      · exact passesText_realAt _ _ _ _
      · exact passesText_ok _ (.refl _)
    · exact passesText_ok _ (.refl _)

/-- **A number** is a text. -/
theorem passesText_unsignedNumber (negative : Bool) (c : Cursor) :
    PassesText c (unsignedNumber negative c) := by
  unfold unsignedNumber
  split
  · exact yields_error _ _
  · rename_i b hb
    split
    · rename_i hzero
      have hnext : c.TextTo c.next := .next hb (by rw [hzero]; decide)
      split
      · split
        · exact yields_error _ _
        · exact (passesText_integerTail _ _ _).after hnext
      · exact (passesText_integerTail _ _ _).after hnext
    · have hdigits : c.TextTo (significand 0 0 c.rest c.position).2.2 :=
        textTo_significand _ _ _ _
      split
      · simp only
        split
        · split
          · have hmore := hdigits.trans (textTo_skipDigits 0 _ _)
            split
            · rename_i hpoint
              exact (passesText_fractionPart _ _ _ hpoint (by decide)).after hmore
            · exact (passesText_realTail _ _ _ _).after hmore
          · exact (passesText_integerTail _ _ _).after hdigits
        · exact (passesText_integerTail _ _ _).after hdigits
      · exact yields_error _ _

/-! ## Escapes -/

theorem lt_of_hexOf? {b : UInt8} {n : Nat} (h : hexOf? b = some n) : b.toNat < 0x80 := by
  simp only [hexOf?] at h
  split at h
  · omega
  · split at h
    · omega
    · split at h
      · omega
      · cases h

theorem passesText_hex4 (c : Cursor) : PassesText c (hex4 c) := by
  obtain ⟨bs, p⟩ := c
  unfold hex4
  split
  · rename_i x y z w rest hbytes
    obtain rfl : bs = x :: y :: z :: w :: rest := hbytes
    simp only
    split
    · rename_i hx hy hz hw
      have hfirst := TextTo.next (c := ⟨x :: y :: z :: w :: rest, p⟩) rfl (lt_of_hexOf? hx)
      have hsecond := hfirst.trans (.next rfl (lt_of_hexOf? hy))
      have hthird := hsecond.trans (.next rfl (lt_of_hexOf? hz))
      exact passesText_ok _ (hthird.trans (.next rfl (lt_of_hexOf? hw)))
    · exact yields_error _ _
  · exact yields_error _ _

theorem textTo_pairByte {b : UInt8} (hb : b.toNat < 0x80) {c c' : Cursor}
    (h : pairByte b c = .ok c') : c.TextTo c' := by
  unfold pairByte at h
  split at h
  · cases h
  · rename_i x hx
    split at h
    · rename_i heq
      cases h
      exact .next hx (heq ▸ hb)
    · cases h

theorem passesText_numberedEscape (c : Cursor) : PassesText c (numberedEscape c) := by
  unfold numberedEscape
  refine (passesText_hex4 c).bind fun n c _ => ?_
  simp only
  split
  · exact yields_error _ _
  · split
    · exact passesText_ok _ (.refl _)
    · refine .bind_cursor (fun _ => textTo_pairByte (by decide)) fun c => ?_
      refine .bind_cursor (fun _ => textTo_pairByte (by decide)) fun c => ?_
      refine (passesText_hex4 c).bind fun m c _ => ?_
      simp only
      split
      · exact yields_error _ _
      · exact passesText_ok _ (.refl _)

/-- **An escape** is a text. -/
theorem passesText_escape (c : Cursor) : PassesText c (escape c) := by
  have hone : ∀ {b : UInt8}, c.head? = some b → b.toNat < 0x80 → ∀ x : Char,
      PassesText c (.ok (x, c.next)) := fun h hb x => passesText_ok x (.next h hb)
  unfold escape
  split
  case h_1 => exact yields_error _ _
  case h_10 h => exact (passesText_numberedEscape _).after (.next h (by decide))
  case h_11 => exact yields_error _ _
  all_goals exact hone ‹_› (by decide) _

/-! ## Strings -/

/-- What is read of a string: the bytes that are passed over are those of a text if the bytes for
which they stand are, behind any bytes before. -/
theorem stringRest_spec {fuel : Nat} {seen : List UInt8} {c c' : Cursor} {s : String}
    (h : stringRest fuel seen c = .ok (s, c')) :
    ∃ used meant, c.rest = used ++ c'.rest ∧ seen.reverse ++ meant = Text.Utf8.bytesOf s ∧
      ∀ before, IsText (before ++ meant) → IsText (before ++ used) := by
  induction fuel generalizing seen c with
  | zero => cases h
  | succ fuel ih =>
    rw [stringRest] at h
    split at h
    · cases h
    · rename_i hquote
      split at h
      · rename_i t ht
        cases h
        refine ⟨[34], [], Cursor.rest_eq_cons hquote, ?_, fun before hbefore => ?_⟩
        · rw [List.append_nil]
          exact Text.Utf8.string?_eq_some_iff.1 ht
        · rw [List.append_nil] at hbefore
          exact hbefore.append (isText_singleton (by decide))
      · cases h
    · rename_i hslash
      obtain ⟨⟨x, c₁⟩, hescape, h⟩ := bind_eq_ok_iff.1 h
      obtain ⟨escaped, hescaped, htext⟩ :=
        (TextTo.next hslash (by decide)).trans (passesText_escape _ x c₁ hescape).1
      obtain ⟨used, meant, hused, hmeant, hkeeps⟩ := ih h
      refine ⟨escaped ++ used, Text.Utf8.encodeChar x ++ meant, ?_, ?_, fun before hbefore => ?_⟩
      · rw [hescaped, hused, List.append_assoc]
      · rw [← hmeant, List.reverse_append, List.reverse_reverse, List.append_assoc]
      · -- an escape stands for a whole character, so the bytes on its two sides are texts
        obtain ⟨hfront, hback⟩ := hbefore.split
        exact hfront.append (htext.append (hkeeps [] hback))
    · rename_i b _ _ hb
      split at h
      · cases h
      · obtain ⟨used, meant, hused, hmeant, hkeeps⟩ := ih h
        refine ⟨b :: used, b :: meant, ?_, ?_, fun before hbefore => ?_⟩
        · rw [Cursor.rest_eq_cons hb, hused, List.cons_append]
        · rw [← hmeant, List.reverse_cons, List.append_assoc, List.singleton_append]
        · rw [List.append_cons] at hbefore ⊢
          exact hkeeps (before ++ [b]) hbefore

/-- **A string** is a text. -/
theorem passesText_stringBody (c : Cursor) : PassesText c (stringBody c) := by
  intro s c' h
  obtain ⟨used, meant, hused, hmeant, hkeeps⟩ := stringRest_spec h
  exact ⟨⟨used, hused, hkeeps [] ⟨s.toList, hmeant⟩⟩, trivial⟩

/-! ## Literals and colons -/

theorem textTo_literal {ws : List UInt8} (hws : ws.all (·.toNat < 0x80) = true) {c c' : Cursor}
    (h : literal ws c = .ok c') : c.TextTo c' := by
  induction ws generalizing c with
  | nil =>
    cases h
    exact .refl _
  | cons w ws ih =>
    rw [List.all_cons, Bool.and_eq_true, decide_eq_true_eq] at hws
    obtain ⟨hw, hws⟩ := hws
    rw [literal] at h
    split at h
    · cases h
    · rename_i b hb
      split at h
      · rename_i heq
        exact (TextTo.next hb (heq ▸ hw)).trans (ih hws h)
      · cases h

theorem textTo_colon {c c' : Cursor} (h : colon c = .ok c') : c.TextTo c' := by
  unfold colon at h
  simp only at h
  split at h
  · rename_i hcolon
    cases h
    exact textTo_next_skipSpace hcolon (by decide)
  · cases h
  · cases h

end Courier.Json
