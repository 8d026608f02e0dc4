import Courier.Proofs.Transcoding

/-!
# Bytes that are not text

Where no character stands, the maximal ill-formed part is what a character could begin with, taken
as far as it goes, or a single byte if no character begins with it.  The reader that accepts all
bytes puts one U+FFFD in the place of each such part.

* `Text.Utf8.IllFormed` — a maximal ill-formed part; `Text.Utf8.IllFormed.eq`: there is only one.
* `Text.Utf8.Begun` — a character has begun and these bytes of it have been read.
* `Text.Utf8.exists_unit` — **one step**: the reader takes a character or a maximal ill-formed part.
* `Text.Utf8.replaced_iff` — **the reader replaces the maximal ill-formed parts** and nothing else.
-/

namespace Courier.Text.Utf8

/-! ## Ill-formed parts -/

/-- A maximal ill-formed part and what is behind it: no character stands here, a character could
begin with the part or it is a single byte, and no character begins with more than the part. -/
structure IllFormed (part rest : List UInt8) : Prop where
  nonempty : part ≠ []
  noChar : ∀ c, ¬encodeChar c <+: part ++ rest
  begins : part.length = 1 ∨ ∃ c, part <+: encodeChar c
  longest : ∀ longer, longer <+: part ++ rest → part.length < longer.length →
    ∀ c, ¬longer <+: encodeChar c

/-- Of two ill-formed parts at one place neither is longer. -/
theorem IllFormed.length_le {part part' rest rest' : List UInt8} (h : IllFormed part rest)
    (h' : IllFormed part' rest') (heq : part ++ rest = part' ++ rest') :
    part'.length ≤ part.length := by
  refine Nat.le_of_not_lt fun hlt => ?_
  have hpart : part.length ≠ 0 := fun hzero => h.nonempty (List.length_eq_zero_iff.1 hzero)
  rcases h'.begins with hone | ⟨c, hc⟩
  · omega
  · exact h.longest part' (heq ▸ List.prefix_append part' rest') hlt c hc

/-- At one place there is only one ill-formed part. -/
theorem IllFormed.eq {part part' rest rest' : List UInt8} (h : IllFormed part rest)
    (h' : IllFormed part' rest') (heq : part ++ rest = part' ++ rest') :
    part = part' ∧ rest = rest' :=
  List.append_inj heq (Nat.le_antisymm (h'.length_le h heq.symm) (h.length_le h' heq))

/-! ## Characters that have begun -/

/-- After these bytes a character has begun, and `p` tells how it may go on. -/
structure Begun (done : List UInt8) (p : Pending) : Prop where
  nonempty : done ≠ []
  reads : ∀ rest, unitsFrom none (done ++ rest) = unitsFrom (some p) rest
  bounds : p.low ≤ p.high

/-- The first byte of several. -/
theorem begun_start {b : UInt8} {p : Pending} (h : start b = .open p) : Begun [b] p := by
  refine ⟨List.cons_ne_nil b [], fun rest => ?_, ?_⟩
  · rw [List.singleton_append, unitsFrom, h]
  · rcases start_cases b with ⟨-, hb⟩ | hb | ⟨m, hlow, hhigh, rfl⟩ | ⟨m, hm, rfl⟩ | ⟨m, hm, rfl⟩
    · rw [hb] at h
      cases h
    · rw [hb] at h
      cases h
    · rw [start_two hlow hhigh] at h
      cases h
      show (0x80 : UInt8) ≤ 0xBF
      decide
    · rw [start_three hm] at h
      cases h
      show (if m = 0 then (0xA0 : UInt8) else 0x80) ≤ if m = 13 then 0x9F else 0xBF
      split <;> split <;> first | decide | omega
    · rw [start_four hm] at h
      cases h
      show (if m = 0 then (0x90 : UInt8) else 0x80) ≤ if m = 4 then 0x8F else 0xBF
      split <;> split <;> first | decide | omega

/-- The last byte of a character makes it complete. -/
theorem Begun.complete {done : List UInt8} {p : Pending} (h : Begun done p) {b : UInt8}
    (hb : p.low ≤ b ∧ b ≤ p.high) (hlast : p.left ≤ 1) :
    done ++ [b] = encodeChar (Char.ofNat (p.value * 64 + b.toNat % 64)) := by
  rw [← encode_singleton]
  refine eq_encode_of_units ?_
  rw [h.reads, unitsFrom, if_pos hb]
  simp only [if_pos hlast]
  rfl

/-- A byte before the last one. -/
theorem Begun.next {done : List UInt8} {p : Pending} (h : Begun done p) {b : UInt8}
    (hb : p.low ≤ b ∧ b ≤ p.high) (hmore : ¬p.left ≤ 1) :
    Begun (done ++ [b]) ⟨p.left - 1, p.value * 64 + b.toNat % 64, 0x80, 0xBF⟩ := by
  refine ⟨List.append_ne_nil_of_right_ne_nil done (List.cons_ne_nil b []), fun rest => ?_, ?_⟩
  · rw [List.append_assoc, h.reads, List.singleton_append, unitsFrom, if_pos hb]
    simp only [if_neg hmore]
  · show (0x80 : UInt8) ≤ 0xBF
    decide

/-- Some character begins so. -/
theorem Begun.exists_char {done : List UInt8} {p : Pending} (h : Begun done p) :
    ∃ c, done <+: encodeChar c := by
  induction hleft : p.left generalizing done p with
  | zero =>
    have hdone := h.complete ⟨UInt8.le_refl _, h.bounds⟩ (by omega)
    exact ⟨_, hdone ▸ List.prefix_append done [p.low]⟩
  | succ left ih =>
    by_cases hlast : p.left ≤ 1
    · have hdone := h.complete ⟨UInt8.le_refl _, h.bounds⟩ hlast
      exact ⟨_, hdone ▸ List.prefix_append done [p.low]⟩
    · obtain ⟨c, hc⟩ := ih (h.next ⟨UInt8.le_refl _, h.bounds⟩ hlast) (by simp only; omega)
      exact ⟨c, (List.prefix_append done [p.low]).trans hc⟩

/-- What begins with a character is not read as ill-formed. -/
theorem not_prefix_of_units {bs : List UInt8} {us : List (Option Char)}
    (h : unitsFrom none bs = none :: us) (c : Char) : ¬encodeChar c <+: bs := by
  rintro ⟨rest, rfl⟩
  rw [unitsFrom_encodeChar] at h
  cases h

/-- A part is ill-formed if it is read so whatever follows that begins as the rest does. -/
theorem illFormed_of_units {part rest : List UInt8} (hpart : part ≠ [])
    (hbegins : part.length = 1 ∨ ∃ c, part <+: encodeChar c)
    (h : ∀ more : List UInt8, more.head? = rest.head? →
      ∃ us, unitsFrom none (part ++ more) = none :: us) : IllFormed part rest := by
  have hnoChar : ∀ more : List UInt8, more.head? = rest.head? →
      ∀ c, ¬encodeChar c <+: part ++ more := by
    intro more hmore c
    obtain ⟨us, hunits⟩ := h more hmore
    exact not_prefix_of_units hunits c
  refine ⟨hpart, hnoChar rest rfl, hbegins, ?_⟩
  rintro longer hprefix hlength c ⟨tail, htail⟩
  obtain ⟨more, rfl⟩ : part <+: longer :=
    List.prefix_of_prefix_length_le (List.prefix_append part rest) hprefix (Nat.le_of_lt hlength)
  obtain ⟨behind, rfl⟩ := (List.prefix_append_right_inj part).1 hprefix
  -- a character that begins with `longer` would stand where `more` goes on as the rest does
  have hhead : (more ++ tail).head? = (more ++ behind).head? := by
    cases more with
    | nil => exact absurd hlength (by simp)
    | cons b more => rfl
  refine hnoChar (more ++ tail) hhead c ⟨[], ?_⟩
  rw [List.append_nil, ← htail, List.append_assoc]

/-- Whether a character that has begun does not go on here. -/
def Pending.Breaks (p : Pending) (rest : List UInt8) : Prop :=
  ∀ b, rest.head? = some b → ¬(p.low ≤ b ∧ b ≤ p.high)

theorem Pending.Breaks.unitsFrom_eq {p : Pending} {rest : List UInt8} (h : p.Breaks rest) :
    unitsFrom (some p) rest = none :: unitsFrom none rest := by
  cases rest with
  | nil => rfl
  | cons b bs =>
    simp only [unitsFrom, if_neg (h b rfl)]
    cases start b <;> rfl

/-- Where the bytes of a character break off, the part before is ill-formed. -/
theorem Begun.illFormed {done : List UInt8} {p : Pending} (h : Begun done p) {rest : List UInt8}
    (hrest : p.Breaks rest) : IllFormed done rest := by
  refine illFormed_of_units h.nonempty (Or.inr h.exists_char) fun more hmore => ?_
  have hbreaks : p.Breaks more := fun b hb => hrest b (hmore ▸ hb)
  exact ⟨_, (h.reads more).trans hbreaks.unitsFrom_eq⟩

/-- When a character has begun, it goes on to its end, or what there is of it is ill-formed. -/
theorem Begun.exists_unit {done : List UInt8} {p : Pending} (h : Begun done p)
    (bs : List UInt8) :
    (∃ c rest, done ++ bs = encodeChar c ++ rest ∧
        unitsFrom (some p) bs = some c :: unitsFrom none rest) ∨
      ∃ part rest, done ++ bs = part ++ rest ∧ IllFormed part rest ∧
        unitsFrom (some p) bs = none :: unitsFrom none rest := by
  induction bs generalizing done p with
  | nil =>
    have hbreaks : p.Breaks [] := by
      intro b hb
      cases hb
    exact Or.inr ⟨done, [], rfl, h.illFormed hbreaks, hbreaks.unitsFrom_eq⟩
  | cons b bs ih =>
    by_cases hb : p.low ≤ b ∧ b ≤ p.high
    · by_cases hlast : p.left ≤ 1
      · refine Or.inl ⟨Char.ofNat (p.value * 64 + b.toNat % 64), bs, ?_, ?_⟩
        · rw [← h.complete hb hlast, List.append_assoc, List.singleton_append]
        · rw [unitsFrom, if_pos hb]
          simp only [if_pos hlast]
      · have hunits : unitsFrom (some p) (b :: bs) =
            unitsFrom (some ⟨p.left - 1, p.value * 64 + b.toNat % 64, 0x80, 0xBF⟩) bs := by
          rw [unitsFrom, if_pos hb]
          simp only [if_neg hlast]
        rw [hunits, List.append_cons]
        exact ih (h.next hb hlast)
    · have hbreaks : p.Breaks (b :: bs) := by
        intro d hd
        cases hd
        exact hb
      exact Or.inr ⟨done, b :: bs, rfl, h.illFormed hbreaks, hbreaks.unitsFrom_eq⟩

/-- A byte with which no character begins is ill-formed on its own. -/
theorem illFormed_of_bad {b : UInt8} (h : start b = .bad) (rest : List UInt8) :
    IllFormed [b] rest :=
  illFormed_of_units (List.cons_ne_nil b []) (Or.inl rfl) fun more _ =>
    ⟨unitsFrom none more, by rw [List.singleton_append, unitsFrom, h]⟩

/-- **One step**: a character is read, or a maximal ill-formed part. -/
theorem exists_unit (b : UInt8) (bs : List UInt8) :
    (∃ c rest, b :: bs = encodeChar c ++ rest ∧
        unitsFrom none (b :: bs) = some c :: unitsFrom none rest) ∨
      ∃ part rest, b :: bs = part ++ rest ∧ IllFormed part rest ∧
        unitsFrom none (b :: bs) = none :: unitsFrom none rest := by
  cases hb : start b with
  | char c =>
    have hone : [b] = encodeChar c := by
      rw [← encode_singleton]
      refine eq_encode_of_units ?_
      rw [unitsFrom, hb]
      rfl
    refine Or.inl ⟨c, bs, by rw [← hone, List.singleton_append], ?_⟩
    rw [unitsFrom, hb]
  | bad =>
    refine Or.inr ⟨[b], bs, rfl, illFormed_of_bad hb bs, ?_⟩
    rw [unitsFrom, hb]
  | «open» p =>
    have hbegun := begun_start hb
    rw [← List.singleton_append, hbegun.reads]
    exact hbegun.exists_unit bs

/-! ## Replacement -/

/-- Each character stands for itself, and each maximal ill-formed part is replaced by U+FFFD. -/
inductive Replaced : List UInt8 → List Char → Prop where
  | nil : Replaced [] []
  | char (c : Char) {rest : List UInt8} {cs : List Char} (h : Replaced rest cs) :
    Replaced (encodeChar c ++ rest) (c :: cs)
  | part {part rest : List UInt8} {cs : List Char} (hpart : IllFormed part rest)
    (h : Replaced rest cs) : Replaced (part ++ rest) ('\uFFFD' :: cs)

theorem decodeLossy_of_units {bs rest : List UInt8} {u : Option Char}
    (h : unitsFrom none bs = u :: unitsFrom none rest) :
    decodeLossy bs = u.getD '\uFFFD' :: decodeLossy rest := by
  rw [decodeLossy, units, h]
  rfl

theorem encodeChar_ne_nil (c : Char) : encodeChar c ≠ [] := by
  intro hnil
  have hself := unitsFrom_encodeChar c []
  rw [hnil] at hself
  cases hself

theorem replaced_decodeLossy (bs : List UInt8) : Replaced bs (decodeLossy bs) := by
  induction hlength : bs.length using Nat.strongRecOn generalizing bs with
  | ind length ih =>
    have hshorter : ∀ {part rest : List UInt8}, part ≠ [] → bs = part ++ rest →
        Replaced rest (decodeLossy rest) := by
      rintro part rest hpart rfl
      refine ih rest.length ?_ rest rfl
      rw [← hlength, List.length_append]
      exact Nat.lt_add_of_pos_left (List.length_pos_iff.2 hpart)
    cases bs with
    | nil => exact .nil
    | cons b bs =>
      rcases exists_unit b bs with ⟨c, rest, hbytes, hunits⟩ | ⟨part, rest, hbytes, hpart, hunits⟩
      · rw [decodeLossy_of_units hunits, hbytes]
        exact .char c (hshorter (encodeChar_ne_nil c) hbytes)
      · rw [decodeLossy_of_units hunits, hbytes]
        exact .part hpart (hshorter hpart.nonempty hbytes)

/-- A maximal ill-formed part is read as one. -/
theorem IllFormed.unitsFrom_eq {part rest : List UInt8} (h : IllFormed part rest) :
    unitsFrom none (part ++ rest) = none :: unitsFrom none rest := by
  obtain ⟨b, bs, hpart⟩ := List.exists_cons_of_ne_nil h.nonempty
  have hcons : part ++ rest = b :: (bs ++ rest) := by rw [hpart, List.cons_append]
  rcases exists_unit b (bs ++ rest) with ⟨c, behind, hbytes, -⟩ | ⟨part', rest', hbytes, h', hunits⟩
  · exact absurd ⟨behind, hbytes.symm.trans hcons.symm⟩ (h.noChar c)
  · obtain ⟨-, rfl⟩ := h.eq h' (hcons.trans hbytes)
    rw [hcons]
    exact hunits

/-- **The reader replaces the maximal ill-formed parts**, and there is no other way to do so. -/
theorem replaced_iff {bs : List UInt8} {cs : List Char} :
    Replaced bs cs ↔ cs = decodeLossy bs := by
  constructor
  · intro h
    induction h with
    | nil => rfl
    | char c h ih => rw [ih, decodeLossy_of_units (unitsFrom_encodeChar c _), Option.getD_some]
    | part hpart h ih => rw [ih, decodeLossy_of_units hpart.unitsFrom_eq, Option.getD_none]
  · rintro rfl
    exact replaced_decodeLossy bs

end Courier.Text.Utf8
