import Courier.Text.Utf8

/-!
# Text as bytes and back

Every text is read back from the bytes that it was written as.  The first byte of a character says
how many are to follow and, where forms would be overlong, surrogates or too great, between which
bounds the next one lies; the bytes that writing gives keep to these bounds, and bytes that keep to
them are the bytes of a text.

* `Text.Utf8.unitsFrom_encodeChar` — the bytes of one character are read as that character.
* `Text.Utf8.decode?_encode`, `Text.Utf8.decodeLossy_encode` — **a written text is read back**, and
  nothing in it is replaced.
* `Text.Utf8.decode?_eq_some_iff` — **only written texts are read**: a text has one form in bytes.
* `Text.Utf8.IsText.split` — **a text cut before and behind a character** gives two texts.
-/

namespace Courier.Text.Utf8

/-! ## Bytes -/

theorem toNat_byte {n : Nat} (h : n < 256) : (byte n).toNat = n := UInt8.toNat_ofNat_of_lt' h

/-- The only byte of a character. -/
theorem start_one {n : Nat} (h : n < 0x80) : start (byte n) = .char (Char.ofNat n) := by
  simp only [start, toNat_byte (show n < 256 by omega), h, if_true]

/-- The first of two bytes. -/
theorem start_two {m : Nat} (hlow : 2 ≤ m) (hhigh : m < 32) :
    start (byte (0xC0 + m)) = .open ⟨1, m, 0x80, 0xBF⟩ := by
  simp only [start, toNat_byte (show 0xC0 + m < 256 by omega)]
  rw [if_neg (by omega), if_neg (by omega), if_pos (by omega), Nat.add_sub_cancel_left]

/-- The first of three bytes; the second is bounded where the form could be overlong or that of a
surrogate. -/
theorem start_three {m : Nat} (h : m < 16) :
    start (byte (0xE0 + m)) =
      .open ⟨2, m, if m = 0 then 0xA0 else 0x80, if m = 13 then 0x9F else 0xBF⟩ := by
  simp only [start, toNat_byte (show 0xE0 + m < 256 by omega)]
  rw [if_neg (by omega), if_neg (by omega), if_neg (by omega)]
  by_cases hzero : m = 0
  · subst hzero
    rfl
  · by_cases hthirteen : m = 13
    · subst hthirteen
      rfl
    · rw [if_neg (by omega), if_neg (by omega), if_pos (by omega), if_neg hzero, if_neg hthirteen,
        Nat.add_sub_cancel_left]

/-- The first of four bytes; the second is bounded where the form could be overlong or too great. -/
theorem start_four {m : Nat} (h : m < 5) :
    start (byte (0xF0 + m)) =
      .open ⟨3, m, if m = 0 then 0x90 else 0x80, if m = 4 then 0x8F else 0xBF⟩ := by
  simp only [start, toNat_byte (show 0xF0 + m < 256 by omega)]
  rw [if_neg (by omega), if_neg (by omega), if_neg (by omega), if_neg (by omega),
    if_neg (by omega), if_neg (by omega)]
  by_cases hzero : m = 0
  · subst hzero
    rfl
  · by_cases hfour : m = 4
    · subst hfour
      rfl
    · rw [if_neg (by omega), if_pos (by omega), if_neg hzero, if_neg hfour,
        Nat.add_sub_cancel_left]

/-- A byte within the bounds that the one before it sets, or else the usual ones. -/
theorem le_of_bounds {low high : UInt8} {n : Nat} (hlow : low.toNat ≤ n) (hhigh : n ≤ high.toNat) :
    low ≤ byte n ∧ byte n ≤ high := by
  have hn : n < 256 := Nat.lt_of_le_of_lt hhigh high.toNat_lt
  rw [UInt8.le_iff_toNat_le, UInt8.le_iff_toNat_le, toNat_byte hn]
  exact ⟨hlow, hhigh⟩

/-- The last byte of a character, which holds six bits. -/
theorem unitsFrom_last {r : Nat} (hr : r < 64) (value : Nat) (rest : List UInt8) :
    unitsFrom (some ⟨1, value, 0x80, 0xBF⟩) (byte (0x80 + r) :: rest) =
      some (Char.ofNat (value * 64 + r)) :: unitsFrom none rest := by
  have hbits : (0x80 + r) % 64 = r := by omega
  have hlow : (0x80 : UInt8).toNat ≤ 0x80 + r := Nat.le_add_right _ _
  have hhigh : 0x80 + r ≤ (0xBF : UInt8).toNat := by
    show _ ≤ 0xBF
    omega
  rw [unitsFrom, if_pos (le_of_bounds hlow hhigh)]
  simp only [Nat.le_refl, if_true, toNat_byte (show 0x80 + r < 256 by omega), hbits]

/-- A byte in the middle of a character, which holds six bits; the second one may have other bounds
than the usual ones. -/
theorem unitsFrom_middle {r : Nat} (hr : r < 64) {low high : UInt8}
    (hlow : low.toNat ≤ 0x80 + r) (hhigh : 0x80 + r ≤ high.toNat) (left value : Nat)
    (rest : List UInt8) :
    unitsFrom (some ⟨left + 2, value, low, high⟩) (byte (0x80 + r) :: rest) =
      unitsFrom (some ⟨left + 1, value * 64 + r, 0x80, 0xBF⟩) rest := by
  have hbits : (0x80 + r) % 64 = r := by omega
  have hmore : ¬left + 2 ≤ 1 := by omega
  rw [unitsFrom, if_pos (le_of_bounds hlow hhigh)]
  simp only [hmore, if_false, toNat_byte (show 0x80 + r < 256 by omega), hbits]
  rfl

/-! ## Characters -/

/-- **The bytes of a character are read as that character.** -/
theorem unitsFrom_encodeChar (c : Char) (rest : List UInt8) :
    unitsFrom none (encodeChar c ++ rest) = some c :: unitsFrom none rest := by
  have hvalid : c.toNat < 0xD800 ∨ 0xDFFF < c.toNat ∧ c.toNat < 0x110000 := c.valid
  have hself : Char.ofNat c.toNat = c := Char.ofNat_toNat c
  simp only [encodeChar]
  generalize c.toNat = n at hvalid hself
  have hsix : n % 64 < 64 := Nat.mod_lt n (by decide)
  have hnext : n / 64 % 64 < 64 := Nat.mod_lt (n / 64) (by decide)
  by_cases hone : n < 0x80
  · rw [if_pos hone, List.singleton_append, unitsFrom, start_one hone, hself]
  · by_cases htwo : n < 0x800
    · have hvalue : n / 64 * 64 + n % 64 = n := by omega
      rw [if_neg hone, if_pos htwo, List.cons_append, List.singleton_append, unitsFrom,
        start_two (by omega) (by omega)]
      simp only
      rw [unitsFrom_last hsix, hvalue, hself]
    · by_cases hthree : n < 0x10000
      · have hvalue : (n / 4096 * 64 + n / 64 % 64) * 64 + n % 64 = n := by omega
        rw [if_neg hone, if_neg htwo, if_pos hthree, List.cons_append, List.cons_append,
          List.singleton_append, unitsFrom, start_three (by omega)]
        simp only
        rw [unitsFrom_middle hnext, unitsFrom_last hsix, hvalue, hself]
        · -- neither overlong nor a surrogate
          split
          · show 0xA0 ≤ _
            omega
          · exact Nat.le_add_right _ _
        · split
          · show _ ≤ 0x9F
            omega
          · show _ ≤ 0xBF
            omega
      · have hvalue :
            ((n / 262144 * 64 + n / 4096 % 64) * 64 + n / 64 % 64) * 64 + n % 64 = n := by omega
        have husual : 0x80 + n / 64 % 64 ≤ (0xBF : UInt8).toNat := by
          show _ ≤ 0xBF
          omega
        rw [if_neg hone, if_neg htwo, if_neg hthree, List.cons_append, List.cons_append,
          List.cons_append, List.singleton_append, unitsFrom, start_four (by omega)]
        simp only
        rw [unitsFrom_middle (Nat.mod_lt (n / 4096) (by decide)),
          unitsFrom_middle hnext (Nat.le_add_right _ _) husual, unitsFrom_last hsix, hvalue, hself]
        · -- neither overlong nor too great
          split
          · show 0x90 ≤ _
            omega
          · exact Nat.le_add_right _ _
        · split
          · show _ ≤ 0x8F
            omega
          · show _ ≤ 0xBF
            omega

/-! ## Texts -/

theorem encode_cons (c : Char) (cs : List Char) : encode (c :: cs) = encodeChar c ++ encode cs :=
  List.flatMap_cons

theorem encode_append (cs ds : List Char) : encode (cs ++ ds) = encode cs ++ encode ds :=
  List.flatMap_append

theorem encode_singleton (c : Char) : encode [c] = encodeChar c := List.append_nil _

theorem toNat_lt (c : Char) : c.toNat < 0x110000 := by
  rcases c.valid with h | ⟨-, h⟩
  · exact Nat.lt_trans h (by decide)
  · exact h

/-- The bytes of a character: one that is its number, or several that are none of ASCII. -/
theorem mem_encodeChar {c : Char} {b : UInt8} (h : b ∈ encodeChar c) :
    (b.toNat = c.toNat ∧ c.toNat < 0x80) ∨ 0x80 ≤ b.toNat := by
  have hbound := toNat_lt c
  unfold encodeChar at h
  by_cases hone : c.toNat < 0x80
  · rw [if_pos hone, List.mem_singleton] at h
    rw [h, toNat_byte (by omega)]
    exact Or.inl ⟨rfl, hone⟩
  · refine Or.inr ?_
    simp only [if_neg hone] at h
    split at h
    · simp only [List.mem_cons, List.not_mem_nil, or_false] at h
      rcases h with rfl | rfl <;> rw [toNat_byte (by omega)] <;> omega
    · split at h
      · simp only [List.mem_cons, List.not_mem_nil, or_false] at h
        rcases h with rfl | rfl | rfl <;> rw [toNat_byte (by omega)] <;> omega
      · simp only [List.mem_cons, List.not_mem_nil, or_false] at h
        rcases h with rfl | rfl | rfl | rfl <;> rw [toNat_byte (by omega)] <;> omega

theorem encodeChar_of_lt {c : Char} (h : c.toNat < 0x80) : encodeChar c = [byte c.toNat] := by
  rw [encodeChar]
  exact if_pos h

theorem units_encode (cs : List Char) : units (encode cs) = cs.map some := by
  induction cs with
  | nil => rfl
  | cons c cs ih =>
    rw [units, encode, List.flatMap_cons, unitsFrom_encodeChar, List.map_cons, ← ih]
    rfl

/-- **A written text is read back.** -/
theorem decode?_encode (cs : List Char) : decode? (encode cs) = some cs := by
  rw [decode?, units_encode]
  induction cs with
  | nil => rfl
  | cons c cs ih => rw [List.map_cons, allSome, ih, Option.map_some]

/-- Nothing of a written text is replaced. -/
theorem decodeLossy_encode (cs : List Char) : decodeLossy (encode cs) = cs :=
  decodeLossy_of_decode? (decode?_encode cs)

/-! ## Well-formed bytes -/

theorem eq_map_of_allSome {us : List (Option Char)} {cs : List Char} (h : allSome us = some cs) :
    us = cs.map some := by
  induction us generalizing cs with
  | nil => simp_all [allSome]
  | cons u rest ih =>
    cases u with
    | none => simp [allSome] at h
    | some c =>
      obtain ⟨ds, hds, rfl⟩ := Option.map_eq_some_iff.1 h
      rw [ih hds, List.map_cons]

theorem byte_toNat (b : UInt8) : byte b.toNat = b := UInt8.ofNat_toNat

/-- What the first byte of a character says: it is the only one, none begins with it, or one, two
or three others follow it. -/
theorem start_cases (b : UInt8) :
    (b.toNat < 0x80 ∧ start b = .char (Char.ofNat b.toNat)) ∨ start b = .bad ∨
      (∃ m, 2 ≤ m ∧ m < 32 ∧ b = byte (0xC0 + m)) ∨ (∃ m, m < 16 ∧ b = byte (0xE0 + m)) ∨
      ∃ m, m < 5 ∧ b = byte (0xF0 + m) := by
  have hbyte : ∀ low, low ≤ b.toNat → b = byte (low + (b.toNat - low)) := by
    intro low hlow
    rw [Nat.add_sub_cancel' hlow, byte_toNat]
  by_cases hone : b.toNat < 0x80
  · exact Or.inl ⟨hone, by rw [start, if_pos hone]⟩
  · by_cases hbad : b.toNat < 0xC2
    · refine Or.inr (Or.inl ?_)
      simp only [start]
      rw [if_neg hone, if_pos hbad]
    · by_cases htwo : b.toNat < 0xE0
      · exact Or.inr (Or.inr (Or.inl ⟨b.toNat - 0xC0, by omega, by omega, hbyte 0xC0 (by omega)⟩))
      · by_cases hthree : b.toNat < 0xF0
        · exact Or.inr (Or.inr (Or.inr (Or.inl
            ⟨b.toNat - 0xE0, by omega, hbyte 0xE0 (by omega)⟩)))
        · by_cases hfour : b.toNat < 0xF5
          · exact Or.inr (Or.inr (Or.inr (Or.inr
              ⟨b.toNat - 0xF0, by omega, hbyte 0xF0 (by omega)⟩)))
          · refine Or.inr (Or.inl ?_)
            simp only [start]
            rw [if_neg hone, if_neg hbad, if_neg htwo, if_neg (by omega), if_neg (by omega),
              if_neg hthree, if_neg (by omega), if_neg (by omega), if_neg (by omega)]

/-- A sequence that has begun goes on with a byte within its bounds, or there is a fault. -/
theorem exists_taken {p : Pending} (hlow : 0x80 ≤ p.low.toNat) (hhigh : p.high.toNat ≤ 0xBF)
    {bs : List UInt8} {cs : List Char} (h : unitsFrom (some p) bs = cs.map some) :
    ∃ r rest, r < 64 ∧ p.low.toNat ≤ 0x80 + r ∧ 0x80 + r ≤ p.high.toNat ∧
      bs = byte (0x80 + r) :: rest := by
  cases bs with
  | nil => cases cs <;> cases h
  | cons b rest =>
    by_cases htaken : p.low ≤ b ∧ b ≤ p.high
    · have hle := UInt8.le_iff_toNat_le.1 htaken.1
      have hge := UInt8.le_iff_toNat_le.1 htaken.2
      refine ⟨b.toNat - 0x80, rest, by omega, by omega, by omega, ?_⟩
      rw [Nat.add_sub_cancel' (by omega), byte_toNat]
    · rw [unitsFrom, if_neg htaken] at h
      cases hb : start b <;> cases cs <;> simp [hb] at h

/-- The last byte of a character is followed by what is read on its own. -/
theorem exists_last {value : Nat} {bs : List UInt8} {cs : List Char}
    (h : unitsFrom (some ⟨1, value, 0x80, 0xBF⟩) bs = cs.map some) :
    ∃ r rest cs', r < 64 ∧ bs = byte (0x80 + r) :: rest ∧
      cs = Char.ofNat (value * 64 + r) :: cs' ∧ unitsFrom none rest = cs'.map some := by
  obtain ⟨r, rest, hr, -, -, rfl⟩ := exists_taken (Nat.le_refl _) (Nat.le_refl _) h
  rw [unitsFrom_last hr] at h
  cases cs with
  | nil => cases h
  | cons c cs' =>
    rw [List.map_cons, List.cons.injEq, Option.some.injEq] at h
    exact ⟨r, rest, cs', hr, rfl, by rw [h.1], h.2⟩

/-- A byte in the middle of a character is followed by the rest of that character. -/
theorem exists_middle {left value : Nat} {low high : UInt8} (hlow : 0x80 ≤ low.toNat)
    (hhigh : high.toNat ≤ 0xBF) {bs : List UInt8} {cs : List Char}
    (h : unitsFrom (some ⟨left + 2, value, low, high⟩) bs = cs.map some) :
    ∃ r rest, r < 64 ∧ low.toNat ≤ 0x80 + r ∧ 0x80 + r ≤ high.toNat ∧
      bs = byte (0x80 + r) :: rest ∧
      unitsFrom (some ⟨left + 1, value * 64 + r, 0x80, 0xBF⟩) rest = cs.map some := by
  obtain ⟨r, rest, hr, hle, hge, rfl⟩ := exists_taken hlow hhigh h
  rw [unitsFrom_middle hr hle hge] at h
  exact ⟨r, rest, hr, hle, hge, rfl, h⟩

theorem toNat_ofNat {n : Nat} (h : n < 0xD800 ∨ 0xDFFF < n ∧ n < 0x110000) :
    (Char.ofNat n).toNat = n := by
  rw [Char.ofNat, dif_pos h]
  rfl

theorem encodeChar_two {m r : Nat} (hlow : 2 ≤ m) (hhigh : m < 32) (hr : r < 64) :
    encodeChar (Char.ofNat (m * 64 + r)) = [byte (0xC0 + m), byte (0x80 + r)] := by
  have hfirst : (m * 64 + r) / 64 = m := by omega
  have hlast : (m * 64 + r) % 64 = r := by omega
  simp only [encodeChar, toNat_ofNat (show m * 64 + r < 0xD800 ∨ _ by omega), hfirst, hlast]
  rw [if_neg (by omega), if_pos (by omega)]

theorem encodeChar_three {m r r' : Nat} (hm : m < 16) (hr : r < 64) (hr' : r' < 64)
    (hzero : m = 0 → 32 ≤ r) (hthirteen : m = 13 → r < 32) :
    encodeChar (Char.ofNat ((m * 64 + r) * 64 + r')) =
      [byte (0xE0 + m), byte (0x80 + r), byte (0x80 + r')] := by
  have hfirst : ((m * 64 + r) * 64 + r') / 4096 = m := by omega
  have hsecond : ((m * 64 + r) * 64 + r') / 64 % 64 = r := by omega
  have hlast : ((m * 64 + r) * 64 + r') % 64 = r' := by omega
  simp only [encodeChar, toNat_ofNat (show (m * 64 + r) * 64 + r' < 0xD800 ∨ _ by omega), hfirst,
    hsecond, hlast]
  rw [if_neg (by omega), if_neg (by omega), if_pos (by omega)]

theorem encodeChar_four {m r r' r'' : Nat} (hm : m < 5) (hr : r < 64) (hr' : r' < 64)
    (hr'' : r'' < 64) (hzero : m = 0 → 16 ≤ r) (hfour : m = 4 → r < 16) :
    encodeChar (Char.ofNat (((m * 64 + r) * 64 + r') * 64 + r'')) =
      [byte (0xF0 + m), byte (0x80 + r), byte (0x80 + r'), byte (0x80 + r'')] := by
  have hfirst : (((m * 64 + r) * 64 + r') * 64 + r'') / 262144 = m := by omega
  have hsecond : (((m * 64 + r) * 64 + r') * 64 + r'') / 4096 % 64 = r := by omega
  have hthird : (((m * 64 + r) * 64 + r') * 64 + r'') / 64 % 64 = r' := by omega
  have hlast : (((m * 64 + r) * 64 + r') * 64 + r'') % 64 = r'' := by omega
  simp only [encodeChar,
    toNat_ofNat (show ((m * 64 + r) * 64 + r') * 64 + r'' < 0xD800 ∨ _ by omega), hfirst, hsecond,
    hthird, hlast]
  rw [if_neg (by omega), if_neg (by omega), if_neg (by omega)]

/-- **Bytes that are read without a fault begin with the bytes of a character.** -/
theorem exists_encodeChar_append {b : UInt8} {bs : List UInt8} {cs : List Char}
    (h : unitsFrom none (b :: bs) = cs.map some) :
    ∃ c rest cs', b :: bs = encodeChar c ++ rest ∧ cs = c :: cs' ∧
      unitsFrom none rest = cs'.map some := by
  rw [unitsFrom] at h
  rcases start_cases b with ⟨hone, hb⟩ | hb | ⟨m, hlow, hhigh, rfl⟩ | ⟨m, hm, rfl⟩ | ⟨m, hm, rfl⟩
  · rw [hb] at h
    cases cs with
    | nil => cases h
    | cons c cs' =>
      simp only [List.map_cons, List.cons.injEq, Option.some.injEq] at h
      have hnat : (Char.ofNat b.toNat).toNat = b.toNat := toNat_ofNat (Or.inl (by omega))
      refine ⟨Char.ofNat b.toNat, bs, cs', ?_, by rw [h.1], h.2⟩
      rw [encodeChar_of_lt (by omega), hnat, byte_toNat, List.singleton_append]
  · rw [hb] at h
    cases cs <;> cases h
  · rw [start_two hlow hhigh] at h
    obtain ⟨r, rest, cs', hr, rfl, hcs, hrest⟩ := exists_last h
    exact ⟨_, rest, cs', by rw [encodeChar_two hlow hhigh hr]; rfl, hcs, hrest⟩
  · rw [start_three hm] at h
    obtain ⟨r, rest, hr, hle, hge, rfl, hlast⟩ := exists_middle (by split <;> decide)
      (by split <;> decide) h
    obtain ⟨r', rest, cs', hr', rfl, hcs, hrest⟩ := exists_last hlast
    refine ⟨_, rest, cs', ?_, hcs, hrest⟩
    rw [encodeChar_three hm hr hr']
    · rfl
    · intro hzero
      rw [if_pos hzero] at hle
      exact Nat.le_of_add_le_add_left (a := 0x80) hle
    · intro hthirteen
      rw [if_pos hthirteen] at hge
      exact Nat.lt_of_add_lt_add_left (n := 0x80) (Nat.lt_succ_of_le hge)
  · rw [start_four hm] at h
    obtain ⟨r, rest, hr, hle, hge, rfl, hthird⟩ := exists_middle (by split <;> decide)
      (by split <;> decide) h
    obtain ⟨r', rest, hr', -, -, rfl, hlast⟩ := exists_middle (Nat.le_refl _) (Nat.le_refl _) hthird
    obtain ⟨r'', rest, cs', hr'', rfl, hcs, hrest⟩ := exists_last hlast
    refine ⟨_, rest, cs', ?_, hcs, hrest⟩
    rw [encodeChar_four hm hr hr' hr'']
    · rfl
    · intro hzero
      rw [if_pos hzero] at hle
      exact Nat.le_of_add_le_add_left (a := 0x80) hle
    · intro hfour
      rw [if_pos hfour] at hge
      exact Nat.lt_of_add_lt_add_left (n := 0x80) (Nat.lt_succ_of_le hge)

theorem eq_encode_of_units {bs : List UInt8} {cs : List Char}
    (h : unitsFrom none bs = cs.map some) : bs = encode cs := by
  induction cs generalizing bs with
  | nil =>
    cases bs with
    | nil => rfl
    | cons b bs =>
      obtain ⟨c, rest, cs', -, hcs, -⟩ := exists_encodeChar_append h
      cases hcs
  | cons c cs ih =>
    cases bs with
    | nil => cases h
    | cons b bs =>
      obtain ⟨c', rest, cs', hbytes, hcs, hrest⟩ := exists_encodeChar_append h
      cases hcs
      rw [hbytes, ih hrest, encode_cons]

/-- **Only written texts are read**: the bytes of a text are those that writing it gives. -/
theorem decode?_eq_some_iff {bs : List UInt8} {cs : List Char} :
    decode? bs = some cs ↔ bs = encode cs := by
  constructor
  · exact fun h => eq_encode_of_units (eq_map_of_allSome h)
  · rintro rfl
    exact decode?_encode cs

theorem string?_eq_some_iff {bs : List UInt8} {s : String} :
    string? bs = some s ↔ bs = bytesOf s := by
  rw [string?, Option.map_eq_some_iff]
  constructor
  · rintro ⟨cs, hcs, rfl⟩
    rw [decode?_eq_some_iff.1 hcs, bytesOf, String.toList_ofList]
  · rintro rfl
    exact ⟨s.toList, decode?_encode s.toList, String.ofList_toList⟩

/-! ## Cutting texts -/

/-- Whether bytes are those of a text. -/
def IsText (bs : List UInt8) : Prop := ∃ cs, bs = encode cs

theorem isText_nil : IsText [] := ⟨[], rfl⟩

theorem isText_encodeChar (c : Char) : IsText (encodeChar c) := ⟨[c], (encode_singleton c).symm⟩

/-- A byte of ASCII is a text. -/
theorem isText_singleton {b : UInt8} (h : b.toNat < 0x80) : IsText [b] := by
  have hnat : (Char.ofNat b.toNat).toNat = b.toNat := toNat_ofNat (Or.inl (by omega))
  refine ⟨[Char.ofNat b.toNat], ?_⟩
  rw [encode_singleton, encodeChar_of_lt (by omega), hnat, byte_toNat]

theorem IsText.append {bs bs' : List UInt8} (h : IsText bs) (h' : IsText bs') :
    IsText (bs ++ bs') := by
  obtain ⟨cs, rfl⟩ := h
  obtain ⟨cs', rfl⟩ := h'
  exact ⟨cs ++ cs', (encode_append cs cs').symm⟩

/-- Whether a byte stands behind the first one of a character. -/
def IsTail (b : UInt8) : Prop := 0x80 ≤ b.toNat ∧ b.toNat < 0xC0

theorem isTail_byte {r : Nat} (h : r < 64) : IsTail (byte (0x80 + r)) := by
  rw [IsTail, toNat_byte (by omega)]
  omega

/-- The first byte of a character can be told from all others. -/
theorem encodeChar_eq_cons (c : Char) :
    ∃ b bs, encodeChar c = b :: bs ∧ ¬IsTail b ∧ ∀ d ∈ bs, IsTail d := by
  have hbound := toNat_lt c
  have hfirst : ∀ n, n < 256 → ¬(0x80 ≤ n ∧ n < 0xC0) → ¬IsTail (byte n) := by
    intro n hn h
    rwa [IsTail, toNat_byte hn]
  have htail : ∀ n, IsTail (byte (0x80 + n % 64)) := fun n => isTail_byte (Nat.mod_lt n (by decide))
  simp only [encodeChar]
  split
  · exact ⟨_, _, rfl, hfirst _ (by omega) (by omega), List.forall_mem_nil _⟩
  · split
    · exact ⟨_, _, rfl, hfirst _ (by omega) (by omega), by simp [htail]⟩
    · split
      · exact ⟨_, _, rfl, hfirst _ (by omega) (by omega), by simp [htail]⟩
      · exact ⟨_, _, rfl, hfirst _ (by omega) (by omega), by simp [htail]⟩

/-- A text without its first character is a text. -/
theorem IsText.behind {c : Char} {bs : List UInt8} (h : IsText (encodeChar c ++ bs)) :
    IsText bs := by
  obtain ⟨cs, hcs⟩ := h
  have hunits : unitsFrom none (encodeChar c ++ bs) = cs.map some := by
    rw [hcs]
    exact units_encode cs
  rw [unitsFrom_encodeChar] at hunits
  cases cs with
  | nil => cases hunits
  | cons d ds => exact ⟨ds, eq_encode_of_units (List.cons.inj hunits).2⟩

/-- **A text cut before and behind a character** gives two texts. -/
theorem IsText.split {front back : List UInt8} {c : Char}
    (h : IsText (front ++ (encodeChar c ++ back))) : IsText front ∧ IsText back := by
  obtain ⟨cs, hcs⟩ := h
  induction cs generalizing front with
  | nil =>
    obtain ⟨b, bs, hc, -, -⟩ := encodeChar_eq_cons c
    rw [hc] at hcs
    simp [encode] at hcs
  | cons d ds ih =>
    rw [encode_cons] at hcs
    rcases List.append_eq_append_iff.1 hcs with ⟨more, hd, hrest⟩ | ⟨more, rfl, hrest⟩
    · cases more with
      | nil =>
        rw [List.append_nil] at hd
        exact ⟨hd ▸ isText_encodeChar d, IsText.behind (c := c) ⟨ds, hrest⟩⟩
      | cons m more =>
        cases front with
        | nil =>
          refine ⟨isText_nil, IsText.behind (c := c) ⟨d :: ds, ?_⟩⟩
          rw [encode_cons]
          exact hcs
        | cons f front =>
          -- a byte behind the first one of `d` would be the first one of `c`
          obtain ⟨b, bs, hb, hfirst, -⟩ := encodeChar_eq_cons c
          obtain ⟨b', bs', hb', -, htail⟩ := encodeChar_eq_cons d
          rw [hb'] at hd
          rw [hb] at hrest
          have hm : m ∈ bs' := by
            rw [(List.cons.inj hd).2]
            exact List.mem_append_right front List.mem_cons_self
          exact absurd ((List.cons.inj hrest).1 ▸ htail m hm) hfirst
    · obtain ⟨hmore, hback⟩ := ih hrest.symm
      exact ⟨(isText_encodeChar d).append hmore, hback⟩

end Courier.Text.Utf8
