import Courier.Proofs.Transcoding
import Courier.Url.Parser

/-!
# The end of a domain

A control or blank at the end of a domain stays there through all that is done to domains: escapes
are resolved around it, bytes are read around it, it is mapped to itself, and normalization neither
moves it nor joins it with what stands before.  So the domain is refused for it.

* `Unicode.getLast?_normalize` — normalization keeps the character at the end.
* `Url.domain?_of_edge` — **a domain that ends in a control or blank is none**.
-/

namespace Courier

/-! ## Bytes -/

namespace Text.Utf8

/-- A byte that may go on with a sequence is none of ASCII. -/
def Pending.WantsMore (p : Pending) : Prop := 0x80 ≤ p.low.toNat

theorem wantsMore_of_start {b : UInt8} {p : Pending} (h : start b = .open p) : p.WantsMore := by
  unfold start at h
  simp only at h
  repeat' split at h
  all_goals cases h
  all_goals simp [Pending.WantsMore]

/-- One byte is read to the end: what is pending behind it wants more, too. -/
theorem exists_unitsFrom_cons {pending : Option Pending}
    (h : ∀ p, pending = some p → p.WantsMore) (b : UInt8) :
    ∃ front next, (∀ p, next = some p → p.WantsMore) ∧
      ∀ bs, unitsFrom pending (b :: bs) = front ++ unitsFrom next bs := by
  cases pending with
  | none =>
    cases hb : start b with
    | char c => exact ⟨[some c], none, nofun, fun bs => by rw [unitsFrom, hb]; rfl⟩
    | bad => exact ⟨[none], none, nofun, fun bs => by rw [unitsFrom, hb]; rfl⟩
    | «open» p =>
      refine ⟨[], some p, ?_, fun bs => by rw [unitsFrom, hb]; rfl⟩
      rintro _ ⟨⟩
      exact wantsMore_of_start hb
  | some p =>
    by_cases htaken : p.low ≤ b ∧ b ≤ p.high
    · by_cases hleft : p.left ≤ 1
      · exact ⟨[_], none, nofun, fun bs => by
          rw [unitsFrom, if_pos htaken, if_pos hleft, List.singleton_append]⟩
      · refine ⟨[], some _, ?_, fun bs => by
          rw [unitsFrom, if_pos htaken, if_neg hleft, List.nil_append]⟩
        rintro _ ⟨⟩
        simp [Pending.WantsMore]
    · cases hb : start b with
      | char c =>
        exact ⟨[none, some c], none, nofun, fun bs => by
          rw [unitsFrom, if_neg htaken, hb]; rfl⟩
      | bad =>
        exact ⟨[none, none], none, nofun, fun bs => by rw [unitsFrom, if_neg htaken, hb]; rfl⟩
      | «open» q =>
        refine ⟨[none], some q, ?_, fun bs => by rw [unitsFrom, if_neg htaken, hb]; rfl⟩
        rintro _ ⟨⟩
        exact wantsMore_of_start hb

/-- So are many. -/
theorem exists_unitsFrom_append {pending : Option Pending}
    (h : ∀ p, pending = some p → p.WantsMore) (bs : List UInt8) :
    ∃ front next, (∀ p, next = some p → p.WantsMore) ∧
      ∀ more, unitsFrom pending (bs ++ more) = front ++ unitsFrom next more := by
  induction bs generalizing pending with
  | nil => exact ⟨[], pending, h, fun more => rfl⟩
  | cons b rest ih =>
    obtain ⟨first, after, hafter, hfirst⟩ := exists_unitsFrom_cons h b
    obtain ⟨later, next, hnext, hlater⟩ := ih hafter
    refine ⟨first ++ later, next, hnext, ?_⟩
    intro more
    rw [List.cons_append, hfirst, hlater, List.append_assoc]

/-- A byte of ASCII at the end is read as a character of its own, whatever is pending. -/
theorem getLast?_units {b : UInt8} (hb : b.toNat < 0x80) (bs : List UInt8) :
    (units (bs ++ [b])).getLast? = some (some (Char.ofNat b.toNat)) := by
  have hstart : start b = .char (Char.ofNat b.toNat) := by rw [start, if_pos hb]
  have hnothing : ∀ p, (none : Option Pending) = some p → p.WantsMore := by
    rintro p ⟨⟩
  obtain ⟨front, next, hnext, hunits⟩ := exists_unitsFrom_append hnothing bs
  rw [units, hunits]
  cases next with
  | none => simp [unitsFrom, hstart]
  | some p =>
    have hrefused : ¬(p.low ≤ b ∧ b ≤ p.high) := by
      rintro ⟨hlow, -⟩
      have hmore : 0x80 ≤ p.low.toNat := hnext p rfl
      have hle : p.low.toNat ≤ b.toNat := UInt8.le_iff_toNat_le.1 hlow
      omega
    simp [unitsFrom, hrefused, hstart]

/-- A text whose last byte is one of ASCII ends in its character. -/
theorem getLast?_of_decode? {b : UInt8} (hb : b.toNat < 0x80) {bs : List UInt8} {cs : List Char}
    (h : decode? (bs ++ [b]) = some cs) : cs.getLast? = some (Char.ofNat b.toNat) := by
  have hlast := getLast?_units hb bs
  rw [eq_map_of_allSome h, List.getLast?_map] at hlast
  simpa using hlast

end Text.Utf8

/-! ## Names -/

namespace Unicode

theorem smallLetter_of_edge {c : Char} (h : c.toNat ≤ 0x20) : Text.smallLetter c = c := by
  refine if_neg ?_
  rintro ⟨hlow, -⟩
  have : 65 ≤ c.toNat := hlow
  omega

theorem partsOf_of_small (table : CodeTable) (depth : Nat) {n : Nat} (h : n < 0xC0) :
    partsOf table depth n = [n] := by
  cases depth with
  | zero => rfl
  | succ depth => rw [partsOf, if_pos h]

theorem decompose_of_edge {c : Char} (h : c.toNat ≤ 0x20) : decompose c = [c] := by
  have hsmall : c.toNat < 0xC0 := by omega
  rw [decompose, partsOf_of_small composites 4 hsmall, List.map_singleton, Char.ofNat_toNat]

theorem markClass_of_edge {c : Char} (h : c.toNat ≤ 0x20) : markClass c = 0 := by
  rw [markClass, if_pos (by omega)]

theorem composite?_of_edge {c : Char} (h : c.toNat ≤ 0x20) (a : Nat) :
    composite? a c.toNat = none := by
  have hvowel : ¬firstVowel ≤ c.toNat := by simp only [firstVowel]; omega
  have htrail : ¬noTrail < c.toNat := by simp only [noTrail]; omega
  have hsyllable : syllable? a c.toNat = none := by
    rw [syllable?, if_neg fun h => hvowel h.2.2.1, if_neg fun h => htrail h.2.2.2.1]
  rw [composite?, hsyllable]
  exact if_pos (by omega)

/-- No mark is moved behind a character that is none. -/
theorem insertMark_append {c : Char} (hclass : markClass c = 0) (mark : Char) (cs : List Char) :
    insertMark mark (cs ++ [c]) = insertMark mark cs ++ [c] := by
  induction cs with
  | nil =>
    have hstays : ¬(markClass c ≠ 0 ∧ markClass c < markClass mark) := fun h => h.1 hclass
    rw [List.nil_append, insertMark, insertMark, if_neg hstays, List.singleton_append]
  | cons d rest ih =>
    rw [List.cons_append, insertMark, insertMark]
    split
    · rw [ih, List.cons_append]
    · rfl

theorem reorder_append {c : Char} (hclass : markClass c = 0) (cs : List Char) :
    reorder (cs ++ [c]) = reorder cs ++ [c] := by
  induction cs with
  | nil => rfl
  | cons d rest ih =>
    simp only [reorder, List.cons_append, List.foldr_cons] at ih ⊢
    rw [ih, insertMark_append hclass]

/-- A character that is no mark and joins nothing that stands before it becomes the base. -/
theorem add_of_apart {c : Char} (hclass : markClass c = 0)
    (hcomposite : ∀ a, composite? a c.toNat = none) (s : Composing) : s.add c = s.begin c := by
  unfold Composing.add
  cases s.base with
  | none => simp only [hclass, if_true]
  | some b => simp only [hclass, hcomposite, ite_self, if_true]

/-- Normalization keeps a control or blank at the end. -/
theorem getLast?_normalize {c : Char} (hc : c.toNat ≤ 0x20) (cs : List Char) :
    (normalize (cs ++ [c])).getLast? = some c := by
  have hclass := markClass_of_edge hc
  have hparts : (cs ++ [c]).flatMap decompose = cs.flatMap decompose ++ [c] := by
    rw [List.flatMap_append, List.flatMap_singleton, decompose_of_edge hc]
  rw [normalize, hparts, reorder_append hclass, compose, List.foldl_append, List.foldl_cons,
    List.foldl_nil, add_of_apart hclass (composite?_of_edge hc), Composing.begin, List.nil_append,
    Option.toList_some, List.singleton_append, List.reverse_cons, List.getLast?_concat]

end Unicode

/-! ## Domains -/

namespace Url

open Unicode

/-- A control or blank at the end of a name becomes itself. -/
theorem getLast?_of_mapName? {c : Char} (hc : c.toNat ≤ 0x20) {cs mapped : List Char}
    (h : mapName? (cs ++ [c]) = some mapped) : mapped.getLast? = some c := by
  have hself : mapForName? c = some [c] := by
    rw [mapForName?, if_pos (by omega), smallLetter_of_edge hc]
  induction cs generalizing mapped with
  | nil =>
    obtain rfl : [c] = mapped := by simpa [mapName?, hself] using h
    rfl
  | cons d rest ih =>
    rw [List.cons_append, mapName?] at h
    split at h
    · rename_i first later _ hlater
      cases h
      rw [List.getLast?_append, ih hlater, Option.some_or]
    · cases h

/-- An escape is not over before a character that is no digit of one. -/
theorem unescape_append_singleton {c : Char} (hdigit : hexDigit? c = none) (cs : List Char) :
    unescape (cs ++ [c]) = unescape cs ++ Text.Utf8.encodeChar c := by
  fun_induction unescape cs with
  | case1 => simp [unescape]
  | case2 a b rest high low hhigh hlow ih => simp [unescape, hhigh, hlow, ih]
  | case3 a b rest hnone ih =>
    simp only [List.cons_append] at ih ⊢
    rw [unescape]
    split
    · rename_i high low hhigh hlow
      exact (hnone high low hhigh hlow).elim
    · rw [ih]
  | case4 d rest hnot ih =>
    by_cases hd : d = '%'
    · subst hd
      match rest with
      | [] => simp [unescape]
      | [a] =>
        -- with the new character there are two behind the `%`
        have hpercent : Text.Utf8.encodeChar '%' = [0x25] := by decide
        simp only [List.cons_append, List.nil_append] at ih ⊢
        rw [unescape]
        split
        · rename_i high low hhigh hlow
          rw [hdigit] at hlow
          cases hlow
        · rw [ih, hpercent]
          rfl
      | a :: b :: more => exact (hnot a b more rfl rfl).elim
    · rw [List.cons_append, unescape, ih, List.append_assoc]
      intro a b more hpercent
      exact absurd hpercent hd

theorem hexDigit?_of_edge {c : Char} (hc : c.toNat ≤ 0x20) : hexDigit? c = none := by
  simp only [hexDigit?]
  rw [if_neg (by omega), if_neg (by omega), if_neg (by omega)]

theorem encodeChar_of_edge {c : Char} (hc : c.toNat ≤ 0x20) :
    Text.Utf8.encodeChar c = [UInt8.ofNat c.toNat] := by
  have hsmall : c.toNat < 0x80 := by omega
  simp only [Text.Utf8.encodeChar, hsmall, if_true, Text.Utf8.byte]

/-- **A domain that ends in a control or blank is none.** -/
theorem domain?_of_edge {c : Char} (hc : c.toNat ≤ 0x20) (before : List Char) :
    domain? (unescape (before ++ [c])) = none := by
  have hbyte : (UInt8.ofNat c.toNat).toNat = c.toNat := by
    rw [UInt8.toNat_ofNat', Nat.mod_eq_of_lt (by omega)]
  rw [unescape_append_singleton (hexDigit?_of_edge hc), encodeChar_of_edge hc, domain?]
  split
  · rfl
  · rename_i cs hcs
    have hlast := Text.Utf8.getLast?_of_decode? (by omega) hcs
    rw [hbyte, Char.ofNat_toNat] at hlast
    obtain ⟨first, rfl⟩ := List.getLast?_eq_some_iff.1 hlast
    split
    · rfl
    · rename_i mapped hmapped
      obtain ⟨front, rfl⟩ := List.getLast?_eq_some_iff.1 (getLast?_of_mapName? hc hmapped)
      have hmem : c ∈ normalize (front ++ [c]) := List.mem_of_getLast? (getLast?_normalize hc front)
      have hforbidden : isForbiddenInDomain c = true := by simp [isForbiddenInDomain, hc]
      exact if_pos (List.any_eq_true.2 ⟨c, hmem, hforbidden⟩)

end Url

end Courier
