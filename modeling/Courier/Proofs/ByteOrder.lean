import Courier.Proofs.Transcoding
import Mathlib.Data.List.Basic

/-!
# The order of bytes

Strings are compared by code point, and so are the names of a table.  Written as UTF-8 they are
compared byte by byte, and the order is the same.

* `Text.Utf8.encodeChar_append_lt` — a lesser character has lesser bytes, whatever follows.
* `Text.Utf8.bytesOf_lt_iff` — **strings are in the order of their bytes**.
-/

namespace Courier.Text.Utf8

theorem byte_cons_lt_iff {m n : Nat} (hm : m < 256) (hn : n < 256) (bs ds : List UInt8) :
    byte m :: bs < byte n :: ds ↔ m < n ∨ m = n ∧ bs < ds := by
  rw [List.cons_lt_cons_iff, UInt8.lt_iff_toNat_lt, ← UInt8.toNat_inj, toNat_byte hm, toNat_byte hn]

/-- The bytes of a character come before those of a greater one, whatever follows either. -/
theorem encodeChar_append_lt {c d : Char} (h : c < d) (bs ds : List UInt8) :
    encodeChar c ++ bs < encodeChar d ++ ds := by
  have hlt : c.toNat < d.toNat := h
  have hc := toNat_lt c
  have hd := toNat_lt d
  simp only [encodeChar]
  generalize c.toNat = m at hlt hc
  generalize d.toNat = n at hlt hd
  -- the first bytes tell the lengths apart, and bytes of one length are digits of one number
  split_ifs
  all_goals
    simp (disch := omega) only [List.cons_append, List.nil_append, byte_cons_lt_iff]
    omega

theorem encode_lt_encode {cs ds : List Char} (h : cs < ds) : encode cs < encode ds := by
  induction cs generalizing ds with
  | nil =>
    cases ds with
    | nil => exact absurd h (List.not_lt_nil [])
    | cons d ds =>
      have hne : encode (d :: ds) ≠ [] := by
        intro hnil
        have hread := decode?_encode (d :: ds)
        rw [hnil] at hread
        cases hread
      obtain ⟨b, bs, hbytes⟩ := List.exists_cons_of_ne_nil hne
      rw [hbytes]
      exact List.nil_lt_cons b bs
  | cons c cs ih =>
    cases ds with
    | nil => exact absurd h (List.not_lt_nil _)
    | cons d ds =>
      rw [encode_cons, encode_cons]
      rcases List.cons_lt_cons_iff.1 h with hlt | ⟨rfl, hrest⟩
      · exact encodeChar_append_lt hlt _ _
      · exact List.append_left_lt (ih hrest)

/-- **Strings are in the order of their bytes.** -/
theorem bytesOf_lt_iff {s t : String} : bytesOf s < bytesOf t ↔ s < t := by
  constructor
  · intro h
    by_contra hnot
    have hle : t ≤ s := String.not_lt.1 hnot
    by_cases heq : t = s
    · rw [heq] at h
      exact List.lt_irrefl _ h
    · have hlt : t < s := String.not_le.1 fun hle' => heq (String.le_antisymm hle hle')
      exact List.lt_asymm h (encode_lt_encode hlt)
  · exact encode_lt_encode

end Courier.Text.Utf8
