import Courier.Text.Numeral
import Mathlib.Data.List.Basic

/-!
# Decimal numerals

A numeral is an optional plus sign and one or more digits, and its value must not exceed a limit.
The decimal digits of a number are such a numeral, without a zero in front, and read back as the
number.

* `numeral_eq_ok_iff` — **which texts are read**, and as what.
* `digitsFrom_digits` — the digits of a number read back.
* `head?_digits_ne` — the digits of a number begin with zero only if it is zero.
-/

namespace Courier.Text

/-! ## Digits -/

theorem isDigit_iff {c : Char} : isDigit c = true ↔ 48 ≤ c.toNat ∧ c.toNat ≤ 57 := by
  rw [isDigit, Bool.and_eq_true, decide_eq_true_eq, decide_eq_true_eq, Char.le_def, Char.le_def,
    UInt32.le_iff_toNat_le, UInt32.le_iff_toNat_le]
  exact Iff.rfl

/-- The digits of base ten. -/
theorem digitValue?_ten (c : Char) :
    digitValue? 10 c = if isDigit c then some (c.toNat - 48) else none := by
  unfold digitValue?
  by_cases hc : isDigit c = true
  · have hrange := isDigit_iff.1 hc
    simp only [if_pos hrange, if_pos hc]
    exact Option.filter_some_pos (decide_eq_true (by omega))
  · have hrange := mt isDigit_iff.2 hc
    simp only [if_neg hrange, if_neg hc]
    split
    · exact Option.filter_some_neg (by simp; omega)
    · split
      · exact Option.filter_some_neg (by simp; omega)
      · rfl

/-- One more digit behind a value. -/
theorem ofDigitChars_cons (c : Char) (cs : List Char) (acc : Nat) :
    Nat.ofDigitChars 10 (c :: cs) acc = Nat.ofDigitChars 10 cs (acc * 10 + (c.toNat - 48)) := by
  rw [Nat.ofDigitChars_cons, Nat.mul_comm]
  rfl

/-- Digits behind a value do not make it less. -/
theorem le_ofDigitChars (cs : List Char) (acc : Nat) : acc ≤ Nat.ofDigitChars 10 cs acc := by
  induction cs generalizing acc with
  | nil => simp
  | cons c cs ih =>
    rw [ofDigitChars_cons]
    exact Nat.le_trans (by omega) (ih _)

/-- **Digits are read** if all are digits and the value stays within the limit. -/
theorem digitsFrom_eq_ok_iff {limit acc n : Nat} {cs : List Char} (h : acc ≤ limit) :
    digitsFrom 10 limit acc cs = .ok n ↔
      (∀ c ∈ cs, isDigit c = true) ∧ Nat.ofDigitChars 10 cs acc = n ∧ n ≤ limit := by
  induction cs generalizing acc with
  | nil =>
    rw [digitsFrom, Nat.ofDigitChars_nil, Except.ok.injEq]
    constructor
    · rintro rfl
      exact ⟨by simp, rfl, h⟩
    · rintro ⟨-, rfl, -⟩
      rfl
  | cons c cs ih =>
    rw [digitsFrom, digitValue?_ten, ofDigitChars_cons, List.forall_mem_cons]
    by_cases hc : isDigit c = true
    · rw [if_pos hc]
      simp only [hc, true_and]
      by_cases hstep : acc * 10 + (c.toNat - 48) ≤ limit
      · rw [if_pos hstep, ih hstep]
      · rw [if_neg hstep]
        refine ⟨nofun, ?_⟩
        rintro ⟨-, rfl, hle⟩
        exact absurd (Nat.le_trans (le_ofDigitChars cs _) hle) hstep
    · rw [if_neg hc]
      exact ⟨nofun, fun hdigits => absurd hdigits.1.1 hc⟩

/-! ## Numerals -/

/-- A text that is a numeral: one or more digits behind a plus sign or nothing. -/
def IsNumeral (cs : List Char) (n : Nat) : Prop :=
  ∃ ds, (cs = ds ∨ cs = '+' :: ds) ∧ ds ≠ [] ∧ (∀ c ∈ ds, isDigit c = true) ∧
    Nat.ofDigitChars 10 ds 0 = n

theorem numeral_plus {limit : Nat} {cs : List Char} (h : cs ≠ []) :
    numeral 10 limit ('+' :: cs) = digitsFrom 10 limit 0 cs := by
  cases cs with
  | nil => exact absurd rfl h
  | cons c cs => rfl

/-- Without a plus sign all is read as digits; a minus sign is none. -/
theorem numeral_of_ne_plus {limit : Nat} {c : Char} (h : c ≠ '+') (cs : List Char) :
    numeral 10 limit (c :: cs) = digitsFrom 10 limit 0 (c :: cs) := by
  unfold numeral
  split
  · rename_i heq
    cases heq
  · rename_i heq
    cases heq
    exact absurd rfl h
  · rename_i heq
    cases heq
    rw [digitsFrom, digitValue?_ten]
    rfl
  · rename_i heq
    cases heq
    exact absurd rfl h
  · rfl

/-- **Which texts are read** as a number: the numerals of values up to the limit. -/
theorem numeral_eq_ok_iff {limit n : Nat} {cs : List Char} :
    numeral 10 limit cs = .ok n ↔ IsNumeral cs n ∧ n ≤ limit := by
  have hplus : isDigit '+' = false := by decide
  constructor
  · intro h
    cases cs with
    | nil => cases h
    | cons c cs =>
      by_cases hc : c = '+'
      · subst hc
        cases cs with
        | nil => cases h
        | cons d cs =>
          rw [numeral_plus (List.cons_ne_nil _ _), digitsFrom_eq_ok_iff (Nat.zero_le _)] at h
          obtain ⟨hdigits, hvalue, hle⟩ := h
          exact ⟨⟨_, Or.inr rfl, List.cons_ne_nil _ _, hdigits, hvalue⟩, hle⟩
      · rw [numeral_of_ne_plus hc, digitsFrom_eq_ok_iff (Nat.zero_le _)] at h
        obtain ⟨hdigits, hvalue, hle⟩ := h
        exact ⟨⟨_, Or.inl rfl, List.cons_ne_nil _ _, hdigits, hvalue⟩, hle⟩
  · rintro ⟨⟨ds, hcs, hne, hdigits, hvalue⟩, hle⟩
    have hread : digitsFrom 10 limit 0 ds = .ok n :=
      (digitsFrom_eq_ok_iff (Nat.zero_le _)).2 ⟨hdigits, hvalue, hle⟩
    rcases hcs with rfl | rfl
    · cases cs with
      | nil => exact absurd rfl hne
      | cons c cs =>
        have hc : c ≠ '+' := by
          rintro rfl
          exact absurd (hdigits '+' List.mem_cons_self) (by simp [hplus])
        rw [numeral_of_ne_plus hc, hread]
    · rw [numeral_plus hne, hread]

/-! ## The digits of a number -/

theorem digits_ne_nil (n : Nat) : digits n ≠ [] := Nat.toDigits_ne_nil

theorem isDigit_of_mem_digits {n : Nat} {c : Char} (h : c ∈ digits n) : isDigit c = true := by
  have hdigit : c.isDigit = true := Nat.isDigit_of_mem_toDigits (by decide) (by decide) h
  rw [isDigit_iff]
  simpa [Char.isDigit, UInt32.le_iff_toNat_le] using hdigit

/-- The digits of a number other than zero do not begin with zero. -/
theorem head?_digits_ne {n : Nat} (h : n ≠ 0) : (digits n).head? ≠ some '0' := by
  have hsmall : ∀ k, k < 10 → k ≠ 0 → Nat.digitChar k ≠ '0' := by decide
  induction n using Nat.strongRecOn with
  | ind n ih =>
    rw [digits, Nat.toDigits_eq_if (by decide)]
    by_cases hn : n < 10
    · rw [if_pos hn, List.head?_cons, ne_eq, Option.some.injEq]
      exact hsmall n hn h
    · rw [if_neg hn, List.head?_append_of_ne_nil _ Nat.toDigits_ne_nil]
      exact ih (n / 10) (by omega) (by omega)

/-- The digits of a number read back. -/
theorem digitsFrom_digits {limit n : Nat} (h : n ≤ limit) :
    digitsFrom 10 limit 0 (digits n) = .ok n :=
  (digitsFrom_eq_ok_iff (Nat.zero_le _)).2
    ⟨fun _ => isDigit_of_mem_digits, Nat.ofDigitChars_ten_toDigits, h⟩

end Courier.Text
