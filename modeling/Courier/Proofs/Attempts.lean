import Courier.Transport
import Mathlib.Order.Bounds.Basic
import Mathlib.Data.Nat.Find

/-!
# The retry loop

A sender that is called again and again gives one outcome after another.  This file tells what a run
of attempts does from these outcomes alone: which of them is the last one, what the run answers,
reports and waits for, and what it leaves behind.

* `exists_lastAttempt` — some attempt is the last one, and its number never exceeds the number of
  retries.
* `attempts_eq` — **the loop, solved**: the run is read off the outcomes up to the last attempt.
* `attempts_recorded` — writing down the outcomes while they come in changes nothing, and what is
  written down are the outcomes up to the last attempt, each once.
-/

namespace Courier

namespace RetryPolicy

/-! ## Decisions -/

/-- A failed attempt is the last one exactly if it may not be repeated: the failure is not worth it,
the request forbids it, or the retries are used up. -/
theorem decide_eq_fail_iff {policy : RetryPolicy} {e : Error} {attempt : UInt32}
    {autoRetry : Bool} :
    policy.decide e attempt autoRetry = .fail ↔
      e.retryable = false ∨ autoRetry = false ∨ policy.maxRetries.toNat ≤ attempt.toNat := by
  unfold decide
  split
  · rename_i h
    simp only [Bool.and_eq_true, decide_eq_true_eq, UInt32.lt_iff_toNat_lt] at h
    obtain ⟨⟨hauto, hretryable⟩, hlt⟩ := h
    simp [hauto, hretryable, hlt]
  · rename_i h
    simp only [Bool.and_eq_true, decide_eq_true_eq, UInt32.lt_iff_toNat_lt] at h
    refine ⟨fun _ => ?_, fun _ => rfl⟩
    by_cases hauto : autoRetry = true
    · by_cases hretryable : e.retryable = true
      · exact Or.inr (Or.inr (not_lt.1 fun hlt => h ⟨⟨hauto, hretryable⟩, hlt⟩))
      · exact Or.inl (by simpa using hretryable)
    · exact Or.inr (Or.inl (by simpa using hauto))

/-- Any other failed attempt is repeated after the delay of its number. -/
theorem decide_eq_retry_of_ne {policy : RetryPolicy} {e : Error} {attempt : UInt32}
    {autoRetry : Bool} (h : policy.decide e attempt autoRetry ≠ .fail) :
    policy.decide e attempt autoRetry = .retry (policy.backoff attempt e.retryAfter?) := by
  unfold decide at h ⊢
  split at h
  · rename_i hc
    rw [if_pos hc]
  · exact absurd rfl h

end RetryPolicy

namespace Transport

variable {σ : Type}

/-! ## Successive outcomes -/

/-- What so many calls of a sender leave behind. -/
def stateAfter (send : σ → Except Error Response × σ) (s : σ) : Nat → σ
  | 0 => s
  | i + 1 => stateAfter send (send s).2 i

/-- How a call of a sender ends, the first one having number zero. -/
def outcome (send : σ → Except Error Response × σ) (s : σ) (i : Nat) : Except Error Response :=
  (send (stateAfter send s i)).1

/-- Whether an attempt of this number that ends so is the last one: it succeeds, its failure is not
worth another attempt, the request forbids one, or the retries are used up. -/
def EndsAt (policy : RetryPolicy) (autoRetry : Bool) (o : Except Error Response) (i : Nat) : Prop :=
  (∃ r, o = .ok r) ∨ (∃ e, o = .error e ∧ e.retryable = false) ∨ autoRetry = false ∨
    policy.maxRetries.toNat ≤ i

/-- Whether attempt `k` is the last one of a run whose attempts are numbered from `first` on. -/
def IsLastFrom (policy : RetryPolicy) (autoRetry : Bool) (send : σ → Except Error Response × σ)
    (s : σ) (first k : Nat) : Prop :=
  IsLeast {i | EndsAt policy autoRetry (outcome send s i) (first + i)} k

/-- Whether attempt `k` is the last one: the least number at which a run can end. -/
def IsLast (policy : RetryPolicy) (autoRetry : Bool) (send : σ → Except Error Response × σ)
    (s : σ) (k : Nat) : Prop :=
  IsLeast {i | EndsAt policy autoRetry (outcome send s i) i} k

@[simp] theorem stateAfter_zero (send : σ → Except Error Response × σ) (s : σ) :
    stateAfter send s 0 = s := rfl

theorem stateAfter_succ (send : σ → Except Error Response × σ) (s : σ) (i : Nat) :
    stateAfter send s (i + 1) = stateAfter send (send s).2 i := rfl

/-- The last of several calls is made in the state that the others leave behind. -/
theorem stateAfter_succ' (send : σ → Except Error Response × σ) (s : σ) (i : Nat) :
    stateAfter send s (i + 1) = (send (stateAfter send s i)).2 := by
  induction i generalizing s with
  | zero => rfl
  | succ i ih => rw [stateAfter_succ, ih, stateAfter_succ]

theorem outcome_zero (send : σ → Except Error Response × σ) (s : σ) :
    outcome send s 0 = (send s).1 := rfl

theorem outcome_succ (send : σ → Except Error Response × σ) (s : σ) (i : Nat) :
    outcome send s (i + 1) = outcome send (send s).2 i := rfl

/-! ## The last attempt -/

/-- Some attempt is the last one, at the latest when the retries are used up. -/
theorem exists_lastAttempt (policy : RetryPolicy) (autoRetry : Bool)
    (send : σ → Except Error Response × σ) (s : σ) :
    ∃ k, IsLast policy autoRetry send s k ∧ k ≤ policy.maxRetries.toNat := by
  classical
  have hmax : EndsAt policy autoRetry (outcome send s policy.maxRetries.toNat)
      policy.maxRetries.toNat := Or.inr (Or.inr (Or.inr le_rfl))
  have hex : ∃ i, EndsAt policy autoRetry (outcome send s i) i := ⟨_, hmax⟩
  exact ⟨Nat.find hex, ⟨Nat.find_spec hex, fun i hi => Nat.find_min' hex hi⟩,
    Nat.find_min' hex hmax⟩

theorem isLastFrom_zero {policy : RetryPolicy} {autoRetry : Bool}
    {send : σ → Except Error Response × σ} {s : σ} {k : Nat} :
    IsLastFrom policy autoRetry send s 0 k ↔ IsLast policy autoRetry send s k := by
  simp only [IsLastFrom, IsLast, Nat.zero_add]

/-- What is left of a run after an attempt that is not the last one. -/
theorem IsLastFrom.next {policy : RetryPolicy} {autoRetry : Bool}
    {send : σ → Except Error Response × σ} {s : σ} {first k : Nat}
    (h : IsLastFrom policy autoRetry send s first (k + 1)) :
    IsLastFrom policy autoRetry send (send s).2 (first + 1) k := by
  refine ⟨?_, fun i hi => ?_⟩
  · have hk : EndsAt policy autoRetry (outcome send s (k + 1)) (first + (k + 1)) := h.1
    rwa [outcome_succ, Nat.add_comm k, ← Nat.add_assoc] at hk
  · have hi' : EndsAt policy autoRetry (outcome send (send s).2 i) (first + 1 + i) := hi
    rw [← outcome_succ, Nat.add_assoc, Nat.add_comm 1] at hi'
    exact Nat.le_of_succ_le_succ (h.2 hi')

/-- An attempt that is not the last one has failed and is repeated. -/
theorem IsLastFrom.failed {policy : RetryPolicy} {autoRetry : Bool}
    {send : σ → Except Error Response × σ} {s : σ} {attempt : UInt32} {k : Nat}
    (h : IsLastFrom policy autoRetry send s attempt.toNat (k + 1)) :
    ∃ e, (send s).1 = .error e ∧
      policy.decide e attempt autoRetry = .retry (policy.backoff attempt e.retryAfter?) := by
  have hnot : ¬EndsAt policy autoRetry (send s).1 attempt.toNat := fun hc =>
    absurd (h.2 (show (0 : Nat) ∈ {i | _} from hc)) (Nat.not_succ_le_zero k)
  cases ho : (send s).1 with
  | ok r => exact absurd (Or.inl ⟨r, ho⟩) hnot
  | error e =>
    refine ⟨e, rfl, RetryPolicy.decide_eq_retry_of_ne fun hfail => hnot ?_⟩
    rcases RetryPolicy.decide_eq_fail_iff.1 hfail with hretryable | hrest
    · exact Or.inr (Or.inl ⟨e, ho, hretryable⟩)
    · exact Or.inr (Or.inr hrest)

/-! ## The run -/

/-- The result of a run whose last attempt ended so. -/
def conclude (o : Except Error Response) (attempt : UInt32) : Except Error Response :=
  o.map fun r => { r with retryCount := attempt }

/-- The report of an attempt that ended so. -/
def report (p : Plan) (o : Except Error Response) (attempt : UInt32) : Event :=
  match o with
  | .ok r => succeeded p r attempt
  | .error e => failed p e attempt

/-- The pause after an attempt that ended so. -/
def pauseAfter (policy : RetryPolicy) (o : Except Error Response) (attempt : UInt32) : UInt32 :=
  match o with
  | .ok _ => 0
  | .error e => policy.backoff attempt e.retryAfter?

theorem attempts_of_ok {policy : RetryPolicy} {p : Plan} {send : σ → Except Error Response × σ}
    {attempt : UInt32} {s : σ} {r : Response} (h : (send s).1 = .ok r) :
    attempts policy p send attempt s =
      ⟨.ok { r with retryCount := attempt }, [succeeded p r attempt], [], (send s).2⟩ := by
  rw [attempts]
  split
  · rename_i r' s' hs
    rw [hs] at h ⊢
    cases h
    rfl
  · rename_i e s' hs
    rw [hs] at h
    cases h

theorem attempts_of_fail {policy : RetryPolicy} {p : Plan} {send : σ → Except Error Response × σ}
    {attempt : UInt32} {s : σ} {e : Error} (h : (send s).1 = .error e)
    (hfail : policy.decide e attempt p.autoRetry = .fail) :
    attempts policy p send attempt s = ⟨.error e, [failed p e attempt], [], (send s).2⟩ := by
  rw [attempts]
  split
  · rename_i r s' hs
    rw [hs] at h
    cases h
  · rename_i e' s' hs
    rw [hs] at h ⊢
    cases h
    split
    · rfl
    · rename_i delay hretry
      rw [hfail] at hretry
      cases hretry

theorem attempts_of_retry {policy : RetryPolicy} {p : Plan} {send : σ → Except Error Response × σ}
    {attempt delay : UInt32} {s : σ} {e : Error} (h : (send s).1 = .error e)
    (hretry : policy.decide e attempt p.autoRetry = .retry delay) :
    attempts policy p send attempt s =
      { attempts policy p send (attempt + 1) (send s).2 with
        events := failed p e attempt :: (attempts policy p send (attempt + 1) (send s).2).events
        pauses := delay :: (attempts policy p send (attempt + 1) (send s).2).pauses } := by
  rw [attempts]
  split
  · rename_i r s' hs
    rw [hs] at h
    cases h
  · rename_i e' s' hs
    rw [hs] at h ⊢
    cases h
    split
    · rename_i hfail
      rw [hfail] at hretry
      cases hretry
    · rename_i delay' hretry'
      rw [hretry'] at hretry
      cases hretry
      rfl

/-- Attempt number `first + i` as a word, for the attempts of a run. -/
theorem add_one_add_ofNat (first : UInt32) (i : Nat) :
    first + 1 + UInt32.ofNat i = first + UInt32.ofNat (i + 1) := by
  rw [UInt32.add_assoc, UInt32.add_comm 1, ← UInt32.ofNat_one, ← UInt32.ofNat_add]

/-- **The loop, solved.**  A run of attempts answers with the outcome of the last one, reports every
attempt under its number, pauses between them, and leaves behind what so many calls of the sender
leave behind. -/
theorem attempts_eq {policy : RetryPolicy} {p : Plan} {send : σ → Except Error Response × σ}
    {first : UInt32} {s : σ} {k : Nat}
    (h : IsLastFrom policy p.autoRetry send s first.toNat k) :
    attempts policy p send first s =
      ⟨conclude (outcome send s k) (first + UInt32.ofNat k),
        (List.range (k + 1)).map fun i => report p (outcome send s i) (first + UInt32.ofNat i),
        (List.range k).map fun i => pauseAfter policy (outcome send s i) (first + UInt32.ofNat i),
        stateAfter send s (k + 1)⟩ := by
  induction k generalizing first s with
  | zero =>
    have hend : EndsAt policy p.autoRetry (send s).1 first.toNat := h.1
    cases ho : (send s).1 with
    | ok r =>
      rw [attempts_of_ok ho]
      simp [outcome_zero, ho, conclude, report, stateAfter_succ, Except.map]
    | error e =>
      have hfail : policy.decide e first p.autoRetry = .fail := by
        rw [ho] at hend
        rw [RetryPolicy.decide_eq_fail_iff]
        rcases hend with ⟨r, hr⟩ | ⟨e', he, hretryable⟩ | hrest
        · cases hr
        · cases he
          exact Or.inl hretryable
        · exact Or.inr hrest
      rw [attempts_of_fail ho hfail]
      simp [outcome_zero, ho, conclude, report, stateAfter_succ, Except.map]
  | succ k ih =>
    obtain ⟨e, ho, hretry⟩ := h.failed
    have hlt : first.toNat < policy.maxRetries.toNat :=
      UInt32.lt_iff_toNat_lt.1 (lt_maxRetries_of_decide hretry)
    -- the counter stays below the number of retries, so that it does not wrap
    have hnum : (first + 1).toNat = first.toNat + 1 := by
      have hmax := policy.maxRetries.toNat_lt
      rw [UInt32.toNat_add, UInt32.toNat_one, Nat.mod_eq_of_lt (by omega)]
    have hnext : IsLastFrom policy p.autoRetry send (send s).2 (first + 1).toNat k := by
      rw [hnum]
      exact h.next
    rw [attempts_of_retry ho hretry, ih hnext]
    simp only [add_one_add_ofNat, ← outcome_succ, ← stateAfter_succ]
    rw [List.range_succ_eq_map (n := k + 1), List.range_succ_eq_map (n := k)]
    simp only [List.map_cons, List.map_map, outcome_zero, ho]
    simp [report, pauseAfter, Function.comp_def]

/-- The same for a run from its first attempt on. -/
theorem attempts_eq_of_isLast {policy : RetryPolicy} {p : Plan}
    {send : σ → Except Error Response × σ} {s : σ} {k : Nat}
    (h : IsLast policy p.autoRetry send s k) :
    attempts policy p send 0 s =
      ⟨conclude (outcome send s k) (.ofNat k),
        (List.range (k + 1)).map fun i => report p (outcome send s i) (.ofNat i),
        (List.range k).map fun i => pauseAfter policy (outcome send s i) (.ofNat i),
        stateAfter send s (k + 1)⟩ := by
  have hfirst : IsLastFrom policy p.autoRetry send s (0 : UInt32).toNat k := isLastFrom_zero.2 h
  rw [attempts_eq hfirst]
  simp only [UInt32.zero_add]

/-! ## Counting calls -/

/-- A sender that writes down how each of its calls ends. -/
def recorded (send : σ → Except Error Response × σ)
    (s : σ × List (Except Error Response)) :
    Except Error Response × σ × List (Except Error Response) :=
  ((send s.1).1, (send s.1).2, s.2 ++ [(send s.1).1])

theorem outcome_recorded (send : σ → Except Error Response × σ) (s : σ)
    (log : List (Except Error Response)) (i : Nat) :
    outcome (recorded send) (s, log) i = outcome send s i := by
  induction i generalizing s log with
  | zero => rfl
  | succ i ih => rw [outcome_succ, outcome_succ]; exact ih _ _

theorem stateAfter_recorded (send : σ → Except Error Response × σ) (s : σ)
    (log : List (Except Error Response)) (i : Nat) :
    stateAfter (recorded send) (s, log) i =
      (stateAfter send s i, log ++ (List.range i).map (outcome send s)) := by
  induction i generalizing s log with
  | zero => simp
  | succ i ih =>
    rw [stateAfter_succ, stateAfter_succ, List.range_succ_eq_map]
    rw [show (recorded send (s, log)).2 = ((send s).2, log ++ [(send s).1]) from rfl, ih]
    simp [outcome_zero, Function.comp_def, outcome_succ]

theorem isLast_recorded {policy : RetryPolicy} {autoRetry : Bool}
    {send : σ → Except Error Response × σ} {s : σ} {log : List (Except Error Response)} {k : Nat} :
    IsLast policy autoRetry (recorded send) (s, log) k ↔ IsLast policy autoRetry send s k := by
  simp only [IsLast, outcome_recorded]

/-- How the calls end that a run of attempts makes of its sender, in their order. -/
def calls (policy : RetryPolicy) (p : Plan) (send : σ → Except Error Response × σ) (s : σ) :
    List (Except Error Response) :=
  (attempts policy p (recorded send) 0 (s, [])).rest.2

/-- Writing down the outcomes changes nothing in a run. -/
theorem attempts_recorded (policy : RetryPolicy) (p : Plan)
    (send : σ → Except Error Response × σ) (s : σ) :
    attempts policy p (recorded send) 0 (s, []) =
      { attempts policy p send 0 s with
        rest := ((attempts policy p send 0 s).rest, calls policy p send s) } := by
  obtain ⟨k, hk, -⟩ := exists_lastAttempt policy p.autoRetry send s
  rw [calls, attempts_eq_of_isLast (isLast_recorded.2 hk), attempts_eq_of_isLast hk]
  simp only [outcome_recorded, stateAfter_recorded]

/-- **The calls of a run** are those up to the last attempt, each made once and in order. -/
theorem calls_eq {policy : RetryPolicy} {p : Plan} {send : σ → Except Error Response × σ} {s : σ}
    {k : Nat} (h : IsLast policy p.autoRetry send s k) :
    calls policy p send s = (List.range (k + 1)).map (outcome send s) := by
  rw [calls, attempts_eq_of_isLast (isLast_recorded.2 h), stateAfter_recorded, List.nil_append]

end Transport

end Courier
