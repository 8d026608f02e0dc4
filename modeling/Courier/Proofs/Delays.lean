import Courier.Proofs.Joined
import Courier.Proofs.Numerals
import Courier.Proofs.Sending
import Courier.Proofs.Transcoding
import Mathlib.Data.UInt

/-!
# Delays

How long a client waits before it repeats an attempt.  Words cut every product at the greatest
word, and the cap of a policy is itself a word, so that no cut is ever seen in a delay: delays are
those of exact arithmetic.

* `RetryPolicy.toNat_saturatingMul`, `RetryPolicy.toNat_doubling` — what is cut, and where.
* `RetryPolicy.min_cut_mul` — a cap hides every cut.
* `RetryPolicy.backoff_exact` — **the delay in exact arithmetic**, after every attempt.
* `Client.retryAfter?_eq_some_iff` — which fields of a reply ask for a delay.
* `Client.rejection_delay` — **from the fields of a rejection to the delay**.
-/

namespace Courier

/-! ## Words -/

namespace RetryPolicy

theorem toNat_maxWord : maxWord.toNat = 2 ^ 32 - 1 := rfl

/-- A product is cut at the greatest word. -/
theorem toNat_saturatingMul (a b : UInt32) :
    (saturatingMul a b).toNat = min (a.toNat * b.toNat) (2 ^ 32 - 1) := by
  unfold saturatingMul
  split
  · rename_i h
    rw [UInt32.toNat_mul, Nat.mod_eq_of_lt h]
    omega
  · rename_i h
    rw [toNat_maxWord]
    omega

/-- A power of two is cut at the greatest word. -/
theorem toNat_doubling (attempt : UInt32) :
    (doubling attempt).toNat = min (2 ^ attempt.toNat) (2 ^ 32 - 1) := by
  unfold doubling
  split
  · rename_i h
    have hlt : attempt.toNat < 32 := h
    have hpow : 2 ^ attempt.toNat < 2 ^ 32 := Nat.pow_lt_pow_right (by decide) hlt
    rw [UInt32.toNat_shiftLeft, Nat.mod_eq_of_lt hlt, UInt32.toNat_one, Nat.one_shiftLeft,
      Nat.mod_eq_of_lt hpow]
    omega
  · rename_i h
    have hle : 32 ≤ attempt.toNat := Nat.le_of_not_lt h
    have hpow : 2 ^ 32 ≤ 2 ^ attempt.toNat := Nat.pow_le_pow_right (by decide) hle
    rw [toNat_maxWord]
    omega

/-! ## Caps -/

theorem toNat_cap (p : RetryPolicy) : p.cap.toNat = max p.minDelay.toNat p.maxDelay.toNat := by
  rw [cap, UInt32.toNat_max, Nat.max_comm]

theorem toNat_cap_le (p : RetryPolicy) : p.cap.toNat ≤ 2 ^ 32 - 1 :=
  Nat.le_pred_of_lt p.cap.toNat_lt

/-- **A cap hides every cut.**  If a cap is not above the place where a factor and the product are
cut, then the product below the cap is the exact one. -/
theorem min_cut_mul {a b cut cap : Nat} (ha : 0 < a) (hcap : cap ≤ cut) :
    min (min (a * min b cut) cut) cap = min (a * b) cap := by
  by_cases hb : b ≤ cut
  · rw [Nat.min_eq_left hb]
    omega
  · have hcut : cut ≤ a * cut := Nat.le_mul_of_pos_left cut ha
    have hexact : b ≤ a * b := Nat.le_mul_of_pos_left b ha
    rw [Nat.min_eq_right (Nat.le_of_not_le hb), Nat.min_eq_right hcut]
    omega

/-! ## The delay after an attempt -/

/-- A delay that is asked for is kept, up to the cap. -/
theorem toNat_backoff_some (p : RetryPolicy) (attempt hint : UInt32) :
    (p.backoff attempt (some hint)).toNat =
      min hint.toNat (max p.minDelay.toNat p.maxDelay.toNat) := by
  rw [backoff, Option.getD_some, UInt32.toNat_min, toNat_cap]

/-- Otherwise the least delay is doubled once for each attempt before, up to the cap. -/
theorem toNat_backoff_none (p : RetryPolicy) (attempt : UInt32) :
    (p.backoff attempt none).toNat =
      min (p.minDelay.toNat * 2 ^ attempt.toNat) (max p.minDelay.toNat p.maxDelay.toNat) := by
  rw [backoff, Option.getD_none, UInt32.toNat_min, ← toNat_cap]
  by_cases hzero : p.minDelay = 0
  · rw [if_pos hzero, hzero, UInt32.toNat_zero, Nat.zero_mul]
  · have hpos : 0 < p.minDelay.toNat :=
      Nat.pos_of_ne_zero fun h => hzero (UInt32.toNat_inj.1 h)
    rw [if_neg hzero, toNat_saturatingMul, toNat_doubling, min_cut_mul hpos p.toNat_cap_le]

/-- **The delay in exact arithmetic.**  After every attempt the delay is what was asked for, or else
the least delay times the power of two of the attempt's number, and in both cases no more than the
greater one of the two delays of the policy. -/
theorem backoff_exact (p : RetryPolicy) (attempt : UInt32) :
    (∀ hint, (p.backoff attempt (some hint)).toNat =
        min hint.toNat (max p.minDelay.toNat p.maxDelay.toNat)) ∧
      (p.backoff attempt none).toNat =
        min (p.minDelay.toNat * 2 ^ attempt.toNat) (max p.minDelay.toNat p.maxDelay.toNat) :=
  ⟨p.toNat_backoff_some attempt, p.toNat_backoff_none attempt⟩

end RetryPolicy

/-! ## Trimming -/

namespace Text

/-- What is dropped at both ends of a text is of the class. -/
theorem exists_trimBy (p : Char → Bool) (cs : List Char) :
    ∃ lead trail, cs = lead ++ trimBy p cs ++ trail ∧ ∀ c ∈ lead ++ trail, p c = true := by
  obtain ⟨trail, htrail, hclass⟩ := exists_dropTrailing p (cs.dropWhile p)
  refine ⟨cs.takeWhile p, trail, ?_, ?_⟩
  · rw [trimBy, List.append_assoc, ← htrail, List.takeWhile_append_dropWhile]
  · exact List.forall_mem_append.2 ⟨fun _ hc => List.mem_takeWhile_imp hc, hclass⟩

/-- Nothing is dropped from a text that begins with characters outside the class. -/
theorem dropWhile_append_of_forall {p : Char → Bool} {cs : List Char} (hne : cs ≠ [])
    (hcs : ∀ c ∈ cs, p c = false) (rest : List Char) : (cs ++ rest).dropWhile p = cs ++ rest := by
  obtain ⟨c, cs, rfl⟩ := List.exists_cons_of_ne_nil hne
  rw [List.cons_append, List.dropWhile_cons_of_neg (by simp [hcs c List.mem_cons_self])]

/-- All that is of the class is dropped around a text that has nothing of it. -/
theorem trimBy_around {p : Char → Bool} {lead cs trail : List Char}
    (hclass : ∀ c ∈ lead ++ trail, p c = true) (hne : cs ≠ []) (hcs : ∀ c ∈ cs, p c = false) :
    trimBy p (lead ++ cs ++ trail) = cs := by
  obtain ⟨hlead, htrail⟩ := List.forall_mem_append.1 hclass
  have hreversed : ∀ c ∈ trail.reverse, p c = true :=
    fun c hc => htrail c (List.mem_reverse.1 hc)
  have hkept : cs.reverse.dropWhile p = cs.reverse := by
    have happend := dropWhile_append_of_forall (List.reverse_ne_nil_iff.2 hne)
      (fun c hc => hcs c (List.mem_reverse.1 hc)) []
    rwa [List.append_nil] at happend
  rw [trimBy, List.append_assoc, List.dropWhile_append_of_pos hlead,
    dropWhile_append_of_forall hne hcs, dropTrailing, List.reverse_append,
    List.dropWhile_append_of_pos hreversed, hkept, List.reverse_reverse]

end Text

/-! ## Plain bytes and their characters -/

namespace Http

open Text (IsNumeral)

/-- The character of a plain byte. -/
def charOf (b : UInt8) : Char := Char.ofNat b.toNat

theorem isPlainByte_iff {b : UInt8} :
    isPlainByte b = true ↔ 32 ≤ b.toNat ∧ b.toNat < 127 ∨ b.toNat = 9 := by
  simp [isPlainByte, UInt8.le_iff_toNat_le, UInt8.lt_iff_toNat_lt, ← UInt8.toNat_inj]

theorem toNat_charOf {b : UInt8} (h : isPlainByte b = true) : (charOf b).toNat = b.toNat := by
  have hplain := isPlainByte_iff.1 h
  exact Text.Utf8.toNat_ofNat (Or.inl (by omega))

theorem plainText?_eq_some_iff {value : List UInt8} {text : String} :
    plainText? value = some text ↔
      (∀ b ∈ value, isPlainByte b = true) ∧ text.toList = value.map charOf := by
  unfold plainText?
  split
  · rename_i h
    rw [Option.some.injEq, ← String.toList_inj, String.toList_ofList]
    exact ⟨fun heq => ⟨List.all_eq_true.1 h, heq.symm⟩, fun heq => heq.2.symm⟩
  · rename_i h
    exact ⟨nofun, fun heq => absurd (List.all_eq_true.2 heq.1) h⟩

/-- Plain bytes are the bytes of their characters. -/
theorem encode_map_charOf {value : List UInt8} (h : ∀ b ∈ value, isPlainByte b = true) :
    Text.Utf8.encode (value.map charOf) = value := by
  induction value with
  | nil => rfl
  | cons b value ih =>
    obtain ⟨hb, hvalue⟩ := List.forall_mem_cons.1 h
    have hsmall : (charOf b).toNat < 0x80 := by
      have hplain := isPlainByte_iff.1 hb
      rw [toNat_charOf hb]
      omega
    rw [List.map_cons, Text.Utf8.encode_cons, Text.Utf8.encodeChar_of_lt hsmall, toNat_charOf hb,
      ih hvalue, Text.Utf8.byte, UInt8.ofNat_toNat, List.singleton_append]

/-- The blanks among plain bytes are the space and the tab. -/
theorem isBlank_charOf {b : UInt8} (h : isPlainByte b = true) :
    Text.isBlank (charOf b) = true ↔ isPadding b = true := by
  have hplain := isPlainByte_iff.1 h
  simp only [Text.isBlank, toNat_charOf h, isPadding, Bool.or_eq_true, Bool.and_eq_true,
    decide_eq_true_eq, beq_iff_eq, ← UInt8.toNat_inj]
  show _ ↔ b.toNat = 32 ∨ b.toNat = 9
  omega

/-! ## Seconds -/

/-- A value that asks for so many seconds: a numeral between spaces and tabs. -/
def WritesSeconds (value : List UInt8) (n : Nat) : Prop :=
  ∃ lead numeral trail, value = lead ++ Text.Utf8.encode numeral ++ trail ∧
    (∀ b ∈ lead ++ trail, isPadding b = true) ∧ IsNumeral numeral n

theorem isPlainByte_of_isPadding {b : UInt8} (h : isPadding b = true) : isPlainByte b = true := by
  have hb : b = 0x20 ∨ b = 0x09 := by simpa [isPadding] using h
  rcases hb with rfl | rfl <;> rfl

/-- The characters of a numeral are plus signs and digits. -/
theorem range_of_isNumeral {cs : List Char} {n : Nat} (h : IsNumeral cs n) {c : Char}
    (hc : c ∈ cs) : c.toNat = 43 ∨ 48 ≤ c.toNat ∧ c.toNat ≤ 57 := by
  obtain ⟨ds, rfl | rfl, -, hdigits, -⟩ := h
  · exact Or.inr (Text.isDigit_iff.1 (hdigits c hc))
  · rcases List.mem_cons.1 hc with rfl | hc
    · exact Or.inl rfl
    · exact Or.inr (Text.isDigit_iff.1 (hdigits c hc))

theorem ne_nil_of_isNumeral {cs : List Char} {n : Nat} (h : IsNumeral cs n) : cs ≠ [] := by
  obtain ⟨ds, rfl | rfl, hne, -, -⟩ := h
  · exact hne
  · exact List.cons_ne_nil _ _

theorem isBlank_numeral {cs : List Char} {n : Nat} (h : IsNumeral cs n) {c : Char} (hc : c ∈ cs) :
    Text.isBlank c = false := by
  have hrange := range_of_isNumeral h hc
  simp only [Text.isBlank, Bool.or_eq_false_iff, Bool.and_eq_false_iff, decide_eq_false_iff_not,
    beq_eq_false_iff_ne]
  omega

/-- A numeral has the same characters and bytes. -/
theorem map_charOf_numeral {cs : List Char} {n : Nat} (h : IsNumeral cs n) :
    (∀ b ∈ Text.Utf8.encode cs, isPlainByte b = true) ∧
      (Text.Utf8.encode cs).map charOf = cs := by
  have hrange := fun c => @range_of_isNumeral cs n h c
  clear h
  induction cs with
  | nil => exact ⟨List.forall_mem_nil _, rfl⟩
  | cons c cs ih =>
    have hc := hrange c List.mem_cons_self
    obtain ⟨hplain, hchars⟩ := ih fun d hd => hrange d (List.mem_cons_of_mem c hd)
    have hbyte : (Text.Utf8.byte c.toNat).toNat = c.toNat := Text.Utf8.toNat_byte (by omega)
    rw [Text.Utf8.encode_cons, Text.Utf8.encodeChar_of_lt (by omega), List.singleton_append]
    refine ⟨List.forall_mem_cons.2 ⟨isPlainByte_iff.2 (by omega), hplain⟩, ?_⟩
    rw [List.map_cons, hchars, charOf, hbyte, Char.ofNat_toNat]

theorem exists_plainText?_of_writesSeconds {value : List UInt8} {n : Nat}
    (h : WritesSeconds value n) :
    ∃ text, plainText? value = some text ∧ IsNumeral (Text.trim text.toList) n := by
  obtain ⟨lead, numeral, trail, rfl, hpadding, hnumeral⟩ := h
  obtain ⟨hplain, hchars⟩ := map_charOf_numeral hnumeral
  obtain ⟨hlead, htrail⟩ := List.forall_mem_append.1 hpadding
  have hall : ∀ b ∈ lead ++ Text.Utf8.encode numeral ++ trail, isPlainByte b = true :=
    List.forall_mem_append.2 ⟨List.forall_mem_append.2
      ⟨fun b hb => isPlainByte_of_isPadding (hlead b hb), hplain⟩,
      fun b hb => isPlainByte_of_isPadding (htrail b hb)⟩
  have htrim : Text.trim (lead.map charOf ++ numeral ++ trail.map charOf) = numeral := by
    refine Text.trimBy_around ?_ (ne_nil_of_isNumeral hnumeral) ?_
    · rw [← List.map_append]
      intro c hc
      obtain ⟨b, hb, rfl⟩ := List.mem_map.1 hc
      exact (isBlank_charOf (isPlainByte_of_isPadding (hpadding b hb))).2 (hpadding b hb)
    · exact fun c hc => isBlank_numeral hnumeral hc
  refine ⟨String.ofList ((lead ++ Text.Utf8.encode numeral ++ trail).map charOf),
    plainText?_eq_some_iff.2 ⟨hall, String.toList_ofList⟩, ?_⟩
  rw [String.toList_ofList, List.map_append, List.map_append, hchars, htrim]
  exact hnumeral

theorem writesSeconds_of_plainText? {value : List UInt8} {text : String} {n : Nat}
    (htext : plainText? value = some text) (hnumeral : IsNumeral (Text.trim text.toList) n) :
    WritesSeconds value n := by
  obtain ⟨hplain, hchars⟩ := plainText?_eq_some_iff.1 htext
  obtain ⟨lead, trail, hsplit, hblank⟩ := Text.exists_trimBy Text.isBlank text.toList
  change _ = lead ++ Text.trim text.toList ++ trail at hsplit
  generalize Text.trim text.toList = numeral at hsplit hnumeral
  -- the three parts of the text come from three parts of the value
  rw [hchars] at hsplit
  obtain ⟨front, last, rfl, hfront, rfl⟩ := List.map_eq_append_iff.1 hsplit
  obtain ⟨first, middle, rfl, rfl, rfl⟩ := List.map_eq_append_iff.1 hfront
  obtain ⟨hplain, hlast⟩ := List.forall_mem_append.1 hplain
  obtain ⟨hfirst, hmiddle⟩ := List.forall_mem_append.1 hplain
  refine ⟨first, middle.map charOf, last, ?_, ?_, hnumeral⟩
  · rw [encode_map_charOf hmiddle]
  · intro b hb
    have hb' := @List.mem_map_of_mem _ _ _ _ charOf hb
    rw [List.map_append] at hb'
    exact (isBlank_charOf (List.forall_mem_append.2 ⟨hfirst, hlast⟩ b hb)).1 (hblank _ hb')

/-- **Which values ask for seconds**: plain ones that are a numeral without the blanks around. -/
theorem writesSeconds_iff {value : List UInt8} {n : Nat} :
    WritesSeconds value n ↔
      ∃ text, plainText? value = some text ∧ IsNumeral (Text.trim text.toList) n := by
  constructor
  · exact exists_plainText?_of_writesSeconds
  · rintro ⟨text, htext, hnumeral⟩
    exact writesSeconds_of_plainText? htext hnumeral

/-- Whether fields ask a client to wait so many seconds: their first field of that name gives a
number of 32 bits. -/
def Fields.AskFor (fields : Fields) (n : Nat) : Prop :=
  ∃ value, fields.first? "retry-after" = some value ∧ WritesSeconds value n ∧ n < 2 ^ 32

end Http

namespace Client

/-! ## From a reply to a delay -/

/-- Which fields ask for a delay, and for which one. -/
theorem retryAfter?_eq_some_iff {fields : Http.Fields} {hint : UInt32} :
    retryAfter? fields = some hint ↔
      ∃ n, fields.AskFor n ∧ hint = RetryPolicy.saturatingMul (.ofNat n) 1000 := by
  have hname : Http.lower "retry-after" = "retry-after" := by decide
  have htext : fields.text? "retry-after" =
      (fields.first? "retry-after").bind Http.plainText? := by rw [Http.Fields.text?, hname]
  unfold retryAfter?
  rw [htext]
  constructor
  · intro h
    split at h
    · cases h
    · rename_i text hplain
      obtain ⟨value, hvalue, hplain⟩ := Option.bind_eq_some_iff.1 hplain
      split at h
      · rename_i n hnumeral
        obtain ⟨hnumeral, hle⟩ := Text.numeral_eq_ok_iff.1 hnumeral
        exact ⟨n, ⟨value, hvalue, Http.writesSeconds_iff.2 ⟨text, hplain, hnumeral⟩,
          Nat.lt_succ_of_le hle⟩, (Option.some.inj h).symm⟩
      · cases h
  · rintro ⟨n, ⟨value, hvalue, hseconds, hlt⟩, rfl⟩
    obtain ⟨text, hplain, hnumeral⟩ := Http.writesSeconds_iff.1 hseconds
    have hread : Text.numeral32 (Text.trim text.toList) = .ok n :=
      Text.numeral_eq_ok_iff.2 ⟨hnumeral, Nat.le_of_lt_succ hlt⟩
    rw [hvalue, Option.bind_some, hplain]
    simp only [hread]

/-- A number of seconds as a hint in milliseconds, which is cut at the greatest word. -/
theorem exists_hint_of_askFor {fields : Http.Fields} {n : Nat} (h : fields.AskFor n) :
    ∃ hint, retryAfter? fields = some hint ∧ hint.toNat = min (1000 * n) (2 ^ 32 - 1) := by
  refine ⟨_, retryAfter?_eq_some_iff.2 ⟨n, h, rfl⟩, ?_⟩
  obtain ⟨value, -, -, hlt⟩ := h
  rw [RetryPolicy.toNat_saturatingMul, UInt32.toNat_ofNat_of_lt' hlt, Nat.mul_comm]
  rfl

/-- Fields that ask for nothing give no hint. -/
theorem retryAfter?_eq_none {fields : Http.Fields} (h : ∀ n, ¬fields.AskFor n) :
    retryAfter? fields = none := by
  cases hhint : retryAfter? fields with
  | none => rfl
  | some hint =>
    obtain ⟨n, hasks, -⟩ := retryAfter?_eq_some_iff.1 hhint
    exact absurd hasks (h n)

/-- An attempt below the number of retries that ends in a failure worth another one is repeated. -/
theorem decide_of_retryable {policy : RetryPolicy} {e : Error} {attempt : UInt32}
    (hretryable : e.retryable = true) (hattempt : attempt < policy.maxRetries) :
    policy.decide e attempt true = .retry (policy.backoff attempt e.retryAfter?) := by
  simp [RetryPolicy.decide, hretryable, hattempt]

/-- **From the fields of a rejection to the delay.**  A reply under one of the six statuses that are
worth another attempt is a rejection.  If its fields ask for seconds, the rejection has them as its
hint in milliseconds, cut at the greatest word, and the delay is the exact number of milliseconds up
to the cap; otherwise it has no hint, and the delay is the doubled one. -/
theorem rejection_delay {reply : Http.Reply}
    (hstatus : reply.status ∈ [408, 429, 500, 502, 503, 504]) {policy : RetryPolicy}
    {attempt : UInt32} (hattempt : attempt < policy.maxRetries) :
    ∃ e, respond reply = .error e ∧
      (∀ n, reply.fields.AskFor n →
        (∃ hint, e.retryAfter? = some hint ∧ hint.toNat = min (1000 * n) (2 ^ 32 - 1)) ∧
          ∃ delay, policy.decide e attempt true = .retry delay ∧
            delay.toNat = min (1000 * n) (max policy.minDelay.toNat policy.maxDelay.toNat)) ∧
      ((∀ n, ¬reply.fields.AskFor n) →
        e.retryAfter? = none ∧
          ∃ delay, policy.decide e attempt true = .retry delay ∧
            delay.toNat = min (policy.minDelay.toNat * 2 ^ attempt.toNat)
              (max policy.minDelay.toNat policy.maxDelay.toNat)) := by
  have hrejected : ¬(200 ≤ reply.status ∧ reply.status < 300) := by
    simp only [List.mem_cons, List.not_mem_nil, or_false] at hstatus
    omega
  have hretryable : (Error.rejected (rejectionOf reply)).retryable = true :=
    (Http.FailureCode.retryable_ofStatus_iff reply.status).2 hstatus
  have hdecide := decide_of_retryable hretryable hattempt
  refine ⟨_, respond_of_rejection hrejected, ?_, ?_⟩
  · intro n hasks
    obtain ⟨hint, hhint, hnat⟩ := exists_hint_of_askFor hasks
    have hafter : (Error.rejected (rejectionOf reply)).retryAfter? = some hint := hhint
    refine ⟨⟨hint, hafter, hnat⟩, _, hdecide, ?_⟩
    have hminDelay := policy.minDelay.toNat_lt
    have hmaxDelay := policy.maxDelay.toNat_lt
    rw [hafter, RetryPolicy.toNat_backoff_some, hnat]
    omega
  · intro hnone
    have hafter : (Error.rejected (rejectionOf reply)).retryAfter? = none :=
      retryAfter?_eq_none hnone
    refine ⟨hafter, _, hdecide, ?_⟩
    rw [hafter, RetryPolicy.toNat_backoff_none]

/-- A rejection that asks for a time whose milliseconds do not fit a word, and then for a second. -/
def longWait : Http.Reply :=
  ⟨429, [("date", []), ("retry-after", Text.Utf8.bytesOf "\t+0004294968 "),
    ("retry-after", Text.Utf8.bytesOf "1")], [], true⟩

/-- A rejection that asks for a date, and then for a second. -/
def datedWait : Http.Reply :=
  ⟨503, [("retry-after", Text.Utf8.bytesOf "Wed, 21 Oct 2015 07:28:00 GMT"),
    ("retry-after", Text.Utf8.bytesOf "1")], [], true⟩

/-- The first rejection is followed by the longest delay there is, the second one by the delay of
its attempt. -/
theorem rejection_delay_of_longWait :
    (2 : UInt32) < (⟨3, 100, 4294967295⟩ : RetryPolicy).maxRetries ∧
      longWait.fields.AskFor 4294968 ∧ (∀ n, ¬datedWait.fields.AskFor n) ∧
      (∃ e delay, respond longWait = .error e ∧
        RetryPolicy.decide ⟨3, 100, 4294967295⟩ e 2 true = .retry delay ∧
        delay.toNat = 4294967295) ∧
      ∃ e delay, respond datedWait = .error e ∧ e.retryAfter? = none ∧
        RetryPolicy.decide ⟨3, 100, 4294967295⟩ e 2 true = .retry delay ∧ delay.toNat = 400 := by
  have hattempt : (2 : UInt32) < (⟨3, 100, 4294967295⟩ : RetryPolicy).maxRetries := by decide
  have hasks : longWait.fields.AskFor 4294968 := by
    have hpadding : ∀ b ∈ [(0x09 : UInt8), 0x20], Http.isPadding b = true :=
      List.all_eq_true.1 (by decide)
    have hdigits : ∀ d ∈ "0004294968".toList, d.isDigit = true := List.all_eq_true.1 (by decide)
    refine ⟨_, rfl, ⟨[0x09], "+0004294968".toList, [0x20], by decide, hpadding, ?_⟩, by decide⟩
    exact ⟨"0004294968".toList, Or.inr rfl, by decide, hdigits, by decide⟩
  have hnone : ∀ n, ¬datedWait.fields.AskFor n := by
    intro n h
    obtain ⟨hint, hhint, -⟩ := exists_hint_of_askFor h
    have hdated : retryAfter? datedWait.fields = none := by decide +kernel
    rw [hdated] at hhint
    cases hhint
  obtain ⟨e, he, hlong, -⟩ := @rejection_delay longWait (by decide) _ _ hattempt
  obtain ⟨e', he', -, hdated⟩ := @rejection_delay datedWait (by decide) _ _ hattempt
  obtain ⟨-, delay, hdelay, hnat⟩ := hlong 4294968 hasks
  obtain ⟨hhint', delay', hdelay', hnat'⟩ := hdated hnone
  exact ⟨hattempt, hasks, hnone, ⟨e, delay, he, hdelay, hnat⟩,
    ⟨e', delay', he', hhint', hdelay', hnat'⟩⟩

end Client

end Courier
