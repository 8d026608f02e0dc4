import Courier.Proofs.Attempts
import Courier.Proofs.Preparation
import Courier.Proofs.Sending

/-!
# What a dispatch comes to

Once a request has its plan, a dispatch is the retry loop over the client's attempts.  Its answer is
the outcome of the last attempt, and which one that is follows from the outcomes alone.

* `dispatch_of_prepare` — a dispatch is its plan carried out.
* `EndsWith` — what it means that a run ends with an attempt of some number.
* `dispatch_endsWith_last` — **every run of a prepared request ends with the last attempt**, the one
  at which the policy first lets it end.
-/

namespace Courier

/-- The number of the attempt that a report is about, if it is about one. -/
def Event.attempt? : Event → Option UInt32
  | .succeeded _ _ _ attempt => some attempt
  | .failed _ _ _ attempt _ => some attempt
  | _ => none

/-- Only the dispatcher reports attempts. -/
theorem Event.attempt?_of_credentials {e : Event} (h : e.reporter = .credentials) :
    e.attempt? = none := by
  cases e with
  | succeeded => cases h
  | failed => cases h
  | _ => rfl

namespace Transport

variable {ρ : Type} [Request ρ]

/-! ## From a request to its attempts -/

/-- A request that has a plan is carried out behind what was reported before. -/
theorem dispatch_of_prepare {t : Transport} {r : ρ} {s : Surroundings} {requestId : String}
    {p : Plan} (h : t.prepare r s requestId = .ok p) (n : Network) :
    t.dispatch r s requestId n =
      { t.carryOut p n with
        events := (t.makePlan r s requestId).events ++ (t.carryOut p n).events } := by
  have hmade : (t.makePlan r s requestId).result = .ok p := h
  simp only [dispatch, hmade]

/-- A plan is carried out by the attempts up to the last one. -/
theorem carryOut_eq {t : Transport} {p : Plan} {n : Network} {k : Nat}
    (h : IsLast t.config.retry p.autoRetry (t.client.send p) n k) :
    t.carryOut p n =
      ⟨conclude (outcome (t.client.send p) n k) (.ofNat k),
        begun p ::
          (List.range (k + 1)).map fun i => report p (outcome (t.client.send p) n i) (.ofNat i),
        (List.range k).map fun i =>
          pauseAfter t.config.retry (outcome (t.client.send p) n i) (.ofNat i),
        stateAfter (t.client.send p) n (k + 1)⟩ := by
  rw [carryOut, attempts_eq_of_isLast h]

/-! ## Runs and their last attempts -/

theorem attempt?_report (p : Plan) (o : Except Error Response) (attempt : UInt32) :
    (report p o attempt).attempt? = some attempt := by
  cases o with
  | ok r => rfl
  | error e => rfl

/-- The reports of attempts carry their numbers. -/
theorem filterMap_attempt?_reports (p : Plan) (o : Nat → Except Error Response) (m : Nat) :
    ((List.range m).map fun i => report p (o i) (.ofNat i)).filterMap Event.attempt? =
      (List.range m).map UInt32.ofNat := by
  have hsome : (Event.attempt? ∘ fun i => report p (o i) (.ofNat i)) = some ∘ UInt32.ofNat :=
    funext fun i => attempt?_report p (o i) (.ofNat i)
  rw [List.filterMap_map, hsome, List.filterMap_eq_map]

/-- A number up to the greatest number of retries survives as a word. -/
theorem toNat_ofNat_of_le {policy : RetryPolicy} {i : Nat} (h : i ≤ policy.maxRetries.toNat) :
    (UInt32.ofNat i).toNat = i := by
  have hmax := policy.maxRetries.toNat_lt
  rw [UInt32.toNat_ofNat', Nat.mod_eq_of_lt (by omega)]

/-- The reports of a run that are about attempts. -/
def attemptsAmong (events : List Event) : List Event := events.filter fun e => e.attempt?.isSome

variable {σ : Type}

/-- A run of a plan by a sender that ends with attempt `k`. -/
structure EndsWith (policy : RetryPolicy) (p : Plan) (send : σ → Except Error Response × σ) (s : σ)
    (run : Run σ) (k : Nat) : Prop where
  /-- No earlier attempt could have been the last one, and this one can. -/
  isLast : IsLast policy p.autoRetry send s k
  /-- The counter stays within the retries. -/
  le_maxRetries : k ≤ policy.maxRetries.toNat
  /-- The same loop with a sender that writes down its calls makes the calls `0` to `k`. -/
  calls :
    attempts policy p (recorded send) 0 (s, []) =
      ⟨run.result, attemptsAmong run.events, run.pauses,
        (run.rest, (List.range (k + 1)).map (outcome send s))⟩
  /-- The run answers what attempt `k` came to. -/
  result : run.result = conclude (outcome send s k) (.ofNat k)
  /-- A response says how many attempts failed before it. -/
  retryCount : ∀ r, run.result = .ok r → r.retryCount.toNat = k
  /-- What is left is what so many calls of the sender leave. -/
  rest : run.rest = stateAfter send s (k + 1)
  /-- The attempts are counted without a gap. -/
  numbers : (run.events.filterMap Event.attempt?).map UInt32.toNat = List.range (k + 1)

/-- **Every run of attempts** ends with the last one, whatever its sender does. -/
theorem endsWith_attempts {policy : RetryPolicy} {p : Plan}
    {send : σ → Except Error Response × σ} {s : σ} {k : Nat}
    (h : IsLast policy p.autoRetry send s k) (hle : k ≤ policy.maxRetries.toNat) :
    EndsWith policy p send s (attempts policy p send 0 s) k := by
  have hrun := attempts_eq_of_isLast h
  refine ⟨h, hle, ?_, by rw [hrun], ?_, by rw [hrun], ?_⟩
  · have hall : attemptsAmong (attempts policy p send 0 s).events =
        (attempts policy p send 0 s).events := by
      refine List.filter_eq_self.2 fun e he => ?_
      rw [hrun] at he
      obtain ⟨i, -, rfl⟩ := List.mem_map.1 he
      rw [attempt?_report, Option.isSome_some]
    rw [attempts_recorded, calls_eq h, hall]
  · intro r hr
    rw [hrun] at hr
    cases ho : outcome send s k with
    | ok r' =>
      simp only [conclude, ho, Except.map, Except.ok.injEq] at hr
      rw [← hr]
      exact toNat_ofNat_of_le hle
    | error e =>
      simp only [conclude, ho, Except.map] at hr
      cases hr
  · rw [hrun, filterMap_attempt?_reports, List.map_map]
    conv_rhs => rw [← List.map_id (List.range (k + 1))]
    refine List.map_congr_left fun i hi => ?_
    have hik : i ≤ k := Nat.le_of_lt_succ (List.mem_range.1 hi)
    exact toNat_ofNat_of_le (hik.trans hle)

/-- Reports in front that are not about attempts change nothing. -/
theorem EndsWith.behind {policy : RetryPolicy} {p : Plan} {send : σ → Except Error Response × σ}
    {s : σ} {run : Run σ} {k : Nat} (h : EndsWith policy p send s run k) {front : List Event}
    (hfront : ∀ e ∈ front, e.attempt? = none) :
    EndsWith policy p send s { run with events := front ++ run.events } k where
  isLast := h.isLast
  le_maxRetries := h.le_maxRetries
  calls := by
    have hnone : attemptsAmong front = [] := by
      refine List.filter_eq_nil_iff.2 fun e he => ?_
      rw [hfront e he]
      exact Bool.false_ne_true
    have hsame : attemptsAmong (front ++ run.events) = attemptsAmong run.events := by
      rw [attemptsAmong, List.filter_append]
      exact congrArg (· ++ attemptsAmong run.events) hnone
    simp only [hsame]
    exact h.calls
  result := h.result
  retryCount := h.retryCount
  rest := h.rest
  numbers := by
    rw [List.filterMap_append, List.filterMap_eq_nil_iff.2 hfront]
    exact h.numbers

/-- A plan is carried out up to its last attempt. -/
theorem endsWith_carryOut {t : Transport} {p : Plan} {n : Network} {k : Nat}
    (h : IsLast t.config.retry p.autoRetry (t.client.send p) n k)
    (hle : k ≤ t.config.retry.maxRetries.toNat) :
    EndsWith t.config.retry p (t.client.send p) n (t.carryOut p n) k :=
  (endsWith_attempts h hle).behind
    (List.forall_mem_singleton.2 (show (begun p).attempt? = none from rfl))

/-- A request that has its plan is carried out up to the last attempt. -/
theorem exists_endsWith_dispatch {t : Transport} {r : ρ} {s : Surroundings} {requestId : String}
    {p : Plan} (h : t.prepare r s requestId = .ok p) (n : Network) :
    ∃ k, EndsWith t.config.retry p (t.client.send p) n (t.dispatch r s requestId n) k := by
  obtain ⟨k, hk, hle⟩ := exists_lastAttempt t.config.retry p.autoRetry (t.client.send p) n
  rw [dispatch_of_prepare h]
  exact ⟨k, (endsWith_carryOut hk hle).behind fun e he =>
    Event.attempt?_of_credentials (reporter_makePlan he)⟩

/-- **The outcome of the retry loop.**  A request that has its plan ends with the last attempt: the
first one that succeeds, whose failure is not worth another one, after which the request forbids
another one, or for which no retry is left.  The loop ends so with any other sender as well,
whatever the outcomes of its calls are.  An attempt succeeds exactly with a reply of 200 to 299 that
is read in full, every other reply that is read in full is rejected under its status, an attempt
without such a reply fails on its way, and the failures that are worth another attempt are six
statuses, timeouts and connections not made. -/
theorem dispatch_endsWith_last {t : Transport} {r : ρ} {s : Surroundings} {requestId : String}
    {p : Plan} (h : t.prepare r s requestId = .ok p) (n : Network) :
    (∃ k, EndsWith t.config.retry p (t.client.send p) n (t.dispatch r s requestId n) k) ∧
      (∀ (σ : Type) (send : σ → Except Error Response × σ) (x : σ),
        ∃ k, EndsWith t.config.retry p send x (attempts t.config.retry p send 0 x) k) ∧
      (∀ m response, (t.client.send p m).1 = .ok response ↔
        ∃ reply, t.client.ReadsReply p m reply ∧ (200 ≤ reply.status ∧ reply.status < 300) ∧
          response = ⟨reply.status, reply.fields, reply.body, 0⟩) ∧
      (∀ m x, (t.client.send p m).1 = .error (.rejected x) ↔
        ∃ reply, t.client.ReadsReply p m reply ∧ ¬(200 ≤ reply.status ∧ reply.status < 300) ∧
          x = Client.rejectionOf reply) ∧
      (∀ m, (∀ reply, ¬t.client.ReadsReply p m reply) →
        ∃ f, (t.client.send p m).1 = .error (.transport (.exchange f))) ∧
      ∀ m e, (t.client.send p m).1 = .error e →
        (e.retryable = true ↔
          (∃ x, e = .rejected x ∧ x.status ∈ [408, 429, 500, 502, 503, 504]) ∨
            e = .transport (.exchange .timeout) ∨ e = .transport (.exchange .connect)) := by
  refine ⟨exists_endsWith_dispatch h n, ?_, ?_, ?_, ?_, ?_⟩
  · intro σ send x
    obtain ⟨k, hk, hle⟩ := exists_lastAttempt t.config.retry p.autoRetry send x
    exact ⟨k, endsWith_attempts hk hle⟩
  · exact fun m response => Client.send_eq_ok_iff
  · exact fun m x => Client.send_eq_rejected_iff
  · exact fun m hm => Client.send_of_not_readsReply hm
  · exact fun m e he => Client.send_retryable_iff he

/-- A transport to a server on the same machine, with one retry. -/
def toLocalServer : Transport :=
  ⟨(Config.new "http://127.0.0.1:18080").withRetry ⟨1, 0, 0⟩, ⟨none⟩, .none⟩

/-- A server on the same machine that is unavailable for one message. -/
def unavailableOnce : Network :=
  ⟨some (.address4 0x7F000001, 18080), [], [.reply 503 [] [] 0, .reply 200 [] [] 0], [], []⟩

/-- A server on the same machine that takes one message without an answer, and then replies. -/
def silentOnce : Network :=
  ⟨some (.address4 0x7F000001, 18080), [], [.silence true, .reply 200 [] [] 0], [], []⟩

/-- A request for the users that needs no credential. -/
def usersRequest : Descriptor := (Descriptor.new "/users").withAuthenticated false

/-- A request that takes too long and is then answered by 200 ends with its second attempt. -/
theorem dispatch_endsWith_second :
    ∃ p, toLocalServer.prepare usersRequest ⟨[], []⟩ "id-1" = .ok p ∧
      EndsWith toLocalServer.config.retry p (toLocalServer.client.send p) silentOnce
        (toLocalServer.dispatch usersRequest ⟨[], []⟩ "id-1" silentOnce) 1 := by
  obtain ⟨p, hp⟩ : ∃ p, toLocalServer.prepare usersRequest ⟨[], []⟩ "id-1" = .ok p :=
    Result.exists_of_isOk (by decide +kernel)
  obtain ⟨⟨k, hk⟩, -⟩ := dispatch_endsWith_last hp silentOnce
  have hnumbers : ((toLocalServer.dispatch usersRequest ⟨[], []⟩ "id-1"
      silentOnce).events.filterMap Event.attempt?).map UInt32.toNat = [0, 1] := by
    decide +kernel
  have hlength : k + 1 = 2 := by
    simpa using congrArg List.length (hk.numbers.symm.trans hnumbers)
  obtain rfl : k = 1 := by omega
  exact ⟨p, hp, hk⟩

end Transport

end Courier
