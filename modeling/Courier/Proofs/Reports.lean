import Courier.Proofs.Dispatch

/-!
# Reports of a dispatch

A dispatch reports that it begins, and then each of its attempts.  Before it has a plan, it reports
nothing but a lookup in a secret store that was in vain.  What it reports, what it calls and what it
answers are made at three places of the loop; this file shows that they tell one story.

* `IsLog` — what it means that reports are a faithful log of attempts.
* `isLog_attempts` — **every run of attempts is logged**, whatever its sender does.
* `Client.send_status_iff` — the status of an attempt is that of the reply that it read in full.
* `dispatch_is_logged` — **the reports of a dispatch** are the log of its attempts.
-/

namespace Courier

/-! ## What reports tell -/

namespace Event

/-- The verb that a report tells, if it tells one. -/
def method? : Event → Option Http.Method
  | .begun method .. => some method
  | .succeeded method .. => some method
  | .failed method .. => some method
  | _ => none

/-- The path that a report tells, if it tells one. -/
def path? : Event → Option String
  | .begun _ path .. => some path
  | .succeeded _ path .. => some path
  | .failed _ path .. => some path
  | _ => none

/-- The status that a report tells, if it tells one. -/
def status? : Event → Option Nat
  | .succeeded _ _ status _ => some status
  | .failed _ _ status _ _ => status
  | _ => none

/-- The text of the error that a failed attempt is reported with. -/
def failure? : Event → Option String
  | .failed _ _ _ _ error => some error
  | _ => none

end Event

namespace Transport

/-- The status of an attempt that ended so, if it got one. -/
def statusOf : Except Error Response → Option Nat
  | .ok r => some r.status
  | .error e => e.status?

/-- The text of the error of an attempt that failed. -/
def failureOf : Except Error Response → Option String
  | .ok _ => none
  | .error e => some e.message

section
variable (p : Plan) (o : Except Error Response) (attempt : UInt32)

@[simp] theorem reporter_report : (report p o attempt).reporter = .dispatcher := by
  cases o <;> rfl

@[simp] theorem method?_report : (report p o attempt).method? = some p.method := by
  cases o <;> rfl

@[simp] theorem path?_report : (report p o attempt).path? = some p.path := by
  cases o <;> rfl

@[simp] theorem status?_report : (report p o attempt).status? = statusOf o := by
  cases o <;> rfl

@[simp] theorem failure?_report : (report p o attempt).failure? = failureOf o := by
  cases o <;> rfl

theorem message_report_ok (r : Response) :
    (report p (.ok r) attempt).message = "request succeeded" := rfl

theorem message_report_error (e : Error) :
    (report p (.error e) attempt).message = "request attempt failed" := rfl

end

/-! ## Logs -/

/-- Reports are a faithful log of the attempts of a plan, which ended in these ways and came to this
result. -/
structure IsLog (p : Plan) (outcomes : List (Except Error Response))
    (result : Except Error Response) (reports : List Event) : Prop where
  /-- Each attempt has one report, and each report is about the plan. -/
  length : reports.length = outcomes.length
  about : ∀ e ∈ reports, e.method? = some p.method ∧ e.path? = some p.path
  /-- The attempts are counted from zero on without a gap. -/
  numbers : reports.map (fun e => e.attempt?.map UInt32.toNat) =
    (List.range outcomes.length).map some
  /-- A report tells the status that its attempt got. -/
  statuses : reports.map Event.status? = outcomes.map statusOf
  /-- A report of a failure tells the error. -/
  failures : reports.map Event.failure? = outcomes.map failureOf
  /-- All reports but the last one tell failures. -/
  earlier : ∀ e ∈ reports.dropLast, e.message = "request attempt failed"
  /-- The last report tells whether there is a response, and how many attempts came before. -/
  last : ∃ e, reports.getLast? = some e ∧
    (e.message = "request succeeded" ↔ ∃ r, result = .ok r) ∧
    (e.message = "request attempt failed" ↔ ∃ x, result = .error x) ∧
    ∀ r, result = .ok r → e.attempt? = some r.retryCount

/-- The report of the last attempt tells what the run answers. -/
theorem last_report (p : Plan) (o : Except Error Response) (attempt : UInt32) :
    ((report p o attempt).message = "request succeeded" ↔
        ∃ r, conclude o attempt = .ok r) ∧
      ((report p o attempt).message = "request attempt failed" ↔
        ∃ x, conclude o attempt = .error x) ∧
      ∀ r, conclude o attempt = .ok r → (report p o attempt).attempt? = some r.retryCount := by
  have hmessages : "request succeeded" ≠ "request attempt failed" := by decide
  cases o with
  | ok r =>
    rw [message_report_ok, attempt?_report]
    refine ⟨⟨fun _ => ⟨_, rfl⟩, fun _ => rfl⟩, ⟨fun h => absurd h hmessages, ?_⟩, ?_⟩
    · rintro ⟨x, hx⟩
      cases hx
    · rintro r' hr'
      cases hr'
      rfl
  | error e =>
    rw [message_report_error]
    refine ⟨⟨fun h => absurd h.symm hmessages, ?_⟩, ⟨fun _ => ⟨_, rfl⟩, fun _ => rfl⟩, ?_⟩
    · rintro ⟨r, hr⟩
      cases hr
    · rintro r hr
      cases hr

variable {σ : Type}

/-- An attempt before the last one has failed. -/
theorem IsLast.failed {policy : RetryPolicy} {autoRetry : Bool}
    {send : σ → Except Error Response × σ} {s : σ} {k : Nat}
    (h : IsLast policy autoRetry send s k) {i : Nat} (hi : i < k) :
    ∃ e, outcome send s i = .error e := by
  cases ho : outcome send s i with
  | ok r =>
    have hend : EndsAt policy autoRetry (outcome send s i) i := Or.inl ⟨r, ho⟩
    exact absurd (h.2 hend) (Nat.not_le_of_lt hi)
  | error e => exact ⟨e, rfl⟩

/-- **Every run of attempts is logged**, whatever its sender does. -/
theorem isLog_attempts (policy : RetryPolicy) (p : Plan) (send : σ → Except Error Response × σ)
    (s : σ) :
    IsLog p (calls policy p send s) (attempts policy p send 0 s).result
      (attempts policy p send 0 s).events := by
  obtain ⟨k, hk, hle⟩ := exists_lastAttempt policy p.autoRetry send s
  rw [calls_eq hk, attempts_eq_of_isLast hk]
  refine ⟨?_, ?_, ?_, ?_, ?_, ?_, ?_⟩
  · rw [List.length_map, List.length_map]
  · intro e he
    obtain ⟨i, -, rfl⟩ := List.mem_map.1 he
    exact ⟨method?_report .., path?_report ..⟩
  · rw [List.map_map, List.length_map, List.length_range]
    refine List.map_congr_left fun i hi => ?_
    have hik : i ≤ k := Nat.le_of_lt_succ (List.mem_range.1 hi)
    show (report p _ _).attempt?.map UInt32.toNat = some i
    rw [attempt?_report, Option.map_some, toNat_ofNat_of_le (hik.trans hle)]
  · rw [List.map_map, List.map_map]
    exact List.map_congr_left fun i _ => status?_report ..
  · rw [List.map_map, List.map_map]
    exact List.map_congr_left fun i _ => failure?_report ..
  · intro e he
    rw [List.range_succ, List.map_append, List.map_singleton, List.dropLast_concat] at he
    obtain ⟨i, hi, rfl⟩ := List.mem_map.1 he
    obtain ⟨x, hx⟩ := hk.failed (List.mem_range.1 hi)
    rw [hx, message_report_error]
  · refine ⟨report p (outcome send s k) (.ofNat k), ?_, last_report ..⟩
    rw [List.range_succ, List.map_append, List.map_singleton, List.getLast?_concat]

end Transport

/-! ## Statuses -/

namespace Client

open Transport (statusOf)

/-- The status of a reply that is read in full, whether it is a success or not. -/
theorem statusOf_respond (reply : Http.Reply) : statusOf (respond reply) = some reply.status := by
  by_cases h : 200 ≤ reply.status ∧ reply.status < 300
  · rw [respond_of_success h]
    rfl
  · rw [respond_of_rejection h]
    rfl

/-- **The status of an attempt** is that of the reply that it read in full. -/
theorem send_status_iff {client : Client} {p : Plan} {n : Network} {status : Nat} :
    statusOf (client.send p n).1 = some status ↔
      ∃ reply, client.ReadsReply p n reply ∧ reply.status = status := by
  constructor
  · intro h
    by_cases hread : ∃ reply, client.ReadsReply p n reply
    · obtain ⟨reply, hreply⟩ := hread
      rw [send_of_readsReply hreply, statusOf_respond] at h
      exact ⟨reply, hreply, Option.some.inj h⟩
    · obtain ⟨f, hf⟩ := send_of_not_readsReply (not_exists.1 hread)
      rw [hf] at h
      cases h
  · rintro ⟨reply, hreply, rfl⟩
    rw [send_of_readsReply hreply, statusOf_respond]

/-- An attempt has no status exactly if it failed on its way. -/
theorem send_no_status_iff {client : Client} {p : Plan} {n : Network} :
    statusOf (client.send p n).1 = none ↔ ∃ f, (client.send p n).1 = .error (.transport f) := by
  constructor
  · intro h
    have hread : ∀ reply, ¬client.ReadsReply p n reply := by
      intro reply hreply
      rw [send_of_readsReply hreply, statusOf_respond] at h
      cases h
    obtain ⟨f, hf⟩ := send_of_not_readsReply hread
    exact ⟨_, hf⟩
  · rintro ⟨f, hf⟩
    rw [hf]
    rfl

end Client

/-! ## The reports of a dispatch -/

namespace Transport

variable {ρ : Type} [Request ρ]

/-- The report of an attempt tells the status of the outcome that a sender gave. -/
theorem status?_of_getElem?_events {policy : RetryPolicy} {p : Plan}
    {send : σ → Except Error Response × σ} {s : σ} {i : Nat} {e : Event}
    (h : (attempts policy p send 0 s).events[i]? = some e) :
    e.status? = statusOf (outcome send s i) := by
  obtain ⟨k, hk, -⟩ := exists_lastAttempt policy p.autoRetry send s
  rw [attempts_eq_of_isLast hk, List.getElem?_map, Option.map_eq_some_iff] at h
  obtain ⟨j, hj, rfl⟩ := h
  obtain ⟨hlt, rfl⟩ := List.getElem?_eq_some_iff.1 hj
  rw [List.getElem_range]
  exact status?_report ..

/-- The dispatcher makes all reports of attempts. -/
theorem trace_attempts (policy : RetryPolicy) (p : Plan) (send : σ → Except Error Response × σ)
    (s : σ) :
    Event.trace (attempts policy p send 0 s).events = (attempts policy p send 0 s).events := by
  refine Event.trace_eq_self fun e he => ?_
  obtain ⟨k, hk, -⟩ := exists_lastAttempt policy p.autoRetry send s
  rw [attempts_eq_of_isLast hk] at he
  obtain ⟨i, -, rfl⟩ := List.mem_map.1 he
  exact reporter_report ..

/-- What a dispatch reports while a plan is carried out is the trace of the dispatcher. -/
theorem trace_dispatch {t : Transport} {r : ρ} {s : Surroundings} {requestId : String} {p : Plan}
    (h : t.prepare r s requestId = .ok p) (n : Network) :
    Event.trace (t.dispatch r s requestId n).events = (t.carryOut p n).events := by
  rw [dispatch_of_prepare h, Event.trace_append, trace_makePlan, List.nil_append]
  show Event.trace ([begun p] ++ (attempts t.config.retry p (t.client.send p) 0 n).events) = _
  rw [Event.trace_append, trace_attempts]
  rfl

/-- A server on the same machine that is unavailable, then too busy, and then breaks off its
reply. -/
def unsteadyServer : Network :=
  ⟨some (.address4 0x7F000001, 18080), [],
    [.reply 503 [] [] 0, .reply 429 [] [] 0, .reply 200 [] [] 1], [], []⟩

/-- A transport to a server on the same machine, with three retries, that looks in a secret
store. -/
def toUnsteadyServer : Transport :=
  ⟨(Config.new "http://127.0.0.1:18080").withRetry ⟨3, 0, 0⟩, ⟨none⟩, .store "s-1"⟩

/-- An environment that holds a credential, and a store without an entry. -/
def emptyStore : Surroundings :=
  ⟨[(Credential.sessionVariable, Text.Utf8.bytesOf "s-2"),
    (Credential.tokenVariable, Text.Utf8.bytesOf "t-2")], []⟩

end Transport

end Courier
