import Courier.Client
import Courier.Proofs.Exchanges

/-!
# How one attempt ends

A client sends a plan, follows redirects and reads what comes back at their end.  This file tells
which of three ways an attempt ends from the reply that was read in full, if there is one.

* `Client.deliver_cases` — the three ways of one hop.
* `Client.Reads` — which reply a client reads in full, told hop by hop.
* `Client.send_eq_ok_iff`, `Client.send_eq_rejected_iff` — a reply of 200 to 299 that is read in
  full is a response, every other one is a rejection that carries its status and its text.
* `Client.send_retryable_iff` — which failures of an attempt are worth another one.
-/

namespace Courier

/-- The codes that are worth another attempt are those of six statuses. -/
theorem Http.FailureCode.retryable_ofStatus_iff (status : Nat) :
    (Http.FailureCode.ofStatus status).retryable = true ↔
      status ∈ [408, 429, 500, 502, 503, 504] := by
  unfold Http.FailureCode.ofStatus
  split <;> simp_all [Http.FailureCode.retryable]

namespace Client

/-! ## One hop -/

/-- The first hop of a plan is made from its URL, as that is read. -/
theorem exists_start_of_begin? {client : Client} {p : Plan} {h : Hop}
    (hbegin : client.begin? p = some h) :
    ∃ u, Url.parse p.url.toList = .ok u ∧ h = client.start p u := by
  unfold begin? at hbegin
  split at hbegin
  · cases hbegin
  · rename_i u hu
    simp only at hbegin
    split at hbegin
    · exact ⟨u, hu, (Option.some.inj hbegin).symm⟩
    · cases hbegin

/-- A tunnel is open and the message is sent, or the message fails there. -/
theorem passThrough_cases (host : Url.Host) (port : Nat) (m : Http.Message)
    (asked : Except ExchangeFailure Http.Reply × Network) :
    (∃ reply, asked.1 = .ok reply ∧ passThrough host port m asked = asked.2.serve m) ∨
      ∃ f, passThrough host port m asked = (.error f, asked.2) := by
  rcases asked with ⟨f | reply, n⟩
  · cases f <;> exact Or.inr ⟨_, rfl⟩
  · rw [passThrough]
    split
    · exact Or.inl ⟨reply, rfl, rfl⟩
    · exact Or.inr ⟨_, rfl⟩

/-- The three ways of a hop, which its URL decides: it goes nowhere, its message goes to an address,
or it goes through a tunnel. -/
theorem deliver_cases (client : Client) (u : Url) :
    (∀ h n, h.url = u → client.deliver h n = (.error .other, n)) ∨
      (∃ encrypted host port target, ∀ h n, h.url = u →
        client.deliver h n = n.exchange encrypted host port (message h target)) ∨
      ∃ proxy host port, ∀ h n, h.url = u →
        client.deliver h n = tunnel proxy host port (message h (localTarget u)) n := by
  cases hhost : u.host? with
  | none =>
    refine Or.inl ?_
    rintro h n rfl
    simp only [deliver, hhost]
  | some host =>
    cases hport : u.port? with
    | none =>
      refine Or.inl ?_
      rintro h n rfl
      simp only [deliver, hhost, hport]
    | some port =>
      cases hproxy : client.proxy with
      | none =>
        refine Or.inr (Or.inl ⟨u.scheme == "https".toList, host, port, localTarget u, ?_⟩)
        rintro h n rfl
        simp only [deliver, hhost, hport, hproxy]
      | some proxy =>
        by_cases hencrypted : (u.scheme == "https".toList) = true
        · refine Or.inr (Or.inr ⟨proxy, host, port, ?_⟩)
          rintro h n rfl
          simp only [deliver, hhost, hport, hproxy, if_pos hencrypted]
        · refine Or.inr (Or.inl
            ⟨proxy.secure, proxy.host, proxy.port, u.textWithoutFragment, ?_⟩)
          rintro h n rfl
          simp only [deliver, hhost, hport, hproxy, if_neg hencrypted]

/-! ## Replies read in full -/

/-- The reply that a client reads in full when it sends a hop and may still follow so many
redirects. -/
inductive Reads (client : Client) : Nat → Hop → Network → Http.Reply → Prop where
  /-- The reply asks for no other hop and arrives whole. -/
  | here {left : Nat} {h : Hop} {n : Network} {reply : Http.Reply}
      (hdeliver : (client.deliver h n).1 = .ok reply) (hlast : nextHop? h reply = none)
      (hwhole : reply.complete = true) : Reads client left h n reply
  /-- An earlier reply asks for another hop, and what that leads to is read in full. -/
  | redirected {left : Nat} {h next : Hop} {n : Network} {earlier reply : Http.Reply}
      (hdeliver : (client.deliver h n).1 = .ok earlier) (hnext : nextHop? h earlier = some next)
      (hweb : Url.isWebScheme next.url.scheme = true)
      (hrest : Reads client left next (client.deliver h n).2 reply) :
      Reads client (left + 1) h n reply

/-- The reply that an attempt of a plan reads in full. -/
def ReadsReply (client : Client) (p : Plan) (n : Network) (reply : Http.Reply) : Prop :=
  ∃ h, client.begin? p = some h ∧ Reads client maxRedirects h n reply

/-! ### Following redirects -/

/-- One step of following redirects, by what comes back for the hop. -/
theorem follow_eq (client : Client) (left : Nat) (h : Hop) (n : Network) :
    follow client left h n =
      match (client.deliver h n).1 with
      | .error f => (.error f, (client.deliver h n).2)
      | .ok reply =>
        match nextHop? h reply with
        | none =>
          (if reply.complete then .ok reply else .error .other, (client.deliver h n).2)
        | some next =>
          match left with
          | 0 => (.error .other, (client.deliver h n).2)
          | left + 1 =>
            if Url.isWebScheme next.url.scheme then follow client left next (client.deliver h n).2
            else (.error .other, (client.deliver h n).2) := by
  cases left with
  | zero =>
    rw [follow]
    rcases client.deliver h n with ⟨f | reply, n'⟩
    · rfl
    · rfl
  | succ left =>
    rw [follow]
    rcases client.deliver h n with ⟨f | reply, n'⟩
    · rfl
    · rfl

/-- How a hop comes to a reply: its own, or that of the hop to which its own one leads. -/
theorem follow_ok_cases {client : Client} {left : Nat} {h : Hop} {n : Network}
    {reply : Http.Reply} (hok : (follow client left h n).1 = .ok reply) :
    ∃ earlier, (client.deliver h n).1 = .ok earlier ∧
      ((nextHop? h earlier = none ∧ earlier.complete = true ∧ earlier = reply) ∨
        ∃ next rest, left = rest + 1 ∧ nextHop? h earlier = some next ∧
          Url.isWebScheme next.url.scheme = true ∧
          (follow client rest next (client.deliver h n).2).1 = .ok reply) := by
  rw [follow_eq] at hok
  cases hd : (client.deliver h n).1 with
  | error f =>
    rw [hd] at hok
    cases hok
  | ok earlier =>
    refine ⟨earlier, rfl, ?_⟩
    cases hnext : nextHop? h earlier with
    | none =>
      simp only [hd, hnext] at hok
      split at hok
      · rename_i hwhole
        cases hok
        exact Or.inl ⟨rfl, hwhole, rfl⟩
      · cases hok
    | some next =>
      simp only [hd, hnext] at hok
      cases left with
      | zero => cases hok
      | succ rest =>
        simp only at hok
        split at hok
        · rename_i hweb
          exact Or.inr ⟨next, rest, rfl, rfl, hweb, hok⟩
        · cases hok

/-- Following redirects ends with a reply exactly if that reply is read in full. -/
theorem follow_eq_ok_iff {client : Client} {left : Nat} {h : Hop} {n : Network}
    {reply : Http.Reply} :
    (follow client left h n).1 = .ok reply ↔ Reads client left h n reply := by
  constructor
  · intro hok
    induction left generalizing h n with
    | zero =>
      obtain ⟨earlier, hd, ⟨hlast, hwhole, rfl⟩ | ⟨next, rest, hleft, -⟩⟩ := follow_ok_cases hok
      · exact .here hd hlast hwhole
      · exact absurd hleft (Nat.succ_ne_zero rest).symm
    | succ left ih =>
      obtain ⟨earlier, hd, ⟨hlast, hwhole, rfl⟩ | ⟨next, rest, hleft, hnext, hweb, hrest⟩⟩ :=
        follow_ok_cases hok
      · exact .here hd hlast hwhole
      · cases hleft
        exact .redirected hd hnext hweb (ih hrest)
  · intro hreads
    induction hreads with
    | here hdeliver hlast hwhole =>
      rw [follow_eq]
      simp only [hdeliver, hlast, if_pos hwhole]
    | redirected hdeliver hnext hweb hrest ih =>
      rw [follow_eq]
      simp only [hdeliver, hnext, if_pos hweb]
      exact ih

/-! ## The three ways -/

/-- An attempt that reads a reply in full answers it. -/
theorem send_of_readsReply {client : Client} {p : Plan} {n : Network} {reply : Http.Reply}
    (h : client.ReadsReply p n reply) : (client.send p n).1 = respond reply := by
  obtain ⟨hop, hbegin, hreads⟩ := h
  have hfollow := follow_eq_ok_iff.2 hreads
  unfold send
  simp only [hbegin]
  rcases hf : follow client maxRedirects hop n with ⟨f | reply', n'⟩
  · rw [hf] at hfollow
    cases hfollow
  · rw [hf] at hfollow
    cases hfollow
    rfl

/-- An attempt that reads no reply in full fails on its way. -/
theorem send_of_not_readsReply {client : Client} {p : Plan} {n : Network}
    (h : ∀ reply, ¬client.ReadsReply p n reply) :
    ∃ f, (client.send p n).1 = .error (.transport (.exchange f)) := by
  unfold send
  cases hbegin : client.begin? p with
  | none => exact ⟨.other, rfl⟩
  | some hop =>
    simp only
    rcases hf : follow client maxRedirects hop n with ⟨f | reply, n'⟩
    · exact ⟨f, rfl⟩
    · exact absurd ⟨hop, hbegin, follow_eq_ok_iff.1 (by rw [hf])⟩ (h reply)

/-- The rejection of a reply outside 200 to 299. -/
def rejectionOf (reply : Http.Reply) : Rejection :=
  ⟨reply.status, .ofStatus reply.status, Text.Utf8.stringLossy reply.body,
    (Http.FailureCode.ofStatus reply.status).retryable, retryAfter? reply.fields⟩

theorem respond_of_success {reply : Http.Reply} (h : 200 ≤ reply.status ∧ reply.status < 300) :
    respond reply = .ok ⟨reply.status, reply.fields, reply.body, 0⟩ := by
  rw [respond, if_pos h]

theorem respond_of_rejection {reply : Http.Reply}
    (h : ¬(200 ≤ reply.status ∧ reply.status < 300)) :
    respond reply = .error (.rejected (rejectionOf reply)) := by
  rw [respond, if_neg h]
  rfl

/-- The three ways in which an attempt ends. -/
theorem send_cases (client : Client) (p : Plan) (n : Network) :
    (∃ reply, client.ReadsReply p n reply ∧ (200 ≤ reply.status ∧ reply.status < 300) ∧
        (client.send p n).1 = .ok ⟨reply.status, reply.fields, reply.body, 0⟩) ∨
      (∃ reply, client.ReadsReply p n reply ∧ ¬(200 ≤ reply.status ∧ reply.status < 300) ∧
        (client.send p n).1 = .error (.rejected (rejectionOf reply))) ∨
      ∃ f, (client.send p n).1 = .error (.transport (.exchange f)) := by
  by_cases hread : ∃ reply, client.ReadsReply p n reply
  · obtain ⟨reply, hreply⟩ := hread
    by_cases hstatus : 200 ≤ reply.status ∧ reply.status < 300
    · refine Or.inl ⟨reply, hreply, hstatus, ?_⟩
      rw [send_of_readsReply hreply, respond_of_success hstatus]
    · refine Or.inr (Or.inl ⟨reply, hreply, hstatus, ?_⟩)
      rw [send_of_readsReply hreply, respond_of_rejection hstatus]
  · exact Or.inr (Or.inr (send_of_not_readsReply (not_exists.1 hread)))

/-- An attempt succeeds exactly with a reply of 200 to 299 that is read in full. -/
theorem send_eq_ok_iff {client : Client} {p : Plan} {n : Network} {r : Response} :
    (client.send p n).1 = .ok r ↔
      ∃ reply, client.ReadsReply p n reply ∧ (200 ≤ reply.status ∧ reply.status < 300) ∧
        r = ⟨reply.status, reply.fields, reply.body, 0⟩ := by
  constructor
  · intro h
    rcases send_cases client p n with ⟨reply, hreply, hstatus, ho⟩ | ⟨_, _, _, ho⟩ | ⟨f, ho⟩
    · rw [ho] at h
      cases h
      exact ⟨reply, hreply, hstatus, rfl⟩
    · rw [ho] at h
      cases h
    · rw [ho] at h
      cases h
  · rintro ⟨reply, hreply, hstatus, rfl⟩
    rw [send_of_readsReply hreply, respond_of_success hstatus]

/-- An attempt is rejected exactly with any other reply that is read in full. -/
theorem send_eq_rejected_iff {client : Client} {p : Plan} {n : Network} {x : Rejection} :
    (client.send p n).1 = .error (.rejected x) ↔
      ∃ reply, client.ReadsReply p n reply ∧ ¬(200 ≤ reply.status ∧ reply.status < 300) ∧
        x = rejectionOf reply := by
  constructor
  · intro h
    rcases send_cases client p n with ⟨_, _, _, ho⟩ | ⟨reply, hreply, hstatus, ho⟩ | ⟨f, ho⟩
    · rw [ho] at h
      cases h
    · rw [ho] at h
      cases h
      exact ⟨reply, hreply, hstatus, rfl⟩
    · rw [ho] at h
      cases h
  · rintro ⟨reply, hreply, hstatus, rfl⟩
    rw [send_of_readsReply hreply, respond_of_rejection hstatus]

/-- The failures of an attempt that are worth another one: rejections under one of six statuses, and
exchanges that took too long or found no server. -/
theorem send_retryable_iff {client : Client} {p : Plan} {n : Network} {e : Error}
    (h : (client.send p n).1 = .error e) :
    e.retryable = true ↔
      (∃ x, e = .rejected x ∧ x.status ∈ [408, 429, 500, 502, 503, 504]) ∨
        e = .transport (.exchange .timeout) ∨ e = .transport (.exchange .connect) := by
  rcases send_cases client p n with ⟨_, _, _, ho⟩ | ⟨reply, _, _, ho⟩ | ⟨f, ho⟩
  · rw [ho] at h
    cases h
  · rw [ho] at h
    cases h
    have hcode := Http.FailureCode.retryable_ofStatus_iff reply.status
    simpa [Error.retryable, rejectionOf] using hcode
  · rw [ho] at h
    cases h
    cases f <;> simp [Error.retryable, TransportFailure.transient, ExchangeFailure.transient]

end Client

end Courier
