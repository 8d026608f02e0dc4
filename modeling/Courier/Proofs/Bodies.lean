import Courier.Proofs.Alike
import Courier.Proofs.Dispatch

/-!
# The bodies of what is sent

A request that has a body is sent under its verb with that body, as often as it is attempted and
wherever a redirect leads that keeps the verb.  All else that is sent on its behalf has no body:
what a redirect turns into a `GET`, and what asks a proxy for a tunnel.

* `Client.follow_messages` — what following redirects sends.
* `Transport.dispatch_messages` — **what a dispatch sends**, and that a response comes from a
  message with the body.
-/

namespace Courier

/-- A message that is rightly sent for a request: under the verb of the request it has its body, and
under any other it has none. -/
def Http.Message.Carries (method : Http.Method) (body : List UInt8) (m : Http.Message) : Prop :=
  m.body = if m.verb = method.token then body else []

/-- What is sent between two networks for a request, of which at least one message under its verb is
received if there is an answer. -/
def Network.Sends (method : Http.Method) (body : List UInt8) (answered : Prop) (n n' : Network) :
    Prop :=
  ∃ ms, n' = n.offerAll ms ∧ (∀ m ∈ ms, m.Carries method body) ∧
    (answered → ∃ m ∈ n.taken ms, m.verb = method.token)

namespace Network

variable {method : Http.Method} {body : List UInt8}

theorem Sends.nothing {answered : Prop} (h : ¬answered) (n : Network) :
    n.Sends method body answered n := ⟨[], rfl, nofun, fun ha => absurd ha h⟩

theorem Sends.mono {answered answered' : Prop} {n n' : Network}
    (h : n.Sends method body answered n') (himp : answered' → answered) :
    n.Sends method body answered' n' := by
  obtain ⟨ms, hn, hms, hsome⟩ := h
  exact ⟨ms, hn, hms, fun ha => hsome (himp ha)⟩

/-- What is sent in turn; either part may have the message that is answered. -/
theorem Sends.trans {first second : Prop} {n n' n'' : Network} (h : n.Sends method body first n')
    (h' : n'.Sends method body second n'') : n.Sends method body (first ∨ second) n'' := by
  obtain ⟨ms, rfl, hms, hfirst⟩ := h
  obtain ⟨more, rfl, hmore, hsecond⟩ := h'
  refine ⟨ms ++ more, (offerAll_append n ms more).symm, ?_, ?_⟩
  · intro m hm
    exact (List.mem_append.1 hm).elim (hms m) (hmore m)
  · rw [taken_append]
    rintro (ha | ha)
    · obtain ⟨m, hm, hverb⟩ := hfirst ha
      exact ⟨m, List.mem_append_left _ hm, hverb⟩
    · obtain ⟨m, hm, hverb⟩ := hsecond ha
      exact ⟨m, List.mem_append_right _ hm, hverb⟩

/-- A message that is replied to has been received. -/
theorem Sends.serve {m : Http.Message} (h : m.Carries method body) (n : Network) :
    n.Sends method body (m.verb = method.token ∧ ∃ reply, (n.serve m).1 = .ok reply)
      (n.serve m).2 := by
  refine ⟨[m], rfl, List.forall_mem_singleton.2 h, ?_⟩
  rintro ⟨hverb, reply, hreply⟩
  obtain ⟨status, fields, sent, missing, hanswer, -⟩ := eq_reply_of_outcome hreply
  refine ⟨m, ?_, hverb⟩
  rw [taken_singleton, hanswer]
  exact List.mem_singleton_self m

theorem Sends.exchange {m : Http.Message} (h : m.Carries method body) (n : Network)
    (encrypted : Bool) (host : Url.Host) (port : Nat) :
    n.Sends method body
      (m.verb = method.token ∧ ∃ reply, (n.exchange encrypted host port m).1 = .ok reply)
      (n.exchange encrypted host port m).2 := by
  rcases n.exchange_cases encrypted host port m with hserved | hrefused
  · rw [hserved]
    exact .serve h n
  · rw [hrefused]
    exact .nothing (by simp) n

end Network

namespace Client

variable {method : Http.Method} {body : Option (List UInt8)}

/-! ## Hops -/

/-- A hop on the way of a request with a body: it still has it, or it is a `GET` without one. -/
def Hop.Carries (method : Http.Method) (body : Option (List UInt8)) (h : Hop) : Prop :=
  (h.method = method ∧ h.body = body) ∨ (h.method = .get ∧ h.body = none)

theorem carries_start (client : Client) (p : Plan) (u : Url) :
    (client.start p u).Carries p.method (bodyBytes p.body) := Or.inl ⟨rfl, rfl⟩

/-- A redirect keeps verb and body, or drops both. -/
theorem Hop.Carries.redirected {h : Hop} (hh : h.Carries method body) (status : Nat) (next : Url) :
    (redirected h status next).Carries method body := by
  unfold Client.redirected
  by_cases hdrop : dropsBody status = true
  · exact Or.inr ⟨if_pos hdrop, if_pos hdrop⟩
  · rcases hh with ⟨hmethod, hbody⟩ | ⟨hmethod, hbody⟩
    · exact Or.inl ⟨(if_neg hdrop).trans hmethod, (if_neg hdrop).trans hbody⟩
    · exact Or.inr ⟨(if_neg hdrop).trans hmethod, (if_neg hdrop).trans hbody⟩

theorem Hop.Carries.nextHop {h next : Hop} {reply : Http.Reply} (hh : h.Carries method body)
    (hnext : nextHop? h reply = some next) : next.Carries method body := by
  unfold nextHop? at hnext
  split at hnext
  · obtain ⟨u, -, rfl⟩ := Option.map_eq_some_iff.1 hnext
    exact hh.redirected reply.status u
  · cases hnext

/-- The message of a hop has what the hop carries. -/
theorem Hop.Carries.message {h : Hop} (hh : h.Carries method body) (hmethod : method.hasBody = true)
    (target : List Char) : (message h target).Carries method (body.getD []) := by
  have hget : Http.Method.get.token ≠ method.token := by
    cases method with
    | post => decide
    | put => decide
    | get => cases hmethod
    | delete => cases hmethod
  show h.body.getD [] = if h.method.token = method.token then body.getD [] else []
  rcases hh with ⟨hverb, hbody⟩ | ⟨hverb, hbody⟩
  · rw [hverb, hbody, if_pos rfl]
  · rw [hverb, hbody, if_neg hget]
    rfl

/-- What asks for a tunnel has no body. -/
theorem carries_connectMessage (proxy : Proxy) (host : Url.Host) (port : Nat) (bytes : List UInt8) :
    (connectMessage proxy host port).Carries method bytes := by
  have hconnect : "CONNECT" ≠ method.token := by
    cases method <;> decide
  exact (if_neg hconnect).symm

/-- What is sent through a tunnel comes after what asked for it. -/
theorem passThrough_messages {bytes : List UInt8} {m : Http.Message}
    (hm : m.Carries method bytes) {n : Network} {answered : Prop} (host : Url.Host) (port : Nat)
    {asked : Except ExchangeFailure Http.Reply × Network}
    (hasked : n.Sends method bytes answered asked.2) :
    n.Sends method bytes
      (m.verb = method.token ∧ ∃ reply, (passThrough host port m asked).1 = .ok reply)
      (passThrough host port m asked).2 := by
  rcases passThrough_cases host port m asked with ⟨_, -, hserved⟩ | ⟨f, hfailed⟩
  · rw [hserved]
    exact (hasked.trans (.serve hm asked.2)).mono Or.inr
  · rw [hfailed]
    exact hasked.mono (by simp)

/-- What one hop sends; it is answered only under its own verb. -/
theorem deliver_messages (client : Client) {h : Hop} (hh : h.Carries method body)
    (hmethod : method.hasBody = true) (n : Network) : n.Sends method (body.getD [])
      (h.method = method ∧ ∃ reply, (client.deliver h n).1 = .ok reply) (client.deliver h n).2 := by
  have hverb : ∀ target, h.method = method → (message h target).verb = method.token :=
    fun target => congrArg Http.Method.token
  rcases client.deliver_cases h.url with hway | ⟨encrypted, host, port, target, hway⟩ |
      ⟨proxy, host, port, hway⟩
  · rw [hway h n rfl]
    exact .nothing (by simp) n
  · rw [hway h n rfl]
    exact (Network.Sends.exchange (hh.message hmethod target) n encrypted host port).mono
      (And.imp_left (hverb target))
  · rw [hway h n rfl]
    exact (passThrough_messages (hh.message hmethod _) host port
      (.exchange (carries_connectMessage proxy host port _) n _ _ _)).mono (And.imp_left (hverb _))

/-- **What following redirects sends**: what the first hop sends, and then what the others do. -/
theorem follow_messages (client : Client) (hmethod : method.hasBody = true) (left : Nat) {h : Hop}
    (hh : h.Carries method body) (n : Network) : n.Sends method (body.getD [])
      (h.method = method ∧ ∃ reply, (client.deliver h n).1 = .ok reply)
      (follow client left h n).2 := by
  induction left generalizing h n with
  | zero =>
    have hfirst := client.deliver_messages hh hmethod n
    rw [follow_eq]
    cases hd : (client.deliver h n).1 with
    | error f => rwa [hd] at hfirst
    | ok reply =>
      rw [hd] at hfirst
      simp only
      split <;> exact hfirst
  | succ left ih =>
    have hfirst := client.deliver_messages hh hmethod n
    rw [follow_eq]
    cases hd : (client.deliver h n).1 with
    | error f => rwa [hd] at hfirst
    | ok reply =>
      rw [hd] at hfirst
      simp only
      split
      · exact hfirst
      · rename_i next hnext
        split
        · exact (hfirst.trans (ih (hh.nextHop hnext) _)).mono Or.inl
        · exact hfirst

/-! ## Attempts -/

/-- What one attempt sends. -/
theorem send_messages (client : Client) {p : Plan} (hmethod : p.method.hasBody = true)
    (n : Network) : n.Sends p.method ((bodyBytes p.body).getD [])
      (∃ r, (client.send p n).1 = .ok r) (client.send p n).2 := by
  unfold send
  cases hbegin : client.begin? p with
  | none =>
    refine .nothing ?_ n
    rintro ⟨r, hr⟩
    cases hr
  | some h =>
    obtain ⟨u, -, rfl⟩ := exists_start_of_begin? hbegin
    have hfollow := client.follow_messages hmethod maxRedirects
      (carries_start client p u) n
    simp only
    rcases hf : follow client maxRedirects (client.start p u) n with ⟨f | reply, n'⟩
    · rw [hf] at hfollow
      refine hfollow.mono ?_
      rintro ⟨r, hr⟩
      cases hr
    · rw [hf] at hfollow
      refine hfollow.mono fun _ => ⟨rfl, ?_⟩
      obtain ⟨earlier, hearlier, -⟩ := follow_ok_cases (congrArg Prod.fst hf)
      exact ⟨earlier, hearlier⟩

end Client

namespace Transport

variable {ρ : Type} [Request ρ]

/-- What several attempts send; the last one is answered. -/
theorem stateAfter_messages (client : Client) {p : Plan} (hmethod : p.method.hasBody = true)
    (n : Network) (k : Nat) : n.Sends p.method ((Client.bodyBytes p.body).getD [])
      (∃ r, outcome (client.send p) n k = .ok r) (stateAfter (client.send p) n (k + 1)) := by
  induction k generalizing n with
  | zero => exact client.send_messages hmethod n
  | succ k ih => exact ((client.send_messages hmethod n).trans (ih _)).mono Or.inr

/-- **What a dispatch sends.**  Every message under the verb of the request has the body of its
plan, every other one has none, and a response comes from one with the body. -/
theorem dispatch_messages {t : Transport} {r : ρ} {s : Surroundings} {requestId : String} {p : Plan}
    (h : t.prepare r s requestId = .ok p) (hmethod : p.method.hasBody = true) (n : Network) :
    n.Sends p.method ((Client.bodyBytes p.body).getD [])
      (∃ response, (t.dispatch r s requestId n).result = .ok response)
      (t.dispatch r s requestId n).rest := by
  obtain ⟨k, hk⟩ := exists_endsWith_dispatch h n
  rw [hk.rest, hk.result]
  refine (stateAfter_messages t.client hmethod n k).mono ?_
  rintro ⟨response, hresponse⟩
  cases ho : outcome (t.client.send p) n k with
  | ok r => exact ⟨r, rfl⟩
  | error e =>
    rw [ho] at hresponse
    cases hresponse

end Transport

end Courier
