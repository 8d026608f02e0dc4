import Courier.Proofs.AlikeRuns

/-!
# Where a response comes from

A response is what the server replied to the last message that reached it, with the body that it
sent, whole and unchanged.  Redirects and failed attempts before it leave nothing in it.

* `Network.Answers`, `Network.AnsweredLast` — what the server replies to the next message, and to
  the last one of those that were sent.
* `Client.answeredLast_of_reads` — **one attempt**, redirects included.
* `Transport.served_of_dispatch` — **all attempts**.
-/

namespace Courier

namespace Network

/-- Whether the server's next answer is a reply that is read so. -/
def Answers (n : Network) (reply : Http.Reply) : Prop :=
  ∃ status fields body missing, n.nextAnswer = .reply status fields body missing ∧
    readReply status fields body missing = .ok reply

/-- Whether messages were sent between two networks and the last one was answered so. -/
def AnsweredLast (n n' : Network) (reply : Http.Reply) : Prop :=
  ∃ ms m, n' = n.offerAll (ms ++ [m]) ∧ (n.offerAll ms).Answers reply

/-- A message that is replied to is the last one that was sent. -/
theorem answeredLast_of_serve {n : Network} {m : Http.Message} {reply : Http.Reply}
    (h : (n.serve m).1 = .ok reply) : n.AnsweredLast (n.serve m).2 reply :=
  ⟨[], m, rfl, eq_reply_of_outcome h⟩

/-- Messages before those. -/
theorem AnsweredLast.behind {n n' : Network} {reply : Http.Reply} {ms : List Http.Message}
    (h : (n.offerAll ms).AnsweredLast n' reply) : n.AnsweredLast n' reply := by
  obtain ⟨more, m, hrest, hanswers⟩ := h
  rw [← offerAll_append] at hrest hanswers
  exact ⟨ms ++ more, m, by rw [hrest, List.append_assoc], hanswers⟩

theorem answeredLast_of_exchange {n : Network} {encrypted : Bool} {host : Url.Host} {port : Nat}
    {m : Http.Message} {reply : Http.Reply} (h : (n.exchange encrypted host port m).1 = .ok reply) :
    n.AnsweredLast (n.exchange encrypted host port m).2 reply := by
  rcases n.exchange_cases encrypted host port m with hserved | hrefused
  · rw [hserved] at h ⊢
    exact answeredLast_of_serve h
  · rw [hrefused] at h
    cases h

/-- Whether a response is what the server replied to the last one of the messages that were sent
between two networks.  It has the body that was sent, whole, unless its status has none. -/
def Served (n n' : Network) (r : Response) : Prop :=
  ∃ ms m fields body missing, n' = n.offerAll (ms ++ [m]) ∧
    (n.offerAll ms).nextAnswer = .reply r.status fields body missing ∧
    if Http.isBodiless r.status then r.body = [] else r.body = body ∧ missing = 0

/-- A reply that is read whole is what was sent. -/
theorem AnsweredLast.served {n n' : Network} {reply : Http.Reply} (h : n.AnsweredLast n' reply)
    (hwhole : reply.complete = true) {r : Response} (hstatus : r.status = reply.status)
    (hbody : r.body = reply.body) : n.Served n' r := by
  obtain ⟨ms, m, hrest, status, fields, body, missing, hanswer, hread⟩ := h
  unfold readReply at hread
  split at hread
  · cases hread
  · split at hread
    · cases hread
    · cases hread
      refine ⟨ms, m, fields, body, missing, hrest, hstatus ▸ hanswer, ?_⟩
      simp only at hwhole hstatus hbody
      rw [hstatus, hbody]
      split
      · rfl
      · rename_i hbodiless
        simpa [hbodiless] using hwhole

end Network

namespace Client

open Network (AnsweredLast)

/-- What is replied through a tunnel comes after the proxy's own reply. -/
theorem answeredLast_of_passThrough {n : Network} {host : Url.Host} {port : Nat} {m : Http.Message}
    {asked : Except ExchangeFailure Http.Reply × Network}
    (hasked : ∀ reply, asked.1 = .ok reply → n.AnsweredLast asked.2 reply) {reply : Http.Reply}
    (hok : (passThrough host port m asked).1 = .ok reply) :
    n.AnsweredLast (passThrough host port m asked).2 reply := by
  rcases passThrough_cases host port m asked with ⟨opening, hopening, hserved⟩ | ⟨f, hfailed⟩
  · rw [hserved] at hok ⊢
    have hanswered := Network.answeredLast_of_serve hok
    obtain ⟨ms, last, hafter, -⟩ := hasked opening hopening
    rw [hafter] at hanswered ⊢
    exact hanswered.behind
  · rw [hfailed] at hok
    cases hok

theorem answeredLast_of_deliver {client : Client} {h : Hop} {n : Network} {reply : Http.Reply}
    (hok : (client.deliver h n).1 = .ok reply) :
    n.AnsweredLast (client.deliver h n).2 reply := by
  rcases client.deliver_cases h.url with hway | ⟨encrypted, host, port, target, hway⟩ |
      ⟨proxy, host, port, hway⟩
  · rw [hway h n rfl] at hok
    cases hok
  · rw [hway h n rfl] at hok ⊢
    exact Network.answeredLast_of_exchange hok
  · rw [hway h n rfl] at hok ⊢
    exact answeredLast_of_passThrough (fun _ => Network.answeredLast_of_exchange) hok

/-- **One attempt** reads what the server replied to the last message, and reads it whole. -/
theorem answeredLast_of_reads {client : Client} {left : Nat} {h : Hop} {n : Network}
    {reply : Http.Reply} (hreads : client.Reads left h n reply) :
    n.AnsweredLast (follow client left h n).2 reply ∧ reply.complete = true := by
  induction hreads with
  | here hdeliver hlast hwhole =>
    rw [follow_eq]
    simp only [hdeliver, hlast]
    exact ⟨answeredLast_of_deliver hdeliver, hwhole⟩
  | redirected hdeliver hnext hweb hrest ih =>
    rw [follow_eq]
    simp only [hdeliver, hnext, if_pos hweb]
    obtain ⟨hanswered, hwhole⟩ := ih
    obtain ⟨ms, m, hms, -⟩ := answeredLast_of_deliver hdeliver
    rw [hms] at hanswered ⊢
    exact ⟨hanswered.behind, hwhole⟩

/-- The response of an attempt is made from that reply. -/
theorem answeredLast_of_send {client : Client} {p : Plan} {n : Network} {r : Response}
    (h : (client.send p n).1 = .ok r) :
    ∃ reply, n.AnsweredLast (client.send p n).2 reply ∧ reply.complete = true ∧
      r = ⟨reply.status, reply.fields, reply.body, 0⟩ := by
  obtain ⟨reply, ⟨hop, hbegin, hreads⟩, -, rfl⟩ := send_eq_ok_iff.1 h
  obtain ⟨hanswered, hwhole⟩ := answeredLast_of_reads hreads
  refine ⟨reply, ?_, hwhole, rfl⟩
  have hfollow := follow_eq_ok_iff.2 hreads
  unfold send
  simp only [hbegin]
  rcases hf : follow client maxRedirects hop n with ⟨f | reply', n'⟩
  · rw [hf] at hfollow
    cases hfollow
  · rwa [hf] at hanswered

end Client

namespace Transport

variable {ρ : Type} [Request ρ]

/-- **A response** is what the server replied to the last message of the dispatch. -/
theorem served_of_dispatch {t : Transport} {r : ρ} {s : Surroundings} {requestId : String}
    {n : Network} {response : Response}
    (h : (t.dispatch r s requestId n).result = .ok response) :
    n.Served (t.dispatch r s requestId n).rest response := by
  cases hprepare : t.prepare r s requestId with
  | error e =>
    rw [dispatch_of_prepare_error hprepare] at h
    cases h
  | ok p =>
    obtain ⟨k, hk⟩ := exists_endsWith_dispatch hprepare n
    have hresult := hk.result
    rw [h] at hresult
    cases ho : outcome (t.client.send p) n k with
    | error e =>
      rw [ho] at hresult
      cases hresult
    | ok first =>
      rw [ho] at hresult
      obtain rfl := Except.ok.inj hresult
      obtain ⟨reply, hanswered, hwhole, rfl⟩ := Client.answeredLast_of_send ho
      obtain ⟨ms, hms⟩ := exists_offerAll_of_sends t.client p n k
      rw [hk.rest, stateAfter_succ']
      rw [hms] at hanswered ⊢
      exact hanswered.behind.served hwhole rfl rfl

end Transport

end Courier
