import Courier.Proofs.Alike
import Courier.Proofs.Attempts

/-!
# Attempts that are answered directly

An attempt is direct if it reaches the server and no reply sends it elsewhere.  It puts one message
on the network, and which one is fixed by the plan.  So an attempt that is made again puts the same
message there once more.

* `Client.Direct` — what it means that an attempt is answered directly.
* `Client.exists_message` — the direct attempts of a plan all send one message.
* `Client.stateAfter_of_direct` — **direct attempts of one plan** leave copies of its message.
* `Client.direct_of_reaches` — attempts at a server that sends nobody elsewhere are direct.
-/

namespace Courier.Client

/-! ## Messages of hops -/

/-- What a hop sends begins with one message, which its URL and the client fix. -/
theorem exists_message_of_hop (client : Client) (h : Hop) :
    ∃ m, ∀ n, (client.deliver h n).2 = n ∨ ∃ ms, (client.deliver h n).2 = n.offerAll (m :: ms) := by
  rcases deliver_cases client h.url with hway | ⟨encrypted, host, port, target, hway⟩ |
    ⟨proxy, host, port, hway⟩
  · exact ⟨message h [], fun n => Or.inl (by rw [hway h n rfl])⟩
  · refine ⟨message h target, ?_⟩
    intro n
    rw [hway h n rfl]
    rcases n.exchange_cases encrypted host port (message h target) with hserved | hrefused
    · exact Or.inr ⟨[], by rw [hserved]; rfl⟩
    · exact Or.inl (by rw [hrefused])
  · refine ⟨connectMessage proxy host port, ?_⟩
    intro n
    rw [hway h n rfl, tunnel]
    have hthrough := passThrough_cases host port (message h (localTarget h.url))
      (n.exchange proxy.secure proxy.host proxy.port (connectMessage proxy host port))
    rcases n.exchange_cases proxy.secure proxy.host proxy.port (connectMessage proxy host port)
      with hserved | hrefused
    · rw [hserved] at hthrough ⊢
      rcases hthrough with ⟨reply, -, hthrough⟩ | ⟨f, hthrough⟩
      · exact Or.inr ⟨[_], by rw [hthrough]; rfl⟩
      · exact Or.inr ⟨[], by rw [hthrough]; rfl⟩
    · exact Or.inl (by rw [hrefused]; rfl)

/-! ## Direct attempts -/

/-- Whether a reply sends a hop elsewhere. -/
def Follows (h : Hop) (reply : Http.Reply) : Prop :=
  ∃ next, nextHop? h reply = some next ∧ Url.isWebScheme next.url.scheme = true

/-- Whether an attempt of a plan reaches the server with one message and is not sent elsewhere by
what comes back. -/
structure Direct (client : Client) (p : Plan) (n : Network) : Prop where
  takes : n.nextAnswer.takes = true
  stays : ∃ h, client.begin? p = some h ∧ (∃ m, (client.deliver h n).2 = n.offer m) ∧
    ∀ reply, (client.deliver h n).1 = .ok reply → ¬Follows h reply

/-- A hop that is not sent elsewhere ends where it began. -/
theorem follow_snd_of_not_follows {client : Client} {left : Nat} {h : Hop} {n : Network}
    (hstay : ∀ reply, (client.deliver h n).1 = .ok reply → ¬Follows h reply) :
    (follow client left h n).2 = (client.deliver h n).2 := by
  rw [follow_eq]
  cases hd : (client.deliver h n).1 with
  | error f => rfl
  | ok reply =>
    cases hnext : nextHop? h reply with
    | none => simp only [hnext]
    | some next =>
      cases left with
      | zero => simp only [hnext]
      | succ left =>
        have hweb : ¬Url.isWebScheme next.url.scheme = true := fun hweb =>
          hstay reply hd ⟨next, hnext, hweb⟩
        simp only [hnext, if_neg hweb]

theorem send_snd {client : Client} {p : Plan} {h : Hop} (hbegin : client.begin? p = some h)
    (n : Network) : (client.send p n).2 = (follow client maxRedirects h n).2 := by
  unfold send
  simp only [hbegin]
  rcases follow client maxRedirects h n with ⟨f | reply, after⟩
  · rfl
  · rfl

/-- A plan has one message, which its direct attempts put on the network, and nothing else. -/
theorem exists_message (client : Client) (p : Plan) :
    ∃ m, ∀ n, client.Direct p n → (client.send p n).2 = n.offer m := by
  cases hbegin : client.begin? p with
  | none =>
    refine ⟨⟨"", [], ∅, []⟩, ?_⟩
    intro n hdirect
    obtain ⟨hop, hsome, -⟩ := hdirect.stays
    rw [hbegin] at hsome
    cases hsome
  | some hop =>
    obtain ⟨m, hm⟩ := exists_message_of_hop client hop
    refine ⟨m, ?_⟩
    intro n hdirect
    obtain ⟨hop', hsome, ⟨sent, hsent⟩, hstay⟩ := hdirect.stays
    obtain rfl : hop = hop' := Option.some.inj (hbegin.symm.trans hsome)
    rw [send_snd hbegin, follow_snd_of_not_follows hstay, hsent]
    rcases hm n with hsame | ⟨ms, hms⟩
    · exact absurd (hsent.symm.trans hsame) (n.offer_ne sent)
    · have hone : [sent] = m :: ms := Network.eq_of_offerAll_eq (hsent.symm.trans hms)
      rw [(List.cons.inj hone).1]

/-- **Direct attempts of one plan**, made one after another, leave one copy of its message each, and
the server receives all of them. -/
theorem stateAfter_of_direct {client : Client} {p : Plan} {m : Http.Message}
    (hm : ∀ n, client.Direct p n → (client.send p n).2 = n.offer m) {n : Network} {k : Nat}
    (h : ∀ i < k, client.Direct p (Transport.stateAfter (client.send p) n i)) :
    Transport.stateAfter (client.send p) n k = n.offerAll (List.replicate k m) ∧
      n.taken (List.replicate k m) = List.replicate k m := by
  induction k with
  | zero => exact ⟨rfl, rfl⟩
  | succ k ih =>
    obtain ⟨hstate, htaken⟩ := ih fun i hi => h i (Nat.lt_succ_of_lt hi)
    have hlast := h k (Nat.lt_succ_self k)
    have htakes := hlast.takes
    rw [hstate] at htakes
    rw [Transport.stateAfter_succ', hm _ hlast, hstate, List.replicate_succ',
      Network.offerAll_append, Network.offerAll_singleton, Network.taken_append, htaken,
      Network.taken_singleton, Network.kept_of_takes htakes]
    exact ⟨rfl, rfl⟩

/-! ## Scripts that answer directly -/

/-- Whether an answer takes its message and sends nobody elsewhere. -/
def settles : Answer → Bool
  | .reply status _ _ _ => !isRedirect status
  | a => a.takes

theorem takes_of_settles {a : Answer} (h : settles a = true) : a.takes = true := by
  cases a with
  | reply => rfl
  | close => rfl
  | silence taken => exact h
  | refuse => exact h

/-- No reply to a message that is settled is a redirect. -/
theorem not_isRedirect_of_settles {a : Answer} (h : settles a = true) {reply : Http.Reply}
    (hreply : a.outcome = .ok reply) : isRedirect reply.status = false := by
  obtain ⟨status, fields, body, missing, rfl, hread⟩ := Network.eq_reply_of_outcome hreply
  rw [Network.status_of_readReply hread]
  simpa [settles] using h

/-- Whether a hop is sent, without a tunnel, to the address at which the server of a network
listens. -/
def Reaches (client : Client) (h : Hop) (n : Network) : Prop :=
  ∃ host port, h.url.host? = some host ∧ h.url.port? = some port ∧
    match client.proxy with
    | none => n.Connects (h.url.scheme == "https".toList) host port
    | some proxy =>
      h.url.scheme ≠ "https".toList ∧ n.Connects proxy.secure proxy.host proxy.port

/-- A hop that reaches the server sends one message there. -/
theorem deliver_of_reaches {client : Client} {h : Hop} {n : Network}
    (hreach : client.Reaches h n) : ∃ m, client.deliver h n = n.serve m := by
  obtain ⟨host, port, hhost, hport, hway⟩ := hreach
  rw [deliver, hhost, hport]
  cases hproxy : client.proxy with
  | none =>
    rw [hproxy] at hway
    exact ⟨message h (localTarget h.url), if_pos hway⟩
  | some proxy =>
    rw [hproxy] at hway
    obtain ⟨hplain, hconnects⟩ := hway
    have hunencrypted : ¬(h.url.scheme == "https".toList) = true := by simpa using hplain
    simp only [if_neg hunencrypted]
    exact ⟨message h h.url.textWithoutFragment, if_pos hconnects⟩

/-- An attempt at a server that settles everything is direct. -/
theorem direct_of_reaches {client : Client} {p : Plan} {h : Hop} {n : Network}
    (hbegin : client.begin? p = some h) (hreach : client.Reaches h n)
    (hsettles : ∀ a ∈ n.answers, settles a = true) : client.Direct p n := by
  have hnext : settles n.nextAnswer = true :=
    Network.nextAnswer_of_forall (P := fun a => settles a = true) rfl hsettles
  obtain ⟨m, hserved⟩ := deliver_of_reaches hreach
  refine ⟨takes_of_settles hnext, h, hbegin, ⟨m, by rw [hserved]; rfl⟩, ?_⟩
  intro reply hreply
  rw [hserved] at hreply
  rintro ⟨next, hnextHop, -⟩
  rw [nextHop?, not_isRedirect_of_settles hnext hreply] at hnextHop
  cases hnextHop

end Courier.Client
