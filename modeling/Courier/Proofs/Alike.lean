import Courier.Proofs.Sending

/-!
# Runs that differ in header values only

Two messages are alike if they differ at most in the values of headers, and there only as a relation
`V` on values allows it for the header's name.  A client that sends alike hops to servers that do
the same sends alike messages and reads the same replies, redirects included.  So nothing of the
difference comes back.

* `EntriesAlike.insert` — setting alike values keeps entries alike.
* `Client.send_alike` — **attempts of alike plans** end alike and send alike messages.
-/

namespace Courier

/-! ## Alike headers -/

variable {V : String → String → String → Prop}

/-- Entries under the same names, with values as `V` allows them for each name. -/
def EntriesAlike (V : String → String → String → Prop) (es es' : List (String × String)) : Prop :=
  List.Forall₂ (fun a b => a.1 = b.1 ∧ V a.1 a.2 b.2) es es'

/-- Headers that are alike entry by entry. -/
def HeadersAlike (V : String → String → String → Prop) (hs hs' : Http.Headers) : Prop :=
  EntriesAlike V hs.entries hs'.entries

theorem HeadersAlike.refl (hV : ∀ name v, V name v v) (hs : Http.Headers) :
    HeadersAlike V hs hs := List.forall₂_same.2 fun _ _ => ⟨rfl, hV _ _⟩

/-- Setting an entry to alike values keeps entries alike. -/
theorem EntriesAlike.insert {es es' : List (String × String)} (h : EntriesAlike V es es')
    {name v v' : String} (hv : V name v v') :
    EntriesAlike V (Entries.insert name v es) (Entries.insert name v' es') := by
  induction h with
  | nil => exact .cons ⟨rfl, hv⟩ .nil
  | @cons a b rest rest' hab hrest ih =>
    obtain ⟨other, old⟩ := a
    obtain ⟨other', old'⟩ := b
    obtain ⟨rfl, hold⟩ := hab
    rw [Entries.insert, Entries.insert]
    split
    · exact .cons ⟨rfl, hv⟩ (.cons ⟨rfl, hold⟩ hrest)
    · split
      · exact .cons ⟨rfl, hv⟩ hrest
      · exact .cons ⟨rfl, hold⟩ ih

/-- Alike entries have the same names. -/
theorem EntriesAlike.isSome_find? {es es' : List (String × String)} (h : EntriesAlike V es es')
    (name : String) : (Entries.find? name es).isSome = (Entries.find? name es').isSome := by
  induction h with
  | nil => rfl
  | @cons a b rest rest' hab hrest ih =>
    obtain ⟨other, old⟩ := a
    obtain ⟨other', old'⟩ := b
    obtain ⟨rfl, -⟩ := hab
    rw [Entries.find?, Entries.find?]
    split
    · rfl
    · exact ih

/-- Taking entries away by their names keeps entries alike. -/
theorem EntriesAlike.filter {es es' : List (String × String)} (h : EntriesAlike V es es')
    (p : String → Bool) :
    EntriesAlike V (es.filter fun e => p e.1) (es'.filter fun e => p e.1) := by
  induction h with
  | nil => exact .nil
  | @cons a b rest rest' hab hrest ih =>
    rw [List.filter_cons, List.filter_cons, ← hab.1]
    split
    · exact .cons hab ih
    · exact ih

theorem HeadersAlike.insert {hs hs' : Http.Headers} (h : HeadersAlike V hs hs') {name v v' : String}
    (hv : V name v v') : HeadersAlike V (hs.insert name v) (hs'.insert name v') :=
  EntriesAlike.insert h hv

theorem HeadersAlike.isSome_find? {hs hs' : Http.Headers} (h : HeadersAlike V hs hs')
    (name : String) : (hs.find? name).isSome = (hs'.find? name).isSome :=
  EntriesAlike.isSome_find? h name

theorem HeadersAlike.without {hs hs' : Http.Headers} (h : HeadersAlike V hs hs')
    (names : List String) :
    HeadersAlike V (Client.without names hs) (Client.without names hs') :=
  EntriesAlike.filter h fun name => !names.contains name

theorem HeadersAlike.putMissing {hs hs' : Http.Headers} (h : HeadersAlike V hs hs')
    (hV : ∀ name v, V name v v) (name value : String) :
    HeadersAlike V (Client.putMissing name value hs) (Client.putMissing name value hs') := by
  rw [Client.putMissing, Client.putMissing, h.isSome_find?]
  split
  · exact h
  · exact h.insert (hV name value)

/-! ## Alike messages, hops and plans -/

/-- Two messages that differ in header values only. -/
structure MessageAlike (V : String → String → String → Prop) (m m' : Http.Message) : Prop where
  verb : m.verb = m'.verb
  target : m.target = m'.target
  headers : HeadersAlike V m.headers m'.headers
  body : m.body = m'.body

theorem MessageAlike.refl (hV : ∀ name v, V name v v) (m : Http.Message) : MessageAlike V m m :=
  ⟨rfl, rfl, .refl hV m.headers, rfl⟩

/-- Two hops that differ in header values only. -/
structure HopAlike (V : String → String → String → Prop) (h h' : Client.Hop) : Prop where
  url : h.url = h'.url
  method : h.method = h'.method
  headers : HeadersAlike V h.headers h'.headers
  body : h.body = h'.body

/-- Two plans that differ in header values only. -/
structure PlanAlike (V : String → String → String → Prop) (p p' : Plan) : Prop where
  method : p.method = p'.method
  path : p.path = p'.path
  url : p.url = p'.url
  headers : HeadersAlike V p.headers p'.headers
  query : p.query = p'.query
  body : p.body = p'.body
  autoRetry : p.autoRetry = p'.autoRetry

theorem PlanAlike.refl (hV : ∀ name v, V name v v) (p : Plan) : PlanAlike V p p :=
  ⟨rfl, rfl, rfl, .refl hV p.headers, rfl, rfl, rfl⟩

namespace Client

theorem message_alike (hV : ∀ name v, V name v v) {h h' : Hop} (hh : HopAlike V h h')
    (target : List Char) : MessageAlike V (message h target) (message h' target) where
  verb := congrArg Http.Method.token hh.method
  target := rfl
  headers := by
    show HeadersAlike V (sentHeaders h) (sentHeaders h')
    rw [sentHeaders, sentHeaders, hh.body]
    split
    · exact hh.headers.putMissing hV _ _
    · exact hh.headers
  body := congrArg (·.getD []) hh.body

theorem redirected_alike (hV : ∀ name v, V name v v) {h h' : Hop} (hh : HopAlike V h h')
    (status : Nat) (next : Url) :
    HopAlike V (redirected h status next) (redirected h' status next) where
  url := rfl
  method := by simp only [redirected, hh.method]
  headers := by
    simp only [redirected, hh.url]
    have hdropped : HeadersAlike V
        (if dropsBody status then without bodyHeaders h.headers else h.headers)
        (if dropsBody status then without bodyHeaders h'.headers else h'.headers) := by
      split
      · exact hh.headers.without bodyHeaders
      · exact hh.headers
    split
    · split
      · exact hdropped.insert (hV _ _)
      · exact hdropped
    · split
      · exact (hdropped.insert (hV _ _)).without privateHeaders
      · exact hdropped.without privateHeaders
  body := by simp only [redirected, hh.body]

/-- Alike hops are redirected alike. -/
theorem nextHop?_alike (hV : ∀ name v, V name v v) {h h' : Hop} (hh : HopAlike V h h')
    (reply : Http.Reply) :
    (nextHop? h reply = none ∧ nextHop? h' reply = none) ∨
      ∃ next next', nextHop? h reply = some next ∧ nextHop? h' reply = some next' ∧
        HopAlike V next next' := by
  rw [nextHop?, nextHop?, hh.url]
  split
  · cases location? h'.url reply.fields with
    | none => exact Or.inl ⟨rfl, rfl⟩
    | some next => exact Or.inr ⟨_, _, rfl, rfl, redirected_alike hV hh reply.status next⟩
  · exact Or.inl ⟨rfl, rfl⟩

/-- The headers with one more, if it has a value and they do not have it yet. -/
def putMissing? (name : String) (value : Option String) (headers : Http.Headers) : Http.Headers :=
  value.elim headers fun v => putMissing name v headers

theorem putMissing?_alike (hV : ∀ name v, V name v v) {hs hs' : Http.Headers}
    (h : HeadersAlike V hs hs') (name : String) (value : Option String) :
    HeadersAlike V (putMissing? name value hs) (putMissing? name value hs') := by
  cases value with
  | none => exact h
  | some v => exact h.putMissing hV name v

/-- The headers of a first hop are those of the plan, and up to three more. -/
theorem headers_start (client : Client) (p : Plan) (u : Url) :
    (client.start p u).headers =
      putMissing? "proxy-authorization"
        (if u.scheme = "http".toList then client.proxy.bind (·.authorization) else none)
        (putMissing? "content-type" (if p.body.isSome then some Plan.jsonType else none)
          (putMissing? "authorization" (userCredential? u) p.headers)) := by
  unfold start putMissing?
  generalize client.proxy.bind (fun proxy => proxy.authorization) = proxyCredential
  by_cases hbody : p.body.isSome = true <;> by_cases hscheme : u.scheme = "http".toList
  all_goals
    simp only [hbody, hscheme, if_true, if_false]
    cases userCredential? u <;> cases proxyCredential <;> rfl

/-- Alike plans begin with alike hops. -/
theorem start_alike (hV : ∀ name v, V name v v) {p p' : Plan} (hp : PlanAlike V p p')
    (client : Client) (u : Url) : HopAlike V (client.start p u) (client.start p' u) where
  url := by simp only [start, hp.query]
  method := hp.method
  headers := by
    rw [headers_start, headers_start, hp.body]
    have hauthorized := putMissing?_alike hV hp.headers "authorization" (userCredential? u)
    exact putMissing?_alike hV (putMissing?_alike hV hauthorized _ _) _ _
  body := congrArg bodyBytes hp.body

theorem begin?_alike (hV : ∀ name v, V name v v) {p p' : Plan} (hp : PlanAlike V p p')
    (client : Client) :
    (client.begin? p = none ∧ client.begin? p' = none) ∨
      ∃ h h', client.begin? p = some h ∧ client.begin? p' = some h' ∧ HopAlike V h h' := by
  rw [begin?, begin?, hp.url]
  cases Url.parse p'.url.toList with
  | error f => exact Or.inl ⟨rfl, rfl⟩
  | ok u =>
    have hstart := start_alike hV hp client u
    simp only [hstart.url]
    split
    · exact Or.inr ⟨_, _, rfl, rfl, hstart⟩
    · exact Or.inl ⟨rfl, rfl⟩

end Client

/-! ## Alike exchanges -/

/-- Two steps that begin at networks with the same server, answer the same, and put alike messages
on their networks. -/
structure Together {α : Type} (V : String → String → String → Prop) (n n' : Network)
    (x x' : α × Network) : Prop where
  answer : x.1 = x'.1
  messages : ∃ ms ms', List.Forall₂ (MessageAlike V) ms ms' ∧
    x.2 = n.offerAll ms ∧ x'.2 = n'.offerAll ms'

namespace Together

variable {α β : Type} {n n' : Network}

/-- Two steps that answer the same and send nothing. -/
theorem still (a : α) : Together V n n' (a, n) (a, n') := ⟨rfl, [], [], .nil, rfl, rfl⟩

/-- The server does the same after the steps. -/
theorem sameServer {x x' : α × Network} (h : Together V n n' x x')
    (hs : Network.SameServer n n') : Network.SameServer x.2 x'.2 := by
  obtain ⟨ms, ms', hms, hx, hx'⟩ := h.messages
  rw [hx, hx']
  exact hs.offerAll hms.length_eq

/-- Another answer that is the same on both sides. -/
theorem withAnswer {x x' : α × Network} (h : Together V n n' x x') (b : β) :
    Together V n n' (b, x.2) (b, x'.2) := ⟨rfl, h.messages⟩

/-- Steps after steps. -/
theorem trans {x x' : α × Network} {y y' : β × Network} (h : Together V n n' x x')
    (hnext : Together V x.2 x'.2 y y') : Together V n n' y y' := by
  obtain ⟨ms, ms', hms, hx, hx'⟩ := h.messages
  obtain ⟨more, more', hmore, hy, hy'⟩ := hnext.messages
  refine ⟨hnext.answer, ms ++ more, ms' ++ more', List.rel_append hms hmore, ?_, ?_⟩
  · rw [hy, hx, Network.offerAll_append]
  · rw [hy', hx', Network.offerAll_append]

end Together

theorem Network.serve_alike {n n' : Network} (hs : SameServer n n') {m m' : Http.Message}
    (hm : MessageAlike V m m') : Together V n n' (n.serve m) (n'.serve m') :=
  ⟨congrArg Answer.outcome hs.nextAnswer_eq, [m], [m'], .cons hm .nil, rfl, rfl⟩

theorem Network.exchange_alike {n n' : Network} (hs : SameServer n n') {m m' : Http.Message}
    (hm : MessageAlike V m m') (encrypted : Bool) (host : Url.Host) (port : Nat) :
    Together V n n' (n.exchange encrypted host port m) (n'.exchange encrypted host port m') := by
  simp only [exchange, hs.connects_iff]
  split
  · exact serve_alike hs hm
  · exact .still _

namespace Client

/-- Alike messages pass alike through tunnels that were opened alike. -/
theorem passThrough_alike {host : Url.Host} {port : Nat} {m m' : Http.Message}
    (hm : MessageAlike V m m') {n n' : Network} (hs : Network.SameServer n n')
    {asked asked' : Except ExchangeFailure Http.Reply × Network}
    (hasked : Together V n n' asked asked') :
    Together V n n' (passThrough host port m asked) (passThrough host port m' asked') := by
  have hafter : Network.SameServer asked.2 asked'.2 := hasked.sameServer hs
  obtain ⟨answer, after⟩ := asked
  obtain ⟨answer', after'⟩ := asked'
  obtain rfl : answer = answer' := hasked.answer
  rcases answer with f | reply
  · cases f <;> exact hasked.withAnswer _
  · rw [passThrough, passThrough, ← hafter.secured]
    split
    · exact hasked.trans (Network.serve_alike hafter hm)
    · exact hasked.withAnswer _

/-- Alike hops are delivered alike. -/
theorem deliver_alike (hV : ∀ name v, V name v v) (client : Client) {h h' : Hop}
    (hh : HopAlike V h h') {n n' : Network} (hs : Network.SameServer n n') :
    Together V n n' (client.deliver h n) (client.deliver h' n') := by
  rcases deliver_cases client h.url with hway | ⟨encrypted, host, port, target, hway⟩ |
    ⟨proxy, host, port, hway⟩
  · rw [hway h n rfl, hway h' n' hh.url.symm]
    exact .still _
  · rw [hway h n rfl, hway h' n' hh.url.symm]
    exact Network.exchange_alike hs (message_alike hV hh target) encrypted host port
  · rw [hway h n rfl, hway h' n' hh.url.symm]
    -- what asks for a tunnel shows nothing of the hop's headers
    exact passThrough_alike (message_alike hV hh _) hs
      (Network.exchange_alike hs (.refl hV (connectMessage proxy host port)) _ _ _)

/-- Redirects of alike hops are followed alike. -/
theorem follow_alike (hV : ∀ name v, V name v v) (client : Client) (left : Nat) {h h' : Hop}
    (hh : HopAlike V h h') {n n' : Network} (hs : Network.SameServer n n') :
    Together V n n' (follow client left h n) (follow client left h' n') := by
  induction left generalizing h h' n n' with
  | zero =>
    have hd := deliver_alike hV client hh hs
    rw [follow_eq, follow_eq, ← hd.answer]
    cases (client.deliver h n).1 with
    | error f => exact hd.withAnswer _
    | ok reply =>
      rcases nextHop?_alike hV hh reply with ⟨hnext, hnext'⟩ | ⟨next, next', hnext, hnext', -⟩
      · simp only [hnext, hnext']
        exact hd.withAnswer _
      · simp only [hnext, hnext']
        exact hd.withAnswer _
  | succ left ih =>
    have hd := deliver_alike hV client hh hs
    rw [follow_eq, follow_eq, ← hd.answer]
    cases (client.deliver h n).1 with
    | error f => exact hd.withAnswer _
    | ok reply =>
      rcases nextHop?_alike hV hh reply with ⟨hnext, hnext'⟩ | ⟨next, next', hnext, hnext', hlike⟩
      · simp only [hnext, hnext']
        exact hd.withAnswer _
      · simp only [hnext, hnext', ← hlike.url]
        split
        · exact hd.trans (ih hlike (hd.sameServer hs))
        · exact hd.withAnswer _

/-- **Attempts of alike plans** at servers that do the same end alike and send alike messages. -/
theorem send_alike (hV : ∀ name v, V name v v) (client : Client) {p p' : Plan}
    (hp : PlanAlike V p p') {n n' : Network} (hs : Network.SameServer n n') :
    Together V n n' (client.send p n) (client.send p' n') := by
  unfold send
  rcases begin?_alike hV hp client with ⟨hnone, hnone'⟩ | ⟨h, h', hsome, hsome', hh⟩
  · simp only [hnone, hnone']
    exact .still _
  · simp only [hsome, hsome']
    have hf := follow_alike hV client maxRedirects hh hs
    have hanswer := hf.answer
    rcases hx : follow client maxRedirects h n with ⟨o, after⟩
    rcases hx' : follow client maxRedirects h' n' with ⟨o', after'⟩
    rw [hx, hx'] at hf hanswer
    obtain rfl : o = o' := hanswer
    cases o with
    | error f => exact hf.withAnswer _
    | ok reply => exact hf.withAnswer _

end Client

end Courier
