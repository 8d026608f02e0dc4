import Courier.Proofs.AlikeRuns
import Courier.Proofs.Direct

/-!
# Several dispatches in turn

A transport that carries out one request after another keeps nothing of what it did.  Each dispatch
puts a segment of its own on the network, and comes to what it would come to alone, at a server
that answers from where the earlier segments end.

* `dispatch_of_allDirect` — a dispatch whose attempts are direct sends one message again and again.
* `dispatchAll_segments` — what reaches the network is one segment after another.
* `dispatchAll_standsAlone` — **dispatches are independent**: every one of them stands alone.
-/

namespace Courier.Transport

variable {ρ : Type} [Request ρ]

/-! ## Other ids -/

/-- Values that are the same, or the ids of two runs where these belong. -/
def SameButId (id id' name v v' : String) : Prop :=
  v = v' ∨ name = Plan.requestIdHeader ∧ v = id ∧ v' = id'

theorem SameButId.refl (id id' name v : String) : SameButId id id' name v v := Or.inl rfl

/-- With one id for both runs, nothing differs. -/
theorem SameButId.eq {id name v v' : String} (h : SameButId id id name v v') : v = v' := by
  rcases h with h | ⟨-, rfl, rfl⟩
  · exact h
  · rfl

theorem eq_of_headersAlike {id : String} {hs hs' : Http.Headers}
    (h : HeadersAlike (SameButId id id) hs hs') : hs = hs' := by
  have hentries : List.Forall₂ Eq hs.entries hs'.entries :=
    h.imp fun _ _ hab => Prod.ext hab.1 hab.2.eq
  exact Table.ext (List.forall₂_eq_eq_eq ▸ hentries)

/-- Messages that differ at most in an id that is the same are the same. -/
theorem eq_of_messagesAlike {id : String} {ms ms' : List Http.Message}
    (h : List.Forall₂ (MessageAlike (SameButId id id)) ms ms') : ms = ms' := by
  have hmessages : List.Forall₂ Eq ms ms' := h.imp fun m m' hm => by
    obtain ⟨verb, target, headers, body⟩ := m
    obtain ⟨verb', target', headers', body'⟩ := m'
    obtain ⟨rfl, rfl, hheaders, rfl⟩ := hm
    obtain rfl : headers = headers' := eq_of_headersAlike hheaders
    rfl
  simpa using hmessages

/-- A request is prepared alike under two ids that are both accepted or both refused. -/
theorem prepare_alike (t : Transport) (r : ρ) (s : Surroundings) {id id' : String}
    (hid : Http.isValue id = Http.isValue id') :
    Result.Agree (PlanAlike (SameButId id id')) (t.prepare r s id) (t.prepare r s id') := by
  rw [prepare_eq_bind, prepare_eq_bind]
  apply Result.Agree.bind_same
  intro u
  apply Result.Agree.bind_same
  intro k
  exact Plan.of_alike (SameButId.refl id id') t.config r (Or.inr ⟨rfl, rfl, rfl⟩) hid
    (.refl (SameButId.refl id id') _ _) (.refl (SameButId.refl id id') _ _)

/-- A request is dispatched alike under two such ids. -/
theorem dispatch_alike_of_ids (t : Transport) (r : ρ) (s : Surroundings) {id id' : String}
    (hid : Http.isValue id = Http.isValue id') {n n' : Network} (hs : Network.SameServer n n') :
    RunsAlike (SameButId id id') n n' (t.dispatch r s id n) (t.dispatch r s id' n') :=
  dispatch_alike (SameButId.refl id id') t.provider (prepare_alike t r s hid)
    (events_makePlan_congr rfl rfl id id') hs

/-! ## Segments -/

/-- A dispatch does nothing to the network but send messages there. -/
theorem exists_sent (t : Transport) (r : ρ) (s : Surroundings) (id : String) (n : Network) :
    ∃ sent, (t.dispatch r s id n).rest = n.offerAll sent := by
  obtain ⟨ms, -, -, hms, -⟩ := (dispatch_alike_of_ids t r s rfl (.refl n)).messages
  exact ⟨ms, hms⟩

/-- Whether every attempt that a plan is given on a network is answered directly. -/
def AllDirect (t : Transport) (p : Plan) (n : Network) : Prop :=
  ∀ k, IsLast t.config.retry p.autoRetry (t.client.send p) n k →
    ∀ i ≤ k, t.client.Direct p (stateAfter (t.client.send p) n i)

/-- Every attempt is direct if the plan leads to a server that settles everything. -/
theorem allDirect_of_reaches {t : Transport} {p : Plan} {h : Client.Hop} {n : Network}
    (hbegin : t.client.begin? p = some h) (hreach : t.client.Reaches h n)
    (hsettles : ∀ a ∈ n.answers, Client.settles a = true) : t.AllDirect p n := by
  intro k _ i _
  obtain ⟨ms, hms⟩ := exists_offerAll_of_sends t.client p n i
  obtain ⟨host, port, hhost, hport, hway⟩ := hreach
  rw [hms, Network.offerAll_eq]
  exact Client.direct_of_reaches hbegin ⟨host, port, hhost, hport, hway⟩
    fun a ha => hsettles a (Network.mem_of_mem_remaining ha)

/-- **A dispatch whose attempts are direct** sends the message of its plan, as often as it makes
attempts, and the server receives it each time. -/
theorem dispatch_of_allDirect {t : Transport} {r : ρ} {s : Surroundings} {id : String} {p : Plan}
    (h : t.prepare r s id = .ok p) {n : Network} (hdirect : t.AllDirect p n) {m : Http.Message}
    (hm : ∀ n, t.client.Direct p n → (t.client.send p n).2 = n.offer m) :
    ∃ k, k ≤ t.config.retry.maxRetries.toNat ∧
      (t.dispatch r s id n).rest = n.offerAll (List.replicate (k + 1) m) ∧
      n.taken (List.replicate (k + 1) m) = List.replicate (k + 1) m ∧
      ∀ response, (t.dispatch r s id n).result = .ok response →
        response.retryCount.toNat = k := by
  obtain ⟨k, hend⟩ := exists_endsWith_dispatch h n
  have hall := hdirect k hend.isLast
  obtain ⟨hrest, htaken⟩ :=
    Client.stateAfter_of_direct hm fun i hi => hall i (Nat.le_of_lt_succ hi)
  exact ⟨k, hend.le_maxRetries, hend.rest.trans hrest, htaken, hend.retryCount⟩

/-- What reaches the network is one segment after another: each dispatch begins where those before
it end, and the server receives its own segment of what it sends. -/
theorem dispatchAll_segments (t : Transport) (orders : List (Order ρ)) (n : Network) :
    ∃ sent segments : List (List Http.Message),
      (t.dispatchAll orders n).2 = n.offerAll sent.flatten ∧
      n.taken sent.flatten = segments.flatten ∧
      ((∀ a ∈ n.answers, a.takes = true) → segments = sent) ∧
      (t.dispatchAll orders n).1.length = orders.length ∧
      sent.length = orders.length ∧ segments.length = orders.length ∧
      ∀ (i : Nat) (order : Order ρ) (run : Run Network) (messages segment : List Http.Message),
        orders[i]? = some order → (t.dispatchAll orders n).1[i]? = some run →
        sent[i]? = some messages → segments[i]? = some segment →
          run = t.dispatch order.request order.surroundings order.requestId
              (n.offerAll (sent.take i).flatten) ∧
            run.rest = (n.offerAll (sent.take i).flatten).offerAll messages ∧
            segment = (n.offerAll (sent.take i).flatten).taken messages := by
  induction orders generalizing n with
  | nil =>
    refine ⟨[], [], rfl, rfl, fun _ => rfl, rfl, rfl, rfl, ?_⟩
    intro i order run messages segment horder
    simp at horder
  | cons first rest ih =>
    obtain ⟨own, hown⟩ := exists_sent t first.request first.surroundings first.requestId n
    obtain ⟨sent, segments, hnetwork, htaken, hall, hruns, hsent, hsegments, hrest⟩ :=
      ih (n.offerAll own)
    have hdispatch : t.dispatchAll (first :: rest) n =
        (t.dispatch first.request first.surroundings first.requestId n ::
            (t.dispatchAll rest (n.offerAll own)).1,
          (t.dispatchAll rest (n.offerAll own)).2) := by
      rw [dispatchAll, hown]
    rw [hdispatch]
    refine ⟨own :: sent, n.taken own :: segments, ?_, ?_, ?_, ?_, ?_, ?_, ?_⟩
    · rw [List.flatten_cons, Network.offerAll_append]
      exact hnetwork
    · rw [List.flatten_cons, List.flatten_cons, Network.taken_append, htaken]
    · intro htakes
      rw [Network.taken_eq_self htakes, hall]
      intro a ha
      rw [Network.offerAll_eq] at ha
      exact htakes a (Network.mem_of_mem_remaining ha)
    · rw [List.length_cons, List.length_cons, hruns]
    · rw [List.length_cons, List.length_cons, hsent]
    · rw [List.length_cons, List.length_cons, hsegments]
    · intro i order run messages segment horder hrun hmessages hsegment
      cases i with
      | zero =>
        cases horder
        cases hrun
        cases hmessages
        cases hsegment
        exact ⟨rfl, hown, rfl⟩
      | succ i =>
        rw [List.getElem?_cons_succ] at horder hrun hmessages hsegment
        rw [List.take_succ_cons, List.flatten_cons, Network.offerAll_append]
        exact hrest i order run messages segment horder hrun hmessages hsegment

/-! ## Standing alone -/

/-- What a run among others has in common with the run of its request alone, which begins at
`start`.  Among the others it sent `messages`, of which the server received `segment`. -/
structure StandsAlone (t : Transport) (order : Order ρ) (start : Network) (run : Run Network)
    (messages segment : List Http.Message) : Prop where
  /-- Alone, the request comes to the same, reports and waits the same, and sends the same messages,
  of which the same are received.  Another id, accepted or refused as its own one is, stands where
  its own one stood, and nowhere else. -/
  alone : ∀ requestId', Http.isValue order.requestId = Http.isValue requestId' →
    (t.dispatch order.request order.surroundings requestId' start).result = run.result ∧
      (t.dispatch order.request order.surroundings requestId' start).events = run.events ∧
      (t.dispatch order.request order.surroundings requestId' start).pauses = run.pauses ∧
      List.Forall₂ (MessageAlike (SameButId order.requestId requestId')) messages
        (t.dispatch order.request order.surroundings requestId' start).rest.offered ∧
      List.Forall₂ (MessageAlike (SameButId order.requestId requestId')) segment
        (t.dispatch order.request order.surroundings requestId' start).rest.received
  /-- Under its own id it sends exactly these messages. -/
  offered : messages =
    (t.dispatch order.request order.surroundings order.requestId start).rest.offered
  received : segment =
    (t.dispatch order.request order.surroundings order.requestId start).rest.received
  /-- A request without a plan sends nothing. -/
  unprepared : ∀ e, t.prepare order.request order.surroundings order.requestId = .error e →
    messages = [] ∧ segment = []
  /-- If its attempts are direct, it sends one message, which is received: once, and once more for
  each retry. -/
  direct : ∀ p, t.prepare order.request order.surroundings order.requestId = .ok p →
    t.AllDirect p start →
      ∃ k m, segment = List.replicate (k + 1) m ∧ messages = segment ∧
        k ≤ t.config.retry.maxRetries.toNat ∧
        ∀ response, run.result = .ok response → response.retryCount.toNat = k

/-- A dispatch stands alone, wherever the messages before it came from. -/
theorem standsAlone_dispatch (t : Transport) (order : Order ρ) {n start : Network}
    (hs : Network.SameServer n start) (hstart : start.offered = [] ∧ start.received = [])
    {messages segment : List Http.Message}
    (hmessages : (t.dispatch order.request order.surroundings order.requestId n).rest =
      n.offerAll messages) (hsegment : segment = n.taken messages) :
    StandsAlone t order start
      (t.dispatch order.request order.surroundings order.requestId n) messages segment := by
  obtain ⟨hstartOffered, hstartReceived⟩ := hstart
  have halone : ∀ requestId', Http.isValue order.requestId = Http.isValue requestId' →
      RunsAlike (SameButId order.requestId requestId') n start
        (t.dispatch order.request order.surroundings order.requestId n)
        (t.dispatch order.request order.surroundings requestId' start) :=
    fun requestId' hid => dispatch_alike_of_ids t order.request order.surroundings hid hs
  have hsent : ∀ requestId', Http.isValue order.requestId = Http.isValue requestId' →
      List.Forall₂ (MessageAlike (SameButId order.requestId requestId')) messages
          (t.dispatch order.request order.surroundings requestId' start).rest.offered ∧
        List.Forall₂ (MessageAlike (SameButId order.requestId requestId')) segment
          (t.dispatch order.request order.surroundings requestId' start).rest.received := by
    intro requestId' hid
    obtain ⟨ms, ms', hms, hrest, hrest'⟩ := (halone requestId' hid).messages
    obtain rfl : messages = ms := Network.eq_of_offerAll_eq (hmessages.symm.trans hrest)
    rw [hrest', Network.offered_offerAll, Network.received_offerAll, hstartOffered,
      hstartReceived, List.nil_append, List.nil_append, hsegment]
    exact ⟨hms, hs.taken hms⟩
  obtain ⟨hoffered, hreceived⟩ := hsent order.requestId rfl
  replace hoffered := eq_of_messagesAlike hoffered
  replace hreceived := eq_of_messagesAlike hreceived
  refine ⟨?_, hoffered, hreceived, ?_, ?_⟩
  · intro requestId' hid
    have hrun := halone requestId' hid
    exact ⟨hrun.result.symm, hrun.events.symm, hrun.pauses.symm, hsent requestId' hid⟩
  · intro e he
    rw [hoffered, hreceived, dispatch_of_prepare_error he]
    exact ⟨hstartOffered, hstartReceived⟩
  · intro p hp hdirect
    obtain ⟨m, hm⟩ := t.client.exists_message p
    obtain ⟨k, hle, hrest, htaken, hcount⟩ := dispatch_of_allDirect hp hdirect hm
    rw [hrest, Network.offered_offerAll, hstartOffered, List.nil_append] at hoffered
    rw [hrest, Network.received_offerAll, hstartReceived, List.nil_append, htaken] at hreceived
    refine ⟨k, m, hreceived, hoffered.trans hreceived.symm, hle, ?_⟩
    intro response hresponse
    apply hcount response
    rw [← (halone order.requestId rfl).result, hresponse]

theorem new_toLocalServer : Transport.new toLocalServer.config = .ok toLocalServer := by
  obtain ⟨u, hu⟩ : ∃ u, toLocalServer.config.validate = .ok u :=
    Result.exists_of_isOk (by decide +kernel)
  rw [Transport.new, hu]
  rfl

/-- The server on the same machine is reached by its address. -/
theorem reaches_unavailableOnce {h : Client.Hop}
    (hurl : (h.url.host?, h.url.port?, h.url.scheme) =
      (some (.address4 0x7F000001), some 18080, "http".toList)) :
    toLocalServer.client.Reaches h unavailableOnce := by
  rw [Prod.mk.injEq, Prod.mk.injEq] at hurl
  obtain ⟨hhost, hport, hscheme⟩ := hurl
  refine ⟨_, _, hhost, hport, rfl, ?_⟩
  rw [hscheme]
  decide

/-- **Dispatches are independent.**  Requests that one transport carries out in turn put one segment
each on the network, and every one of them stands alone: it comes to what it would come to on a
transport made anew from the same configuration and provider, at a server to which as many messages
have been sent as were sent before it.  Where the server takes every message, these are the messages
that it received. -/
theorem dispatchAll_standsAlone {c : Config} {used : Transport} (h : Transport.new c = .ok used)
    (provider : CredentialProvider) (orders : List (Order ρ))
    (listener : Option (Url.Host × Nat)) (secured : List (Url.Host × Nat)) (script : List Answer) :
    ∃ (runs : List (Run Network)) (rest : Network) (sent segments : List (List Http.Message)),
      (used.withProvider provider).dispatchAll orders ⟨listener, secured, script, [], []⟩ =
        (runs, rest) ∧
      rest.received = segments.flatten ∧ rest.offered = sent.flatten ∧
      ((∀ a ∈ script, a.takes = true) → segments = sent) ∧
      runs.length = orders.length ∧ sent.length = orders.length ∧
      segments.length = orders.length ∧
      ∀ fresh, Transport.new c = .ok fresh →
        ∀ (i : Nat) (order : Order ρ) (run : Run Network) (messages segment : List Http.Message),
          orders[i]? = some order → runs[i]? = some run → sent[i]? = some messages →
          segments[i]? = some segment →
            StandsAlone (fresh.withProvider provider) order
              ⟨listener, secured, Network.remaining script (sent.take i).flatten.length, [], []⟩
              run messages segment := by
  obtain ⟨sent, segments, hnetwork, htaken, hall, hruns, hsent, hsegments, hrest⟩ :=
    dispatchAll_segments (used.withProvider provider) orders ⟨listener, secured, script, [], []⟩
  refine ⟨_, _, sent, segments, rfl, ?_, ?_, hall, hruns, hsent, hsegments, ?_⟩
  · rw [hnetwork, Network.received_offerAll, htaken, List.nil_append]
  · rw [hnetwork, Network.offered_offerAll, List.nil_append]
  · intro fresh hfresh i order run messages segment horder hrun hmessages hsegment
    obtain rfl : used = fresh := by
      rw [h] at hfresh
      cases hfresh
      rfl
    obtain ⟨rfl, hown, hreceived⟩ :=
      hrest i order run messages segment horder hrun hmessages hsegment
    refine standsAlone_dispatch (used.withProvider provider) order ⟨?_, ?_, ?_⟩ ⟨rfl, rfl⟩ hown
      hreceived
    · rw [Network.offerAll_eq]
    · rw [Network.offerAll_eq]
    · rw [Network.offerAll_eq]

/-- Three requests, the first of which is repeated once while the second has no plan.  All attempts
of the first one are direct. -/
theorem dispatchAll_standsAlone_threeRequests :
    ∃ (p : Plan) (runs : List (Run Network)) (rest : Network)
      (sent segments : List (List Http.Message)),
      (toLocalServer.withProvider .none).dispatchAll
          [⟨usersRequest, ⟨[], []⟩, "id-1"⟩, ⟨Descriptor.new "users", ⟨[], []⟩, "id-2"⟩,
            ⟨usersRequest, ⟨[], []⟩, "id-3"⟩] unavailableOnce = (runs, rest) ∧
        rest.received = segments.flatten ∧ rest.received.length = 3 ∧ segments = sent ∧
        segments.length = 3 ∧
        toLocalServer.prepare usersRequest ⟨[], []⟩ "id-1" = .ok p ∧
        toLocalServer.AllDirect p unavailableOnce ∧
        ∀ run messages segment, runs[0]? = some run → sent[0]? = some messages →
          segments[0]? = some segment →
          StandsAlone toLocalServer ⟨usersRequest, ⟨[], []⟩, "id-1"⟩ unavailableOnce run messages
            segment := by
  obtain ⟨p, hp⟩ : ∃ p, toLocalServer.prepare usersRequest ⟨[], []⟩ "id-1" = .ok p :=
    Result.exists_of_isOk (by decide +kernel)
  have hplace : ((toLocalServer.prepare usersRequest ⟨[], []⟩ "id-1").toOption.bind
      toLocalServer.client.begin?).map (fun h => (h.url.host?, h.url.port?, h.url.scheme)) =
      some (some (.address4 0x7F000001), some 18080, "http".toList) := by decide +kernel
  rw [hp] at hplace
  obtain ⟨h, hbegin, hurl⟩ := Option.map_eq_some_iff.1 hplace
  have hdirect : toLocalServer.AllDirect p unavailableOnce :=
    allDirect_of_reaches hbegin (reaches_unavailableOnce hurl) (by decide)
  obtain ⟨runs, rest, sent, segments, hran, hreceived, -, hall, -, -, hlength, halone⟩ :=
    dispatchAll_standsAlone new_toLocalServer .none
      [⟨usersRequest, ⟨[], []⟩, "id-1"⟩, ⟨Descriptor.new "users", ⟨[], []⟩, "id-2"⟩,
        ⟨usersRequest, ⟨[], []⟩, "id-3"⟩] unavailableOnce.listener unavailableOnce.secured
      unavailableOnce.answers
  have hcount : ((toLocalServer.withProvider .none).dispatchAll
      [⟨usersRequest, ⟨[], []⟩, "id-1"⟩, ⟨Descriptor.new "users", ⟨[], []⟩, "id-2"⟩,
        ⟨usersRequest, ⟨[], []⟩, "id-3"⟩] unavailableOnce).2.received.length = 3 := by
    decide +kernel
  refine ⟨p, runs, rest, sent, segments, hran, hreceived, ?_, hall (by decide), hlength, hp,
    hdirect, ?_⟩
  · rw [← hcount]
    exact congrArg (fun ran => ran.2.received.length) hran.symm
  · intro run messages segment hrun hmessages hsegment
    exact halone toLocalServer new_toLocalServer 0 _ run messages segment rfl hrun hmessages
      hsegment

end Courier.Transport
