import Courier.Proofs.Alike
import Courier.Proofs.Dispatch
import Courier.Proofs.Preparation

/-!
# Dispatches that differ in header values only

Merging headers refuses a value only if it is not one, and never looks at it otherwise.  So alike
values give alike plans, and carrying them out at servers that do the same gives the same results,
reports and pauses, and alike messages.

* `Plan.mergeHeaders_alike` — merging alike values gives alike headers or one error.
* `Transport.carryOut_alike` — **alike plans are carried out alike**.
* `Transport.dispatch_alike` — so are the requests that have them.
-/

namespace Courier

open Result (Agree)

variable {V : String → String → String → Prop}

namespace Plan

/-! ## Merging alike values -/

/-- Values for one header, on both sides or on none, that `V` allows and that are both accepted or
both refused. -/
inductive ValuesAlike (V : String → String → String → Prop) (name : String) :
    Option String → Option String → Prop where
  | none : ValuesAlike V name none none
  | some {v v' : String} (h : V name v v') (hvalue : Http.isValue v = Http.isValue v') :
      ValuesAlike V name (some v) (some v')

theorem ValuesAlike.refl (hV : ∀ name v, V name v v) (name : String) (v : Option String) :
    ValuesAlike V name v v := by
  cases v with
  | none => exact .none
  | some v => exact .some (hV name v) rfl

theorem putHeader_alike {hs hs' : Http.Headers} (hh : HeadersAlike V hs hs') {name v v' : String}
    (hv : V (Http.lower name) v v') (hvalue : Http.isValue v = Http.isValue v') :
    Agree (HeadersAlike V) (putHeader hs name v) (putHeader hs' name v') := by
  rw [putHeader, putHeader]
  cases hname : headerName name with
  | error e => exact .error e
  | ok n =>
    obtain ⟨-, rfl⟩ := headerName_eq_ok_iff.1 hname
    show Agree _ (if Http.isValue v then _ else _) (if Http.isValue v' then _ else _)
    rw [hvalue]
    split
    · exact .ok (hh.insert hv)
    · exact .error _

theorem putOptional_alike {hs hs' : Http.Headers} (hh : HeadersAlike V hs hs') {name : String}
    {v v' : Option String} (hv : ValuesAlike V (Http.lower name) v v') :
    Agree (HeadersAlike V) (putOptional hs name v) (putOptional hs' name v') := by
  cases hv with
  | none => exact .ok hh
  | some h hvalue => exact putHeader_alike hh h hvalue

/-- The defaults of two runs, which differ in their ids. -/
theorem defaultHeaders_alike (hV : ∀ name v, V name v v) (c : Config) (hasBody : Bool)
    {id id' : String} (hid : V requestIdHeader id id')
    (hvalue : Http.isValue id = Http.isValue id') :
    Agree (HeadersAlike V) (defaultHeaders c hasBody id) (defaultHeaders c hasBody id') := by
  rw [defaultHeaders_eq, defaultHeaders_eq]
  apply (putHeader_alike (.refl hV _) (hV _ _) rfl).bind
  intro agent agent' hagent
  apply (putOptional_alike hagent (.refl hV _ _)).bind
  intro app app' happ
  apply (putHeader_alike happ (by rwa [lower_requestIdHeader]) hvalue).bind
  intro hs hs' hh
  split
  · exact .ok (hh.insert (hV _ _))
  · exact .ok hh

/-- The same own headers are laid over alike ones. -/
theorem ownHeaders_alike (hV : ∀ name v, V name v v) (seen : List (String × String))
    (own : List (String × Json.Value)) {hs hs' : Http.Headers} (hh : HeadersAlike V hs hs') :
    Agree (HeadersAlike V) (ownHeaders seen own hs) (ownHeaders seen own hs') := by
  induction own generalizing seen hs hs' with
  | nil =>
    rw [ownHeaders_nil, ownHeaders_nil]
    exact .ok hh
  | cons entry rest ih =>
    obtain ⟨name, value⟩ := entry
    rw [ownHeaders_cons, ownHeaders_cons]
    refine .bind_same fun n => ?_
    cases seen.lookup n with
    | some other => exact .error _
    | none => exact (putOptional_alike hh (.refl hV _ _)).bind fun next next' hnext => ih _ hnext

/-- **Merging alike values** gives alike headers, or fails alike. -/
theorem mergeHeaders_alike (hV : ∀ name v, V name v v) (c : Config) (hasBody : Bool)
    (version : UInt32) (own : Table Json.Value) {k k' : Option Credential} {id id' : String}
    (hid : V requestIdHeader id id') (hvalue : Http.isValue id = Http.isValue id')
    (htoken : ValuesAlike V "authorization" (k.map fun k => "Bearer " ++ k.accessToken)
      (k'.map fun k => "Bearer " ++ k.accessToken))
    (hsession : ValuesAlike V sessionHeader (k.map (·.sessionId)) (k'.map (·.sessionId))) :
    Agree (HeadersAlike V) (mergeHeaders c hasBody version own k id)
      (mergeHeaders c hasBody version own k' id') := by
  rw [mergeHeaders_eq, mergeHeaders_eq]
  apply (defaultHeaders_alike hV c hasBody hid hvalue).bind
  intro defaults defaults' hdefaults
  apply (ownHeaders_alike hV [] own.entries hdefaults).bind
  intro merged merged' hmerged
  apply (putHeader_alike hmerged (hV _ _) rfl).bind
  intro versioned versioned' hversioned
  apply (putOptional_alike hversioned (by rwa [lower_authorization])).bind
  intro hs hs' hh
  exact putOptional_alike hh (by rwa [lower_sessionHeader])

/-! ## Alike plans -/

variable {ρ : Type} [Request ρ]

/-- A request gets alike plans from alike credentials and ids. -/
theorem of_alike (hV : ∀ name v, V name v v) (c : Config) (r : ρ) {k k' : Option Credential}
    {id id' : String} (hid : V requestIdHeader id id')
    (hvalue : Http.isValue id = Http.isValue id')
    (htoken : ValuesAlike V "authorization" (k.map fun k => "Bearer " ++ k.accessToken)
      (k'.map fun k => "Bearer " ++ k.accessToken))
    (hsession : ValuesAlike V sessionHeader (k.map (·.sessionId)) (k'.map (·.sessionId))) :
    Agree (PlanAlike V) (Plan.of c r k id) (Plan.of c r k' id') := by
  rw [of_eq, of_eq]
  apply Agree.bind_same
  intro u
  apply Agree.bind (mergeHeaders_alike hV c _ _ _ hid hvalue htoken hsession)
  intro headers headers' hheaders
  exact .ok ⟨rfl, rfl, rfl, hheaders, rfl, rfl, rfl⟩

end Plan

namespace Transport

/-! ## Alike runs -/

/-- Two runs that begin at networks with the same server, come to the same, and put alike messages
on their networks. -/
structure RunsAlike (V : String → String → String → Prop) (n n' : Network)
    (run run' : Run Network) : Prop where
  result : run.result = run'.result
  events : run.events = run'.events
  pauses : run.pauses = run'.pauses
  messages : ∃ ms ms', List.Forall₂ (MessageAlike V) ms ms' ∧
    run.rest = n.offerAll ms ∧ run'.rest = n'.offerAll ms'

section
variable {send send' : Network → Except Error Response × Network} {n n' : Network}

/-- After equally many calls of alike senders the networks are still alike. -/
theorem stateAfter_alike
    (h : ∀ n n', Network.SameServer n n' → Together V n n' (send n) (send' n'))
    (hs : Network.SameServer n n') (i : Nat) :
    Together V n n' ((), stateAfter send n i) ((), stateAfter send' n' i) := by
  induction i with
  | zero => exact .still ()
  | succ i ih =>
    rw [stateAfter_succ', stateAfter_succ']
    exact ih.trans ((h _ _ (ih.sameServer hs)).withAnswer ())

/-- The calls of alike senders end alike. -/
theorem outcome_alike
    (h : ∀ n n', Network.SameServer n n' → Together V n n' (send n) (send' n'))
    (hs : Network.SameServer n n') : outcome send n = outcome send' n' :=
  funext fun i => (h _ _ ((stateAfter_alike h hs i).sameServer hs)).answer

end

/-- Attempts do nothing to the network but put messages there. -/
theorem exists_offerAll_of_sends (client : Client) (p : Plan) (n : Network) (i : Nat) :
    ∃ ms, stateAfter (client.send p) n i = n.offerAll ms := by
  obtain ⟨ms, -, -, hms, -⟩ := (stateAfter_alike
    (fun n n' hs => client.send_alike (fun _ _ => rfl) (.refl (fun _ _ => rfl) p) hs)
    (.refl n) i).messages
  exact ⟨ms, hms⟩

/-- **Alike plans are carried out alike** at servers that do the same. -/
theorem carryOut_alike (hV : ∀ name v, V name v v) (t : Transport) {p p' : Plan}
    (hp : PlanAlike V p p') {n n' : Network} (hs : Network.SameServer n n') :
    RunsAlike V n n' (t.carryOut p n) (t.carryOut p' n') := by
  have hsend : ∀ n n', Network.SameServer n n' →
      Together V n n' (t.client.send p n) (t.client.send p' n') := fun n n' h =>
    t.client.send_alike hV hp h
  have houtcome := outcome_alike hsend hs
  obtain ⟨k, hk, -⟩ := exists_lastAttempt t.config.retry p.autoRetry (t.client.send p) n
  have hk' : IsLast t.config.retry p'.autoRetry (t.client.send p') n' k := by
    rw [IsLast, ← houtcome, ← hp.autoRetry]
    exact hk
  rw [carryOut_eq hk, carryOut_eq hk', ← houtcome]
  refine ⟨rfl, ?_, rfl, (stateAfter_alike hsend hs (k + 1)).messages⟩
  have hbegun : begun p = begun p' := by
    rw [begun, begun, hp.method, hp.path, hp.body, hp.query, hp.autoRetry]
  have hreport : ∀ o attempt, report p o attempt = report p' o attempt := by
    intro o attempt
    cases o with
    | ok r => simp only [report, succeeded, hp.method, hp.path]
    | error e => simp only [report, failed, hp.method, hp.path]
  simp only [hbegun, hreport]

variable {ρ ρ' : Type} [Request ρ] [Request ρ']

/-- Requests that are prepared alike, with the same reports, are dispatched alike. -/
theorem dispatch_alike (hV : ∀ name v, V name v v) {t : Transport} (provider : CredentialProvider)
    {r : ρ} {r' : ρ'} {s s' : Surroundings} {id id' : String}
    (hprepare : Agree (PlanAlike V) (t.prepare r s id)
      ((t.withProvider provider).prepare r' s' id'))
    (hevents : (t.makePlan r s id).events = ((t.withProvider provider).makePlan r' s' id').events)
    {n n' : Network} (hs : Network.SameServer n n') :
    RunsAlike V n n' (t.dispatch r s id n) ((t.withProvider provider).dispatch r' s' id' n') := by
  cases hx : t.prepare r s id with
  | error e =>
    have hx' := (hprepare.error_iff e).1 hx
    rw [dispatch_of_prepare_error hx, dispatch_of_prepare_error hx']
    exact ⟨rfl, hevents, rfl, [], [], .nil, rfl, rfl⟩
  | ok p =>
    rw [hx] at hprepare
    obtain ⟨p', hx', hp⟩ := hprepare.exists_of_ok
    have hrun := carryOut_alike hV t hp hs
    rw [dispatch_of_prepare hx, dispatch_of_prepare hx']
    exact ⟨hrun.result, congrArg₂ (· ++ ·) hevents hrun.events, hrun.pauses, hrun.messages⟩

end Transport

end Courier
