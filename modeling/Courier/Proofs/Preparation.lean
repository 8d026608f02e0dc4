import Courier.Transport
import Courier.Proofs.Headers

/-!
# Making a plan

Before anything is sent, a request passes three checks in a fixed order: its path, its credential,
its headers.  The first check that fails decides the error, and a request without a plan leaves no
trace of the dispatcher; only a lookup in a secret store has reported that it was in vain.

* `prepare_eq` — preparing is the chain of the three checks; the path is not in the way a second
  time.
* `Prepares` — which result a request has, one rule for each way.
* `events_makePlan` — **what is reported before there is a plan**.
* `prepare_precedence` — **the rules are complete**, and a failure of any kind sends nothing.
-/

namespace Courier

/-! ## Results with reports -/

namespace Reported

variable {α β : Type} {x : Reported α}

/-- Reports do not matter for the result. -/
theorem result_bind (x : Reported α) (f : α → Reported β) :
    (x >>= f).result = x.result >>= fun a => (f a).result := by
  show (andThen x f).result = _
  unfold andThen
  cases x.result with
  | error e => rfl
  | ok a => rfl

theorem events_bind_of_ok {a : α} (h : x.result = .ok a) (f : α → Reported β) :
    (x >>= f).events = x.events ++ (f a).events := by
  show (andThen x f).events = _
  simp only [andThen, h]

theorem events_bind_of_error {e : Error} (h : x.result = .error e) (f : α → Reported β) :
    (x >>= f).events = x.events := by
  show (andThen x f).events = _
  simp only [andThen, h]

/-- What reports nothing adds nothing. -/
theorem events_bind_of_silent {f : α → Reported β} (h : ∀ a, (f a).events = []) :
    (x >>= f).events = x.events := by
  cases hx : x.result with
  | error e => exact events_bind_of_error hx f
  | ok a => rw [events_bind_of_ok hx, h, List.append_nil]

end Reported

namespace Event

theorem trace_append (events more : List Event) :
    trace (events ++ more) = trace events ++ trace more := List.filter_append ..

theorem trace_eq_nil {events : List Event} (h : ∀ e ∈ events, e.reporter = .credentials) :
    trace events = [] := by
  refine List.filter_eq_nil_iff.2 fun e he => ?_
  rw [h e he]
  decide

theorem trace_eq_self {events : List Event} (h : ∀ e ∈ events, e.reporter = .dispatcher) :
    trace events = events := by
  refine List.filter_eq_self.2 fun e he => ?_
  rw [h e he]
  decide

end Event

variable {ρ : Type} [Request ρ]

namespace Plan

open Result (bind_eq_ok_iff bind_eq_error_iff)

/-! ## Paths -/

/-- A path is refused with an error that names it. -/
theorem validatePath_error {path : String} {e : Error} (h : validatePath path = .error e) :
    ∃ reason, e = .invalidPath path reason := by
  unfold validatePath at h
  simp only at h
  split at h
  · cases h
    exact ⟨_, rfl⟩
  · split at h
    · cases h
      exact ⟨_, rfl⟩
    · split at h
      · cases h
        exact ⟨_, rfl⟩
      · split at h
        · cases h
          exact ⟨_, rfl⟩
        · cases h

/-! ## Plans -/

/-- The merged headers of a request. -/
def headersOf (c : Config) (r : ρ) (credential : Option Credential) (requestId : String) :
    Except Error Http.Headers :=
  mergeHeaders c (placement (Request.method r) (Request.parameters r)).2.isSome
    (Request.version r) (Request.header r) credential requestId

/-- The plan of a request with these headers. -/
def withHeaders (c : Config) (r : ρ) (headers : Http.Headers) : Plan :=
  ⟨Request.method r, Request.path r, joinUrl c.baseUrl (Request.path r), headers,
    (placement (Request.method r) (Request.parameters r)).1,
    (placement (Request.method r) (Request.parameters r)).2, Request.autoRetry r⟩

/-- Making a plan is the chain of two checks: of the path and of the headers. -/
theorem of_eq (c : Config) (r : ρ) (credential : Option Credential) (requestId : String) :
    Plan.of c r credential requestId =
      validatePath (Request.path r) >>= fun _ =>
        headersOf c r credential requestId >>= fun headers => .ok (withHeaders c r headers) := rfl

theorem of_eq_of_path_error {c : Config} {r : ρ} {e : Error}
    (h : validatePath (Request.path r) = .error e) (credential : Option Credential)
    (requestId : String) : Plan.of c r credential requestId = .error e := by
  rw [of_eq, h]
  rfl

/-- A request whose path has passed gets its plan if its headers can be merged. -/
theorem of_eq_of_path {c : Config} {r : ρ} (h : validatePath (Request.path r) = .ok ())
    (credential : Option Credential) (requestId : String) :
    Plan.of c r credential requestId =
      headersOf c r credential requestId >>= fun headers => .ok (withHeaders c r headers) := by
  rw [of_eq, h]
  rfl

/-- No plan is refused for a path that has passed. -/
theorem of_eq_error_iff_of_path {c : Config} {r : ρ}
    (h : validatePath (Request.path r) = .ok ()) {credential : Option Credential}
    {requestId : String} {e : Error} :
    Plan.of c r credential requestId = .error e ↔
      headersOf c r credential requestId = .error e := by
  rw [of_eq_of_path h, bind_eq_error_iff]
  constructor
  · rintro (hmerge | ⟨headers, -, hok⟩)
    · exact hmerge
    · cases hok
  · exact Or.inl

end Plan

namespace Transport

open Result (bind_eq_ok_iff bind_eq_error_iff)

/-! ## Credentials -/

/-- Whether a request leaves it to the transport to look its credential up. -/
def AsksProvider (r : ρ) : Prop :=
  Request.isAuthenticated r = true ∧ Request.credential r = none

/-- The credential that a request is sent with: none if it asks for none, its own if it has one, or
else the one that is looked up. -/
inductive Resolves (t : Transport) (r : ρ) (s : Surroundings) : Option Credential → Prop where
  | anonymous (h : Request.isAuthenticated r = false) : Resolves t r s none
  | own {k : Credential} (h : Request.isAuthenticated r = true)
      (hown : Request.credential r = some k) : Resolves t r s (some k)
  | found {k : Credential} (h : AsksProvider r) (hfound : t.provider.credential s = .ok (some k)) :
      Resolves t r s (some k)

/-- A request that asks for no credential is not looked after. -/
theorem findCredential_of_anonymous {t : Transport} {r : ρ} {s : Surroundings}
    (h : Request.isAuthenticated r = false) : t.findCredential r s = .silent (.ok none) := by
  simp [findCredential, h]

/-- Nor is one that brings its own. -/
theorem findCredential_of_own {t : Transport} {r : ρ} {s : Surroundings} {k : Credential}
    (h : Request.isAuthenticated r = true) (hown : Request.credential r = some k) :
    t.findCredential r s = .silent (.ok (some k)) := by
  simp [findCredential, h, hown]

/-- A request that asks is looked after by the provider; that there is no credential is an error. -/
theorem findCredential_of_asks {t : Transport} {r : ρ} {s : Surroundings} (h : AsksProvider r) :
    t.findCredential r s =
      t.provider.lookup s >>= fun found =>
        .silent (match found with
          | some k => .ok (some k)
          | none => .error (.missingCredential (Request.path r))) := by
  simp only [findCredential, h.1, h.2, if_true]
  refine congrArg (t.provider.lookup s >>= ·) (funext fun found => ?_)
  cases found with
  | some k => rfl
  | none => rfl

theorem resolve_of_anonymous {t : Transport} {r : ρ} {s : Surroundings}
    (h : Request.isAuthenticated r = false) : t.resolve r s = .ok none := by
  rw [resolve, findCredential_of_anonymous h]
  rfl

theorem resolve_of_own {t : Transport} {r : ρ} {s : Surroundings} {k : Credential}
    (h : Request.isAuthenticated r = true) (hown : Request.credential r = some k) :
    t.resolve r s = .ok (some k) := by
  rw [resolve, findCredential_of_own h hown]
  rfl

/-- What the provider finds, or else the error that there is no credential. -/
theorem resolve_of_asks {t : Transport} {r : ρ} {s : Surroundings} (h : AsksProvider r) :
    t.resolve r s =
      t.provider.credential s >>= fun found =>
        match found with
        | some k => .ok (some k)
        | none => .error (.missingCredential (Request.path r)) := by
  rw [resolve, findCredential_of_asks h, Reported.result_bind]
  rfl

theorem resolve_of_resolves {t : Transport} {r : ρ} {s : Surroundings} {k : Option Credential}
    (h : Resolves t r s k) : t.resolve r s = .ok k := by
  cases h with
  | anonymous h => exact resolve_of_anonymous h
  | own h hown => exact resolve_of_own h hown
  | found h hfound =>
    rw [resolve_of_asks h, hfound]
    rfl

/-! ## The order of the checks -/

/-- Preparing is the chain of the path check, the credential and the plan. -/
theorem prepare_eq_bind (t : Transport) (r : ρ) (s : Surroundings) (requestId : String) :
    t.prepare r s requestId =
      Plan.validatePath (Request.path r) >>= fun _ =>
        t.resolve r s >>= fun credential => Plan.of t.config r credential requestId := by
  rw [prepare, makePlan, Reported.result_bind]
  refine congrArg (Plan.validatePath (Request.path r) >>= ·) (funext fun _ => ?_)
  rw [Reported.result_bind]
  rfl

/-- Preparing a request whose path has passed: the credential comes first, then the headers. -/
theorem prepare_eq {t : Transport} {r : ρ} (h : Plan.validatePath (Request.path r) = .ok ())
    (s : Surroundings) (requestId : String) :
    t.prepare r s requestId =
      t.resolve r s >>= fun credential =>
        Plan.headersOf t.config r credential requestId >>= fun headers =>
          .ok (Plan.withHeaders t.config r headers) := by
  have hof := Plan.of_eq_of_path (c := t.config) (r := r) h
  rw [prepare_eq_bind, h]
  simp only [hof]
  rfl

theorem prepare_of_path_error {t : Transport} {r : ρ} {e : Error}
    (h : Plan.validatePath (Request.path r) = .error e) (s : Surroundings) (requestId : String) :
    t.prepare r s requestId = .error e := by
  rw [prepare_eq_bind, h]
  rfl

/-- The result of preparing a request, one rule for each way, in the order in which they come. -/
inductive Prepares (t : Transport) (r : ρ) (s : Surroundings) (requestId : String) :
    Except Error Plan → Prop where
  /-- The path is refused. -/
  | badPath {e : Error} (hpath : Plan.validatePath (Request.path r) = .error e) :
      Prepares t r s requestId (.error e)
  /-- The provider fails. -/
  | providerFailed {e : Error} (hpath : Plan.validatePath (Request.path r) = .ok ())
      (hasks : AsksProvider r) (hprovider : t.provider.credential s = .error e) :
      Prepares t r s requestId (.error e)
  /-- The provider has no credential. -/
  | noCredential (hpath : Plan.validatePath (Request.path r) = .ok ())
      (hasks : AsksProvider r) (hprovider : t.provider.credential s = .ok none) :
      Prepares t r s requestId (.error (.missingCredential (Request.path r)))
  /-- The headers cannot be merged. -/
  | badHeader {k : Option Credential} {e : Error}
      (hpath : Plan.validatePath (Request.path r) = .ok ()) (hresolves : Resolves t r s k)
      (hmerge : Plan.headersOf t.config r k requestId = .error e) :
      Prepares t r s requestId (.error e)
  /-- Nothing is in the way. -/
  | planned {k : Option Credential} {headers : Http.Headers}
      (hpath : Plan.validatePath (Request.path r) = .ok ()) (hresolves : Resolves t r s k)
      (hmerge : Plan.headersOf t.config r k requestId = .ok headers) :
      Prepares t r s requestId (.ok (Plan.withHeaders t.config r headers))

/-- The rules say what preparing answers. -/
theorem prepare_of_prepares {t : Transport} {r : ρ} {s : Surroundings} {requestId : String}
    {result : Except Error Plan} (h : Prepares t r s requestId result) :
    t.prepare r s requestId = result := by
  cases h with
  | badPath hpath => exact prepare_of_path_error hpath s requestId
  | providerFailed hpath hasks hprovider =>
    rw [prepare_eq hpath, resolve_of_asks hasks, hprovider]
    rfl
  | noCredential hpath hasks hprovider =>
    rw [prepare_eq hpath, resolve_of_asks hasks, hprovider]
    rfl
  | badHeader hpath hresolves hmerge =>
    rw [prepare_eq hpath, resolve_of_resolves hresolves]
    show (Plan.headersOf t.config r _ requestId >>= _) = _
    rw [hmerge]
    rfl
  | planned hpath hresolves hmerge =>
    rw [prepare_eq hpath, resolve_of_resolves hresolves]
    show (Plan.headersOf t.config r _ requestId >>= _) = _
    rw [hmerge]
    rfl

/-- Every request falls under a rule. -/
theorem exists_prepares (t : Transport) (r : ρ) (s : Surroundings) (requestId : String) :
    ∃ result, Prepares t r s requestId result := by
  cases hpath : Plan.validatePath (Request.path r) with
  | error e => exact ⟨_, .badPath hpath⟩
  | ok u =>
    have hmerged : ∀ k, Resolves t r s k → ∃ result, Prepares t r s requestId result := by
      intro k hresolves
      cases hmerge : Plan.headersOf t.config r k requestId with
      | error e => exact ⟨_, .badHeader hpath hresolves hmerge⟩
      | ok headers => exact ⟨_, .planned hpath hresolves hmerge⟩
    cases hauth : Request.isAuthenticated r with
    | false => exact hmerged none (.anonymous hauth)
    | true =>
      cases hown : Request.credential r with
      | some k => exact hmerged (some k) (.own hauth hown)
      | none =>
        cases hprovider : t.provider.credential s with
        | error e => exact ⟨_, .providerFailed hpath ⟨hauth, hown⟩ hprovider⟩
        | ok found =>
          cases found with
          | none => exact ⟨_, .noCredential hpath ⟨hauth, hown⟩ hprovider⟩
          | some k => exact hmerged (some k) (.found ⟨hauth, hown⟩ hprovider)

/-- Preparing answers exactly what the rules say. -/
theorem prepare_eq_iff {t : Transport} {r : ρ} {s : Surroundings} {requestId : String}
    {result : Except Error Plan} :
    t.prepare r s requestId = result ↔ Prepares t r s requestId result := by
  constructor
  · intro h
    obtain ⟨result', hrule⟩ := exists_prepares t r s requestId
    rw [prepare_of_prepares hrule] at h
    rwa [← h]
  · exact prepare_of_prepares

/-! ## What is reported -/

/-- Whether a secret store is asked for a credential and has no token: the path has passed, the
request leaves it to the transport, and the transport looks in the store. -/
structure LooksInVain (t : Transport) (r : ρ) (s : Surroundings) : Prop where
  path : Plan.validatePath (Request.path r) = .ok ()
  asks : AsksProvider r
  store : ∃ session, t.provider = .store session ∧ s.store.token? session = none

/-- An answer of a secret store is reported if it is no token. -/
theorem events_answer (answer : StoreAnswer) (session : String) :
    (answer.token? = none ∧
        ∃ event, event.reporter = .credentials ∧ answer.events session = [event]) ∨
      answer.token? ≠ none ∧ answer.events session = [] := by
  cases answer with
  | token t => exact Or.inr ⟨Option.some_ne_none t, rfl⟩
  | unavailable error => exact Or.inl ⟨rfl, .storeUnavailable error, rfl, rfl⟩
  | noEntry error => exact Or.inl ⟨rfl, .noEntry session error, rfl, rfl⟩
  | aborted error => exact Or.inl ⟨rfl, .lookupAborted error, rfl, rfl⟩

/-- A provider reports one thing if it looks in a secret store in vain, and nothing otherwise. -/
theorem events_lookup (p : CredentialProvider) (s : Surroundings) :
    (∃ session event, p = .store session ∧ s.store.token? session = none ∧
        event.reporter = .credentials ∧ (p.lookup s).events = [event]) ∨
      (∀ session, p = .store session → s.store.token? session ≠ none) ∧
        (p.lookup s).events = [] := by
  cases p with
  | store session =>
    rcases events_answer (s.store.answer session) session with
      ⟨hnone, event, hreporter, hone⟩ | ⟨htoken, hnothing⟩
    · exact Or.inl ⟨session, event, rfl, hnone, hreporter, hone⟩
    · refine Or.inr ⟨?_, hnothing⟩
      rintro _ ⟨⟩
      exact htoken
  | _ =>
    refine Or.inr ⟨?_, rfl⟩
    rintro _ ⟨⟩

/-- Only a lookup is reported before a request has its credential. -/
theorem events_findCredential (t : Transport) (r : ρ) (s : Surroundings) :
    AsksProvider r ∧ (t.findCredential r s).events = (t.provider.lookup s).events ∨
      ¬AsksProvider r ∧ (t.findCredential r s).events = [] := by
  cases hauth : Request.isAuthenticated r with
  | false =>
    refine Or.inr ⟨fun h => Bool.false_ne_true (hauth.symm.trans h.1), ?_⟩
    rw [findCredential_of_anonymous hauth]
    rfl
  | true =>
    cases hown : Request.credential r with
    | some k =>
      refine Or.inr ⟨fun h => Option.some_ne_none k (hown.symm.trans h.2), ?_⟩
      rw [findCredential_of_own hauth hown]
      rfl
    | none =>
      refine Or.inl ⟨⟨hauth, hown⟩, ?_⟩
      rw [findCredential_of_asks ⟨hauth, hown⟩]
      exact Reported.events_bind_of_silent fun _ => rfl

/-- Nothing is looked up for a path that is refused. -/
theorem makePlan_of_path_error {t : Transport} {r : ρ} {e : Error}
    (h : Plan.validatePath (Request.path r) = .error e) (s : Surroundings) (requestId : String) :
    t.makePlan r s requestId = .silent (.error e) := by
  rw [makePlan, h]
  rfl

theorem events_makePlan_of_path {t : Transport} {r : ρ}
    (h : Plan.validatePath (Request.path r) = .ok ()) (s : Surroundings) (requestId : String) :
    (t.makePlan r s requestId).events = (t.findCredential r s).events := by
  rw [makePlan, Reported.events_bind_of_ok h, Reported.events_bind_of_silent fun _ => rfl]
  rfl

/-- What is reported depends on the path and on the lookup. -/
theorem events_makePlan_congr {ρ' : Type} [Request ρ'] {t t' : Transport} {r : ρ} {r' : ρ'}
    {s s' : Surroundings} (hpath : Request.path r = Request.path r')
    (hfind : (t.findCredential r s).events = (t'.findCredential r' s').events)
    (id id' : String) : (t.makePlan r s id).events = (t'.makePlan r' s' id').events := by
  cases hchecked : Plan.validatePath (Request.path r) with
  | error e =>
    rw [makePlan_of_path_error hchecked, makePlan_of_path_error (hpath ▸ hchecked)]
  | ok u => rw [events_makePlan_of_path hchecked, events_makePlan_of_path (hpath ▸ hchecked), hfind]

/-- **What is reported before there is a plan**, or an error instead of one: one thing if a secret
store is asked in vain, and nothing otherwise. -/
theorem events_makePlan (t : Transport) (r : ρ) (s : Surroundings) (requestId : String) :
    (LooksInVain t r s → ∃ event, event.reporter = .credentials ∧
        (t.makePlan r s requestId).events = [event]) ∧
      (¬LooksInVain t r s → (t.makePlan r s requestId).events = []) := by
  cases hpath : Plan.validatePath (Request.path r) with
  | error e =>
    rw [makePlan_of_path_error hpath]
    refine ⟨fun h => ?_, fun _ => rfl⟩
    have hok := h.path
    rw [hpath] at hok
    cases hok
  | ok u =>
    rw [events_makePlan_of_path hpath]
    rcases events_findCredential t r s with ⟨hasks, hevents⟩ | ⟨hasks, hevents⟩
    · rw [hevents]
      rcases events_lookup t.provider s with ⟨session, event, hstore, hnone, hreporter, hone⟩ |
        ⟨htoken, hnothing⟩
      · exact ⟨fun _ => ⟨event, hreporter, hone⟩,
          fun h => absurd ⟨hpath, hasks, session, hstore, hnone⟩ h⟩
      · refine ⟨fun h => ?_, fun _ => hnothing⟩
        obtain ⟨session, hstore, hnone⟩ := h.store
        exact absurd hnone (htoken session hstore)
    · exact ⟨fun h => absurd h.asks hasks, fun _ => hevents⟩

/-- It is not the dispatcher who reports that. -/
theorem reporter_makePlan {t : Transport} {r : ρ} {s : Surroundings} {requestId : String}
    {event : Event} (h : event ∈ (t.makePlan r s requestId).events) :
    event.reporter = .credentials := by
  obtain ⟨hvain, hnot⟩ := events_makePlan t r s requestId
  by_cases hlooks : LooksInVain t r s
  · obtain ⟨only, hreporter, hone⟩ := hvain hlooks
    rw [hone, List.mem_singleton] at h
    rw [h, hreporter]
  · rw [hnot hlooks] at h
    cases h

/-- The dispatcher reports nothing before there is a plan. -/
theorem trace_makePlan (t : Transport) (r : ρ) (s : Surroundings) (requestId : String) :
    Event.trace (t.makePlan r s requestId).events = [] :=
  Event.trace_eq_nil fun _ => reporter_makePlan

/-! ## Which error wins -/

/-- The retry policy has no part in making a plan. -/
theorem makePlan_withRetry (t : Transport) (policy : RetryPolicy) (r : ρ) (s : Surroundings)
    (requestId : String) :
    makePlan { t with config := t.config.withRetry policy } r s requestId =
      t.makePlan r s requestId := rfl

/-- Without a plan a dispatch ends where it began. -/
theorem dispatch_of_prepare_error {t : Transport} {r : ρ} {s : Surroundings} {requestId : String}
    {e : Error} (h : t.prepare r s requestId = .error e) (n : Network) :
    t.dispatch r s requestId n = ⟨.error e, (t.makePlan r s requestId).events, [], n⟩ := by
  have hmade : (t.makePlan r s requestId).result = .error e := h
  simp only [dispatch, hmade]

/-- With the credential at hand, preparing fails exactly if merging the headers does. -/
theorem prepare_eq_error_iff_of_resolves {t : Transport} {r : ρ} {s : Surroundings}
    {requestId : String} {k : Option Credential}
    (hpath : Plan.validatePath (Request.path r) = .ok ()) (hresolves : Resolves t r s k)
    (e : Error) :
    t.prepare r s requestId = .error e ↔ Plan.headersOf t.config r k requestId = .error e := by
  rw [prepare_eq hpath, resolve_of_resolves hresolves]
  show (Plan.headersOf t.config r k requestId >>= _) = _ ↔ _
  rw [bind_eq_error_iff]
  constructor
  · rintro (hmerge | ⟨headers, -, hok⟩)
    · exact hmerge
    · cases hok
  · exact Or.inl

/-- An error about a path is that of the path check, unless the provider was asked and gave it. -/
theorem invalidPath_of_prepare {t : Transport} {r : ρ} {s : Surroundings} {requestId : String}
    {path reason : String} (h : t.prepare r s requestId = .error (.invalidPath path reason)) :
    Plan.validatePath (Request.path r) = .error (.invalidPath path reason) ∨
      (AsksProvider r ∧ t.provider.credential s = .error (.invalidPath path reason)) := by
  cases prepare_eq_iff.1 h with
  | badPath hpath => exact Or.inl hpath
  | providerFailed hpath hasks hprovider => exact Or.inr ⟨hasks, hprovider⟩
  | badHeader hpath hresolves hmerge =>
    obtain ⟨name, details, he, -⟩ := Plan.mergeHeaders_error hmerge
    cases he

end Transport

end Courier
