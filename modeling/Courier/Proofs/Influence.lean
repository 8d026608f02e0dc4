import Courier.Proofs.Preparation

/-!
# What a credential can influence

A request that asks for no credential is sent without one, wherever credentials could come from, and
one that brings its own is sent with that one.  So two runs that differ only in a credential that is
not used are the same run.

* `prepare_of_resolves` — preparing is making the plan with the resolved credential.
* `Plan.of_congr` — a plan depends on nothing but the answers of its request.
* `unused_credential_has_no_influence` — **the two-run statement**, for requests without a
  credential and for requests with their own.
-/

namespace Courier

variable {ρ ρ' : Type} [Request ρ] [Request ρ']

/-- Two requests that give the same answers, except for their credentials. -/
def AlikeButCredential (r : ρ) (r' : ρ') : Prop :=
  { Descriptor.capture r with credential := none } =
    { Descriptor.capture r' with credential := none }

namespace Plan

/-! ## Plans -/

/-- A plan is made from the answers of its request alone, and not from its own credential. -/
theorem of_congr {r : ρ} {r' : ρ'} (h : AlikeButCredential r r') (c : Config)
    (credential : Option Credential) (requestId : String) :
    Plan.of c r credential requestId = Plan.of c r' credential requestId := by
  simp only [AlikeButCredential, Descriptor.capture, Descriptor.mk.injEq] at h
  obtain ⟨hversion, hpath, hmethod, hheader, hparameters, -, -, hauto⟩ := h
  simp only [Plan.of, hversion, hpath, hmethod, hheader, hparameters, hauto]

/-- Every plan is made of its request and of merged headers. -/
theorem exists_withHeaders {c : Config} {r : ρ} {credential : Option Credential}
    {requestId : String} {p : Plan} (h : Plan.of c r credential requestId = .ok p) :
    ∃ headers, headersOf c r credential requestId = .ok headers ∧ p = withHeaders c r headers := by
  rw [of_eq] at h
  obtain ⟨u, -, h⟩ := Result.bind_eq_ok_iff.1 h
  obtain ⟨headers, hmerge, hp⟩ := Result.bind_eq_ok_iff.1 h
  cases hp
  exact ⟨headers, hmerge, rfl⟩

/-- The headers of a plan have been merged. -/
theorem headersOf_of_ok {c : Config} {r : ρ} {credential : Option Credential} {requestId : String}
    {p : Plan} (h : Plan.of c r credential requestId = .ok p) :
    headersOf c r credential requestId = .ok p.headers := by
  obtain ⟨headers, hmerge, rfl⟩ := exists_withHeaders h
  exact hmerge

/-- Nothing but a credential, the version or the request's own headers gives a value to the headers
that carry credentials. -/
theorem defaultValue?_of_credentialHeader {key : String}
    (h : key ∈ ["authorization", sessionHeader]) (c : Config) (hasBody : Bool)
    (requestId : String) : defaultValue? c hasBody requestId key = none := by
  have hdistinct : ∀ name ∈ ["authorization", sessionHeader],
      name ∉ ["content-type", requestIdHeader, appVersionHeader, "user-agent", "accept"] := by
    decide
  have hkey := hdistinct key h
  simp only [List.mem_cons, List.not_mem_nil, or_false, not_or] at hkey
  obtain ⟨htype, hid, happ, hagent, haccept⟩ := hkey
  simp [defaultValue?, htype, hid, happ, hagent, haccept]

/-- The entry from which a value of the request's own headers comes. -/
theorem exists_of_ownValue? {own : Table Json.Value} {key value : String}
    (h : ownValue? own.entries key = some value) :
    ∃ e ∈ own, e.2 ≠ .null ∧ Http.lower e.1 = key ∧ render? e.2 = some value := by
  obtain ⟨e, he, hvalue⟩ := List.exists_of_findSome?_eq_some h
  split at hvalue
  · rename_i hname
    refine ⟨e, he, fun hnull => ?_, hname, hvalue⟩
    rw [hnull] at hvalue
    cases hvalue
  · cases hvalue

/-- Where a header that carries credentials comes from in a plan that has none. -/
theorem credentialHeader_of_none {c : Config} {r : ρ} {requestId : String} {p : Plan}
    (h : Plan.of c r none requestId = .ok p) {key value : String}
    (hkey : key ∈ ["authorization", sessionHeader]) (hvalue : p.headers.find? key = some value) :
    (key = Http.lower c.versionHeader ∧ value = Text.decimal (Request.version r).toNat) ∨
      ∃ e ∈ Request.header r, e.2 ≠ .null ∧ Http.lower e.1 = key ∧ render? e.2 = some value := by
  have hlayers := find?_mergeHeaders (headersOf_of_ok h) key
  rw [hvalue, credentialValue?, Option.none_or, defaultValue?_of_credentialHeader hkey,
    Option.or_none, versionValue?] at hlayers
  split at hlayers
  · rename_i hversion
    rw [Option.some_or, Option.some.injEq] at hlayers
    exact Or.inl ⟨hversion, hlayers⟩
  · exact Or.inr (exists_of_ownValue? hlayers.symm)

end Plan

namespace Transport

/-! ## Runs -/

/-- With its credential at hand, a request is prepared by making its plan. -/
theorem prepare_of_resolves {t : Transport} {r : ρ} {s : Surroundings} {k : Option Credential}
    (h : Resolves t r s k) (requestId : String) :
    t.prepare r s requestId = Plan.of t.config r k requestId := by
  cases hpath : Plan.validatePath (Request.path r) with
  | error e =>
    rw [prepare_of_path_error hpath, Plan.of_eq_of_path_error hpath]
  | ok u =>
    rw [prepare_eq hpath, resolve_of_resolves h, Plan.of_eq_of_path hpath]
    rfl

/-- A credential that need not be looked up gives nothing to report. -/
theorem makePlan_of_silent {t : Transport} {r : ρ} {s : Surroundings} {k : Option Credential}
    (h : t.findCredential r s = .silent (.ok k)) (requestId : String) :
    t.makePlan r s requestId = .silent (Plan.of t.config r k requestId) := by
  cases hpath : Plan.validatePath (Request.path r) with
  | error e =>
    rw [makePlan_of_path_error hpath, Plan.of_eq_of_path_error hpath]
  | ok u =>
    rw [makePlan, hpath, h]
    rfl

/-- A provider has no part in a dispatch but that in making the plan. -/
theorem dispatch_congr {t : Transport} {provider provider' : CredentialProvider} {r : ρ} {r' : ρ'}
    {s s' : Surroundings} {requestId : String}
    (h : (t.withProvider provider).makePlan r s requestId =
      (t.withProvider provider').makePlan r' s' requestId) (n : Network) :
    (t.withProvider provider).dispatch r s requestId n =
      (t.withProvider provider').dispatch r' s' requestId n := by
  rw [dispatch, dispatch, h]
  rfl

theorem makePlan_of_anonymous {t : Transport} {r : ρ} (h : Request.isAuthenticated r = false)
    (s : Surroundings) (requestId : String) :
    t.makePlan r s requestId = .silent (Plan.of t.config r none requestId) :=
  makePlan_of_silent (findCredential_of_anonymous h) requestId

theorem makePlan_of_own {t : Transport} {r : ρ} {k : Credential}
    (h : Request.isAuthenticated r = true) (hown : Request.credential r = some k)
    (s : Surroundings) (requestId : String) :
    t.makePlan r s requestId = .silent (Plan.of t.config r (some k) requestId) :=
  makePlan_of_silent (findCredential_of_own h hown) requestId

/-- **A credential that is not used has no influence.**  A request that asks for no credential is
prepared and dispatched alike whatever the provider, the environment, the secret store and its own
credential are, and a header that carries credentials is in its plan only if the version or one of
its own headers that is not `null` put it there.  A request that brings its own credential is
prepared and dispatched alike whatever the provider, the environment and the secret store are. -/
theorem unused_credential_has_no_influence (t : Transport)
    (provider provider' : CredentialProvider) (s s' : Surroundings) (requestId : String)
    (n : Network) :
    (∀ (r : ρ) (r' : ρ'), Request.isAuthenticated r = false → AlikeButCredential r r' →
      (t.withProvider provider).prepare r s requestId =
          (t.withProvider provider').prepare r' s' requestId ∧
        (t.withProvider provider).dispatch r s requestId n =
          (t.withProvider provider').dispatch r' s' requestId n ∧
        ∀ p, (t.withProvider provider).prepare r s requestId = .ok p →
          ∀ key ∈ ["authorization", Plan.sessionHeader], ∀ value,
            p.headers.find? key = some value →
              (key = Http.lower t.config.versionHeader ∧
                  value = Text.decimal (Request.version r).toNat) ∨
                ∃ e ∈ Request.header r, e.2 ≠ .null ∧ Http.lower e.1 = key ∧
                  Plan.render? e.2 = some value) ∧
      ∀ (r : ρ) (k : Credential), Request.isAuthenticated r = true →
        Request.credential r = some k →
        (t.withProvider provider).prepare r s requestId =
            (t.withProvider provider').prepare r s' requestId ∧
          (t.withProvider provider).dispatch r s requestId n =
            (t.withProvider provider').dispatch r s' requestId n := by
  refine ⟨?_, ?_⟩
  · intro r r' hanonymous halike
    have hanonymous' : Request.isAuthenticated r' = false := by
      have hsame : Request.isAuthenticated r = Request.isAuthenticated r' :=
        congrArg Descriptor.isAuthenticated halike
      rw [← hsame, hanonymous]
    have hmade : (t.withProvider provider).makePlan r s requestId =
        (t.withProvider provider').makePlan r' s' requestId := by
      rw [makePlan_of_anonymous hanonymous, makePlan_of_anonymous hanonymous']
      exact congrArg Reported.silent (Plan.of_congr halike t.config none requestId)
    refine ⟨congrArg Reported.result hmade, dispatch_congr hmade n, ?_⟩
    intro p hp key hkey value hvalue
    rw [prepare_of_resolves (.anonymous hanonymous)] at hp
    exact Plan.credentialHeader_of_none hp hkey hvalue
  · intro r k hauth hown
    have hmade : (t.withProvider provider).makePlan r s requestId =
        (t.withProvider provider').makePlan r s' requestId := by
      rw [makePlan_of_own hauth hown, makePlan_of_own hauth hown]
      rfl
    exact ⟨congrArg Reported.result hmade, dispatch_congr hmade n⟩

/-- Neither a provider that fails nor a token in the environment shows in a request without a
credential, and neither shows in a request with its own. -/
theorem unused_credential_has_no_influence_of_failing_provider :
    let t : Transport := ⟨.new "http://127.0.0.1:18080", ⟨none⟩, .none⟩
    let failing := CredentialProvider.failing (.missingCredential "/")
    let session : Credential := ⟨"session", "token"⟩
    let anonymous := (Descriptor.new "/users").withAuthenticated false
    let own := (Descriptor.new "/users").withCredential session
    let s : Surroundings := ⟨[(Credential.tokenVariable, Text.Utf8.bytesOf "token")], []⟩
    (t.withProvider .none).dispatch anonymous ⟨[], []⟩ "id-1" .unreachable =
        (t.withProvider failing).dispatch (anonymous.withCredential session) s "id-1"
          .unreachable ∧
      (t.withProvider .none).dispatch own ⟨[], []⟩ "id-1" .unreachable =
        (t.withProvider failing).dispatch own s "id-1" .unreachable := by
  intro t failing session anonymous own s
  obtain ⟨hanonymous, hown⟩ := @unused_credential_has_no_influence Descriptor Descriptor _ _ t .none
    failing ⟨[], []⟩ s "id-1" .unreachable
  exact ⟨(hanonymous anonymous (anonymous.withCredential session) rfl rfl).2.1,
    (hown own session rfl rfl).2⟩

end Transport

end Courier
