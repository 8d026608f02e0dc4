import Courier.Proofs.Overrides
import Courier.Proofs.Preparation

/-!
# Looking a credential up

A request that brings no credential of its own gets one under a session from the secret store, or
else the one of the environment.  A credential comes from one of these places as a whole, and where
none has one, that is the only error.

* `Credential.ofEnvironment?_eq_some_iff` — **which credential an environment holds**.
* `Finds` — which credential is found for a session, one rule for each place.
* `CredentialProvider.credential_store_finds` — the rules say what the lookup answers.
* `Transport.resolve_by_chain` — **the whole chain**, and what has no influence on it.
-/

namespace Courier

/-! ## Places -/

/-- A secret store yields a token for a session. -/
def SecretStore.Yields (store : SecretStore) (session token : String) : Prop :=
  store.lookup session = some (.token token)

/-- An environment holds a credential: both variables are set to texts, and neither is empty. -/
structure Environment.Holds (env : Environment) (k : Credential) : Prop where
  session : env.HasText Credential.sessionVariable k.sessionId
  session_filled : k.sessionId ≠ ""
  token : env.HasText Credential.tokenVariable k.accessToken
  token_filled : k.accessToken ≠ ""

theorem SecretStore.token?_eq_some_iff {store : SecretStore} {session token : String} :
    store.token? session = some token ↔ store.Yields session token := by
  rw [SecretStore.token?, SecretStore.answer, SecretStore.Yields]
  cases store.lookup session with
  | none => simp [StoreAnswer.missing, StoreAnswer.token?]
  | some answer => cases answer <;> simp [StoreAnswer.token?]

theorem SecretStore.token?_eq_none_iff {store : SecretStore} {session : String} :
    store.token? session = none ↔ ∀ token, ¬store.Yields session token := by
  rw [Option.eq_none_iff_forall_ne_some]
  exact forall_congr' fun token => not_congr SecretStore.token?_eq_some_iff

/-- **Which credential an environment holds.** -/
theorem Credential.ofEnvironment?_eq_some_iff {env : Environment} {k : Credential} :
    Credential.ofEnvironment? env = some k ↔ env.Holds k := by
  unfold Credential.ofEnvironment?
  constructor
  · intro h
    split at h
    · rename_i session token hsession htoken
      cases h
      obtain ⟨hsession, hfilled⟩ := Environment.filled?_eq_some_iff.1 hsession
      obtain ⟨htoken, hfilled'⟩ := Environment.filled?_eq_some_iff.1 htoken
      exact ⟨hsession, hfilled, htoken, hfilled'⟩
    · cases h
  · rintro ⟨hsession, hfilled, htoken, hfilled'⟩
    rw [Environment.filled?_eq_some_iff.2 ⟨hsession, hfilled⟩,
      Environment.filled?_eq_some_iff.2 ⟨htoken, hfilled'⟩]

theorem Credential.ofEnvironment?_eq_none_iff {env : Environment} :
    Credential.ofEnvironment? env = none ↔ ∀ k, ¬env.Holds k := by
  rw [Option.eq_none_iff_forall_ne_some]
  exact forall_congr' fun k => not_congr Credential.ofEnvironment?_eq_some_iff

/-- What an environment holds depends on its two variables. -/
theorem Environment.Holds.congr {env env' : Environment} {k : Credential} (h : env.Holds k)
    (hvariables : ∀ name ∈ [Credential.sessionVariable, Credential.tokenVariable],
      env.lookup name = env'.lookup name) : env'.Holds k where
  session := (hasText_congr (hvariables _ List.mem_cons_self)).1 h.session
  session_filled := h.session_filled
  token := (hasText_congr (hvariables _ (List.mem_cons_of_mem _ List.mem_cons_self))).1 h.token
  token_filled := h.token_filled

/-! ## The chain -/

/-- The credential that is found for a session: its own one in the secret store, or the one of the
environment if the store yields none, for whatever reason. -/
inductive Finds (session : String) (s : Surroundings) : Credential → Prop where
  | inStore {token : String} (hstore : s.store.Yields session token) :
      Finds session s ⟨session, token⟩
  | inEnvironment {k : Credential} (hstore : ∀ token, ¬s.store.Yields session token)
      (hheld : s.environment.Holds k) : Finds session s k

/-- Behind a store that yields nothing, what is found is what the environment holds. -/
theorem finds_iff_holds {session : String} {s : Surroundings} {k : Credential}
    (h : ∀ token, ¬s.store.Yields session token) :
    Finds session s k ↔ s.environment.Holds k := by
  constructor
  · rintro (htoken | ⟨-, hheld⟩)
    · exact absurd htoken (h _)
    · exact hheld
  · exact .inEnvironment h

namespace CredentialProvider

/-- A store is asked first. -/
theorem credential_store_of_yields {session token : String} {s : Surroundings}
    (h : s.store.Yields session token) :
    (CredentialProvider.store session).credential s = .ok (some ⟨session, token⟩) := by
  simp only [credential, lookup, SecretStore.token?_eq_some_iff.2 h]

/-- Behind a store that yields nothing stands the environment. -/
theorem credential_store_of_not_yields {session : String} {s : Surroundings}
    (h : ∀ token, ¬s.store.Yields session token) :
    (CredentialProvider.store session).credential s =
      .ok (Credential.ofEnvironment? s.environment) := by
  simp only [credential, lookup, SecretStore.token?_eq_none_iff.2 h]

/-- **The rules say what the lookup answers**, which never fails. -/
theorem credential_store_finds (session : String) (s : Surroundings) :
    ∃ found, (CredentialProvider.store session).credential s = .ok found ∧
      ∀ k, found = some k ↔ Finds session s k := by
  by_cases hstore : ∃ token, s.store.Yields session token
  · obtain ⟨token, htoken⟩ := hstore
    refine ⟨_, credential_store_of_yields htoken, fun k => ?_⟩
    constructor
    · rintro ⟨⟩
      exact .inStore htoken
    · rintro (htoken' | ⟨hnone, -⟩)
      · have hsame := htoken.symm.trans htoken'
        cases hsame
        rfl
      · exact absurd htoken (hnone token)
  · have hnone := not_exists.1 hstore
    refine ⟨_, credential_store_of_not_yields hnone, fun k => ?_⟩
    rw [Credential.ofEnvironment?_eq_some_iff, finds_iff_holds hnone]

end CredentialProvider

namespace Transport

variable {ρ : Type} [Request ρ]

/-- A request that asks gets what the chain finds. -/
theorem resolve_of_finds (t : Transport) {r : ρ} (h : AsksProvider r) {session : String}
    {s : Surroundings} {k : Credential} (hk : Finds session s k) :
    (t.withProvider (.store session)).resolve r s = .ok (some k) := by
  obtain ⟨found, hfound, hrules⟩ := CredentialProvider.credential_store_finds session s
  rw [(hrules k).2 hk] at hfound
  exact resolve_of_resolves (.found h hfound)

/-- Where the chain finds nothing, there is no credential for the path of the request. -/
theorem resolve_of_not_finds (t : Transport) {r : ρ} (h : AsksProvider r) {session : String}
    {s : Surroundings} (hnone : ∀ k, ¬Finds session s k) :
    (t.withProvider (.store session)).resolve r s =
      .error (.missingCredential (Request.path r)) := by
  obtain ⟨found, hfound, hrules⟩ := CredentialProvider.credential_store_finds session s
  cases found with
  | some k => exact absurd ((hrules k).1 rfl) (hnone k)
  | none =>
    rw [resolve_of_asks h]
    show (CredentialProvider.store session).credential s >>= _ = _
    rw [hfound]
    rfl

/-- A credential is found, or there is none for the path of the request. -/
theorem resolve_store_cases (t : Transport) {r : ρ} (h : AsksProvider r) (session : String)
    (s : Surroundings) :
    (∃ k, Finds session s k ∧
        (t.withProvider (.store session)).resolve r s = .ok (some k)) ∨
      (∀ k, ¬Finds session s k) ∧
        (t.withProvider (.store session)).resolve r s =
          .error (.missingCredential (Request.path r)) := by
  by_cases hfinds : ∃ k, Finds session s k
  · obtain ⟨k, hk⟩ := hfinds
    exact Or.inl ⟨k, hk, resolve_of_finds t h hk⟩
  · have hnone := not_exists.1 hfinds
    exact Or.inr ⟨hnone, resolve_of_not_finds t h hnone⟩

/-- The answer depends on what is found and on nothing else. -/
theorem resolve_store_congr (t : Transport) {r : ρ} (h : AsksProvider r) {session : String}
    {s s' : Surroundings} (hsame : ∀ k, Finds session s' k ↔ Finds session s k) :
    (t.withProvider (.store session)).resolve r s' =
      (t.withProvider (.store session)).resolve r s := by
  rcases resolve_store_cases t h session s with ⟨k, hk, hfound⟩ | ⟨hnone, hmissing⟩
  · rw [hfound, resolve_of_finds t h ((hsame k).2 hk)]
  · rw [hmissing, resolve_of_not_finds t h fun k hk => hnone k ((hsame k).1 hk)]

/-- **The whole chain.**  A request that leaves its credential to a transport that looks under a
session gets that session with its token if the secret store yields one.  If it yields none, for
whatever reason, the request gets the credential that the environment holds, and where that holds
none, the error is that there is no credential for its path.  No other error is answered, and no
credential has its two parts from two places.  What the store has for other sessions, how it fails
and, if it yields a token, what the environment holds do not matter. -/
theorem resolve_by_chain (t : Transport) {r : ρ} (h : AsksProvider r) (session : String)
    (s : Surroundings) :
    (∀ token, s.store.Yields session token →
      (t.withProvider (.store session)).resolve r s = .ok (some ⟨session, token⟩) ∧
        ∀ s', s'.store.Yields session token →
          (t.withProvider (.store session)).resolve r s' =
            (t.withProvider (.store session)).resolve r s) ∧
      ((∀ token, ¬s.store.Yields session token) →
        (∀ k, s.environment.Holds k →
          (t.withProvider (.store session)).resolve r s = .ok (some k)) ∧
        ((∀ k, ¬s.environment.Holds k) →
          (t.withProvider (.store session)).resolve r s =
            .error (.missingCredential (Request.path r))) ∧
        ∀ s', (∀ token, ¬s'.store.Yields session token) →
          (∀ name ∈ [Credential.sessionVariable, Credential.tokenVariable],
            s'.environment.lookup name = s.environment.lookup name) →
          (t.withProvider (.store session)).resolve r s' =
            (t.withProvider (.store session)).resolve r s) ∧
      (∀ e, (t.withProvider (.store session)).resolve r s = .error e →
        e = .missingCredential (Request.path r)) ∧
      ∀ found, (t.withProvider (.store session)).resolve r s = .ok found →
        ∃ k, found = some k ∧
          (k.sessionId = session ∧ s.store.Yields session k.accessToken ∨
            s.environment.Holds k) := by
  refine ⟨?_, ?_, ?_, ?_⟩
  · intro token htoken
    have hfound := resolve_of_finds t h (.inStore htoken)
    refine ⟨hfound, fun s' htoken' => ?_⟩
    rw [hfound, resolve_of_finds t h (.inStore htoken')]
  · intro hnone
    refine ⟨fun k hheld => resolve_of_finds t h (.inEnvironment hnone hheld), ?_, ?_⟩
    · intro hempty
      exact resolve_of_not_finds t h fun k hk => hempty k ((finds_iff_holds hnone).1 hk)
    · intro s' hnone' hvariables
      refine resolve_store_congr t h fun k => ?_
      rw [finds_iff_holds hnone', finds_iff_holds hnone]
      exact ⟨fun hheld => hheld.congr hvariables,
        fun hheld => hheld.congr fun name hname => (hvariables name hname).symm⟩
  · intro e he
    rcases resolve_store_cases t h session s with ⟨k, -, hfound⟩ | ⟨-, hmissing⟩
    · rw [hfound] at he
      cases he
    · rw [hmissing] at he
      cases he
      rfl
  · intro found hfound
    rcases resolve_store_cases t h session s with ⟨k, hk, hanswer⟩ | ⟨-, hmissing⟩
    · rw [hanswer] at hfound
      cases hfound
      cases hk with
      | inStore htoken => exact ⟨_, rfl, Or.inl ⟨rfl, htoken⟩⟩
      | inEnvironment _ hheld => exact ⟨k, rfl, Or.inr hheld⟩
    · rw [hmissing] at hfound
      cases hfound

/-- An environment that holds a credential. -/
def credentialEnvironment : Environment :=
  [(Credential.sessionVariable, Text.Utf8.bytesOf "s-2"),
    (Credential.tokenVariable, Text.Utf8.bytesOf "t-2")]

/-- An environment whose token is empty. -/
def halfEnvironment : Environment :=
  [(Credential.sessionVariable, Text.Utf8.bytesOf "s-2"), (Credential.tokenVariable, [])]

/-- A store whose lookup does not end for one session, and which has a token for another one. -/
def brokenStore : SecretStore := [("s-1", .aborted "task 1 panicked"), ("s-2", .token "t-1")]

/-- Under the session whose lookup does not end, the request gets the credential of the environment
as a whole, and none where that is half of one; under the other session it gets its token. -/
theorem resolve_by_chain_of_brokenStore :
    let t : Transport := ⟨.new "http://127.0.0.1:18080", ⟨none⟩, .none⟩
    let r := Descriptor.new "/users"
    AsksProvider r ∧
      (t.withProvider (.store "s-1")).resolve r ⟨credentialEnvironment, brokenStore⟩ =
        .ok (some ⟨"s-2", "t-2"⟩) ∧
      (t.withProvider (.store "s-1")).resolve r ⟨halfEnvironment, brokenStore⟩ =
        .error (.missingCredential "/users") ∧
      (t.withProvider (.store "s-2")).resolve r ⟨credentialEnvironment, brokenStore⟩ =
        .ok (some ⟨"s-2", "t-1"⟩) := by
  intro t r
  have hasks : AsksProvider r := ⟨rfl, rfl⟩
  have hbroken : ∀ token, ¬SecretStore.Yields brokenStore "s-1" token :=
    SecretStore.token?_eq_none_iff.1 (by decide)
  have hholds : credentialEnvironment.Holds ⟨"s-2", "t-2"⟩ :=
    Credential.ofEnvironment?_eq_some_iff.1 (by decide +kernel)
  have hhalf : ∀ k, ¬halfEnvironment.Holds k :=
    Credential.ofEnvironment?_eq_none_iff.1 (by decide +kernel)
  have hyields : SecretStore.Yields brokenStore "s-2" "t-1" :=
    SecretStore.token?_eq_some_iff.1 (by decide)
  obtain ⟨-, hwhole, -⟩ := resolve_by_chain t hasks "s-1" ⟨credentialEnvironment, brokenStore⟩
  obtain ⟨-, hnothing, -⟩ := resolve_by_chain t hasks "s-1" ⟨halfEnvironment, brokenStore⟩
  obtain ⟨htoken, -⟩ := resolve_by_chain t hasks "s-2" ⟨credentialEnvironment, brokenStore⟩
  exact ⟨hasks, (hwhole hbroken).1 _ hholds, (hnothing hbroken).2.1 hhalf, (htoken _ hyields).1⟩

end Transport

end Courier
