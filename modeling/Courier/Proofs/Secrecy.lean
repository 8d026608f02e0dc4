import Courier.CommandLine.Command
import Courier.Proofs.AlikeRuns
import Courier.Proofs.Influence
import Courier.Proofs.Overrides
import Mathlib.Data.Option.Basic

/-!
# What an access token reaches

The token of a credential goes into the `authorization` header and nowhere else.  Two runs that
differ only in tokens, each of which is accepted as a header value if the other one is, come to the
same results, errors, reports and pauses, and send the same messages but for that header.

* `TokensAlike` — what two tokens have in common; `CredentialsAlike`, `ProvidersAlike`,
  `SurroundingsAlike` and `RequestsAlike` carry it to the places that hold a token.
* `Transport.resolve_alike`, `Transport.prepare_alike_of_tokens` — such runs resolve and prepare
  alike.
* `CommandLine.run_alike` — commands print the same in environments that differ in the token.
* `token_reaches_authorization_only` — **the two-run statement**.
-/

namespace Courier

open Result (Agree)

/-! ## Two tokens -/

/-- Two tokens, neither of them empty, of which both or neither can stand in a header. -/
structure TokensAlike (t t' : String) : Prop where
  filled : t ≠ ""
  filled' : t' ≠ ""
  valid : Http.isValue t = Http.isValue t'

/-- Two credentials of one session, with the same token or with two alike ones. -/
structure CredentialsAlike (k k' : Credential) : Prop where
  session : k.sessionId = k'.sessionId
  token : k.accessToken = k'.accessToken ∨ TokensAlike k.accessToken k'.accessToken

theorem CredentialsAlike.refl (k : Credential) : CredentialsAlike k k := ⟨rfl, Or.inl rfl⟩

/-- Two environments that agree on all variables but that of the token, which has the same bytes in
both or alike tokens. -/
structure EnvironmentsAlike (env env' : Environment) : Prop where
  others : ∀ name, name ≠ Credential.tokenVariable → env.lookup name = env'.lookup name
  token : env.lookup Credential.tokenVariable = env'.lookup Credential.tokenVariable ∨
    ∃ t t', env.text? Credential.tokenVariable = some t ∧
      env'.text? Credential.tokenVariable = some t' ∧ TokensAlike t t'

theorem EnvironmentsAlike.refl (env : Environment) : EnvironmentsAlike env env :=
  ⟨fun _ _ => rfl, Or.inl rfl⟩

/-- Two answers of a secret store: the same, or alike tokens. -/
inductive AnswersAlike : Option StoreAnswer → Option StoreAnswer → Prop where
  | same (a : Option StoreAnswer) : AnswersAlike a a
  | tokens {t t' : String} (h : TokensAlike t t') :
      AnswersAlike (some (.token t)) (some (.token t'))

/-- Two surroundings that differ in tokens only. -/
structure SurroundingsAlike (s s' : Surroundings) : Prop where
  environment : EnvironmentsAlike s.environment s'.environment
  store : ∀ session, AnswersAlike (s.store.lookup session) (s'.store.lookup session)

/-- Two providers that differ in a token only. -/
inductive ProvidersAlike : CredentialProvider → CredentialProvider → Prop where
  | same (p : CredentialProvider) : ProvidersAlike p p
  | fixed {k k' : Credential} (h : CredentialsAlike k k') : ProvidersAlike (.fixed k) (.fixed k')

/-- Two requests that differ in the tokens of their credentials only. -/
structure RequestsAlike {ρ ρ' : Type} [Request ρ] [Request ρ'] (r : ρ) (r' : ρ') : Prop where
  answers : AlikeButCredential r r'
  credential : Option.Rel CredentialsAlike (Request.credential r) (Request.credential r')

theorem RequestsAlike.refl {ρ : Type} [Request ρ] (r : ρ) : RequestsAlike r r := by
  refine ⟨rfl, ?_⟩
  cases Request.credential r with
  | none => exact .none
  | some k => exact .some (.refl k)

/-! ## What shows of a credential -/

/-- Neither rendering of a credential shows its token. -/
theorem CredentialsAlike.describe_eq {k k' : Credential} (h : CredentialsAlike k k') :
    k.describe = k'.describe ∧ k.describeLines = k'.describeLines := by
  unfold Credential.describe Credential.describeLines
  simp only [h.session, and_self]

/-! ## Looking a credential up -/

theorem EnvironmentsAlike.text?_eq {env env' : Environment}
    (h : EnvironmentsAlike env env') {name : String}
    (hname : name ≠ Credential.tokenVariable) : env.text? name = env'.text? name := by
  rw [Environment.text?, Environment.text?, h.others name hname]

theorem EnvironmentsAlike.filled?_session {env env' : Environment}
    (h : EnvironmentsAlike env env') :
    env.filled? Credential.sessionVariable = env'.filled? Credential.sessionVariable := by
  have hname : Credential.sessionVariable ≠ Credential.tokenVariable := by
    simp [Credential.sessionVariable, Credential.tokenVariable]
  rw [Environment.filled?, Environment.filled?, h.text?_eq hname]

/-- Alike environments have alike credentials, or neither has one. -/
theorem EnvironmentsAlike.credential {env env' : Environment} (h : EnvironmentsAlike env env') :
    Option.Rel CredentialsAlike (Credential.ofEnvironment? env)
      (Credential.ofEnvironment? env') := by
  rw [Credential.ofEnvironment?, Credential.ofEnvironment?, h.filled?_session]
  cases env'.filled? Credential.sessionVariable with
  | none => exact .none
  | some session =>
    rcases h.token with hsame | ⟨t, t', ht, ht', halike⟩
    · have htoken : env.filled? Credential.tokenVariable =
          env'.filled? Credential.tokenVariable := by
        rw [Environment.filled?, Environment.filled?, Environment.text?, Environment.text?, hsame]
      rw [htoken]
      cases env'.filled? Credential.tokenVariable with
      | none => exact .none
      | some token => exact .some (.refl _)
    · have hheld := Environment.text?_eq_some_iff.1 ht
      have hheld' := Environment.text?_eq_some_iff.1 ht'
      rw [Environment.filled?_eq_some_iff.2 ⟨hheld, halike.filled⟩,
        Environment.filled?_eq_some_iff.2 ⟨hheld', halike.filled'⟩]
      exact .some ⟨rfl, Or.inr halike⟩

/-- Alike stores have alike tokens for a session, or neither has one, and then for the same
reason. -/
theorem token?_alike {store store' : SecretStore} {session : String}
    (h : AnswersAlike (store.lookup session) (store'.lookup session)) :
    store.token? session = store'.token? session ∨
      ∃ t t', store.token? session = some t ∧ store'.token? session = some t' ∧
        TokensAlike t t' := by
  rw [SecretStore.token?, SecretStore.token?, SecretStore.answer, SecretStore.answer]
  generalize store.lookup session = a, store'.lookup session = a' at h
  cases h with
  | same => exact Or.inl rfl
  | tokens h => exact Or.inr ⟨_, _, rfl, rfl, h⟩

/-- No token is reported, so alike stores give the same to report. -/
theorem events_answer_alike {store store' : SecretStore} {session : String}
    (h : AnswersAlike (store.lookup session) (store'.lookup session)) :
    (store.answer session).events session = (store'.answer session).events session := by
  rw [SecretStore.answer, SecretStore.answer]
  generalize store.lookup session = a, store'.lookup session = a' at h
  cases h with
  | same => rfl
  | tokens h => rfl

/-- Alike providers find alike credentials in alike surroundings. -/
theorem CredentialProvider.credential_alike {p p' : CredentialProvider} (hp : ProvidersAlike p p')
    {s s' : Surroundings} (hs : SurroundingsAlike s s') :
    Agree (Option.Rel CredentialsAlike) (p.credential s) (p'.credential s') := by
  cases hp with
  | fixed h => exact .ok (.some h)
  | same =>
    cases p with
    | none => exact .ok .none
    | fixed k => exact .ok (.some (.refl k))
    | environment => exact .ok hs.environment.credential
    | failing e => exact .error e
    | store session =>
      simp only [credential, lookup]
      rcases token?_alike (hs.store session) with hsame | ⟨t, t', ht, ht', halike⟩
      · rw [hsame]
        cases s'.store.token? session with
        | none => exact .ok hs.environment.credential
        | some token => exact .ok (.some (.refl _))
      · rw [ht, ht']
        exact .ok (.some ⟨rfl, Or.inr halike⟩)

/-- Alike providers report the same in alike surroundings. -/
theorem CredentialProvider.events_lookup_alike {p p' : CredentialProvider}
    (hp : ProvidersAlike p p') {s s' : Surroundings} (hs : SurroundingsAlike s s') :
    (p.lookup s).events = (p'.lookup s').events := by
  cases hp with
  | fixed h => rfl
  | same =>
    cases p with
    | store session => exact events_answer_alike (hs.store session)
    | _ => rfl

/-! ## What is left of a message without its token -/

/-- Values that are the same, unless they belong to the header that carries the token. -/
def SameButToken (name v v' : String) : Prop := v = v' ∨ name = "authorization"

theorem SameButToken.refl (name v : String) : SameButToken name v v := Or.inl rfl

/-- Headers without the one that carries the token. -/
def Http.Headers.withoutToken (headers : Http.Headers) : Http.Headers :=
  Client.without ["authorization"] headers

/-- A plan without the header that carries the token. -/
def Plan.withoutToken (p : Plan) : Plan :=
  { p with headers := Http.Headers.withoutToken p.headers }

/-- A message without the header that carries the token. -/
def Http.Message.withoutToken (m : Http.Message) : Http.Message :=
  { m with headers := Http.Headers.withoutToken m.headers }

/-- A network whose messages are without the header that carries the token. -/
def Network.withoutToken (n : Network) : Network :=
  { n with
    offered := n.offered.map Http.Message.withoutToken
    received := n.received.map Http.Message.withoutToken }

/-- Entries that differ at most in a token are the same without its name. -/
theorem filter_eq_of_entriesAlike {es es' : List (String × String)}
    (h : EntriesAlike SameButToken es es') :
    es.filter (fun e => !(["authorization"].contains e.1)) =
      es'.filter fun e => !(["authorization"].contains e.1) := by
  induction h with
  | nil => rfl
  | @cons a b rest rest' hab hrest ih =>
    obtain ⟨name, v⟩ := a
    obtain ⟨name', v'⟩ := b
    obtain ⟨rfl, hv⟩ := hab
    rw [List.filter_cons, List.filter_cons, ih]
    rcases hv with rfl | rfl
    · rfl
    · simp

theorem withoutToken_eq_of_headersAlike {hs hs' : Http.Headers}
    (h : HeadersAlike SameButToken hs hs') :
    Http.Headers.withoutToken hs = Http.Headers.withoutToken hs' :=
  Table.ext (filter_eq_of_entriesAlike h)

theorem PlanAlike.withoutToken_eq {p p' : Plan} (h : PlanAlike SameButToken p p') :
    p.withoutToken = p'.withoutToken := by
  simp only [Plan.withoutToken, h.method, h.path, h.url, h.query, h.body, h.autoRetry,
    withoutToken_eq_of_headersAlike h.headers]

theorem MessageAlike.withoutToken_eq {m m' : Http.Message} (h : MessageAlike SameButToken m m') :
    m.withoutToken = m'.withoutToken := by
  simp only [Http.Message.withoutToken, h.verb, h.target, h.body,
    withoutToken_eq_of_headersAlike h.headers]

theorem withoutToken_eq_of_messagesAlike {ms ms' : List Http.Message}
    (h : List.Forall₂ (MessageAlike SameButToken) ms ms') :
    ms.map Http.Message.withoutToken = ms'.map Http.Message.withoutToken := by
  induction h with
  | nil => rfl
  | cons hm hms ih => rw [List.map_cons, List.map_cons, hm.withoutToken_eq, ih]

/-- A network to which alike messages were sent is the same but for the tokens in them. -/
theorem withoutToken_offerAll {n : Network} {ms ms' : List Http.Message}
    (h : List.Forall₂ (MessageAlike SameButToken) ms ms') :
    (n.offerAll ms).withoutToken = (n.offerAll ms').withoutToken := by
  have htaken := (Network.SameServer.refl n).taken h
  simp only [Network.offerAll_eq, Network.withoutToken, List.map_append,
    withoutToken_eq_of_messagesAlike h, withoutToken_eq_of_messagesAlike htaken, h.length_eq]

/-! ## Plans -/

theorem Http.isValue_append (a b : String) :
    Http.isValue (a ++ b) = (Http.isValue a && Http.isValue b) := by
  simp [Http.isValue, Text.Utf8.bytesOf, Text.Utf8.encode, List.flatMap_append, List.all_append]

open Plan (ValuesAlike) in
/-- Alike credentials give alike values to the header that carries the token. -/
theorem valuesAlike_of_tokens {k k' : Option Credential} (h : Option.Rel CredentialsAlike k k') :
    ValuesAlike SameButToken "authorization" (k.map fun k => "Bearer " ++ k.accessToken)
      (k'.map fun k => "Bearer " ++ k.accessToken) := by
  cases h with
  | none => exact .none
  | some hk =>
    refine .some (Or.inr rfl) ?_
    simp only [Http.isValue_append]
    rcases hk.token with hsame | halike
    · rw [hsame]
    · rw [halike.valid]

open Plan (ValuesAlike) in
/-- Alike credentials give the same value to the header of the session. -/
theorem valuesAlike_of_sessions {k k' : Option Credential} (h : Option.Rel CredentialsAlike k k') :
    ValuesAlike SameButToken Plan.sessionHeader (k.map (·.sessionId)) (k'.map (·.sessionId)) := by
  cases h with
  | none => exact .none
  | some hk =>
    rw [Option.map_some, Option.map_some, hk.session]
    exact .refl SameButToken.refl _ _

namespace Transport

variable {ρ ρ' : Type} [Request ρ] [Request ρ']

/-- Alike requests both leave their credentials to the transport, or neither does. -/
theorem asksProvider_iff_of_alike {r : ρ} {r' : ρ'} (hr : RequestsAlike r r') :
    AsksProvider r ↔ AsksProvider r' := by
  have hauth : Request.isAuthenticated r = Request.isAuthenticated r' :=
    congrArg Descriptor.isAuthenticated hr.answers
  rw [AsksProvider, AsksProvider, hauth]
  have hcredential := hr.credential
  generalize Request.credential r = k, Request.credential r' = k' at hcredential
  cases hcredential with
  | none => exact Iff.rfl
  | some _ => simp

/-- Alike requests resolve to alike credentials. -/
theorem resolve_alike {t : Transport} {p p' : CredentialProvider} (hp : ProvidersAlike p p') {r : ρ}
    {r' : ρ'} (hr : RequestsAlike r r') {s s' : Surroundings} (hs : SurroundingsAlike s s') :
    Agree (Option.Rel CredentialsAlike) ((t.withProvider p).resolve r s)
      ((t.withProvider p').resolve r' s') := by
  have hauth : Request.isAuthenticated r = Request.isAuthenticated r' :=
    congrArg Descriptor.isAuthenticated hr.answers
  have hpath : Request.path r = Request.path r' := congrArg Descriptor.path hr.answers
  cases hauthenticated : Request.isAuthenticated r with
  | false =>
    rw [resolve_of_anonymous hauthenticated, resolve_of_anonymous (hauth ▸ hauthenticated)]
    exact .ok .none
  | true =>
    have hauthenticated' : Request.isAuthenticated r' = true := hauth ▸ hauthenticated
    have hcredential := hr.credential
    generalize hown : Request.credential r = k, hown' : Request.credential r' = k' at hcredential
    cases hcredential with
    | some hk =>
      rw [resolve_of_own hauthenticated hown, resolve_of_own hauthenticated' hown']
      exact .ok (.some hk)
    | none =>
      rw [resolve_of_asks ⟨hauthenticated, hown⟩, resolve_of_asks ⟨hauthenticated', hown'⟩, hpath]
      apply (CredentialProvider.credential_alike hp hs).bind
      intro found found' hfound
      cases hfound with
      | none => exact .error _
      | some hk => exact .ok (.some hk)

/-- Runs that differ in tokens only prepare alike. -/
theorem prepare_alike_of_tokens (t : Transport) {p p' : CredentialProvider}
    (hp : ProvidersAlike p p') {r : ρ} {r' : ρ'} (hr : RequestsAlike r r') {s s' : Surroundings}
    (hs : SurroundingsAlike s s') (requestId : String) :
    Agree (PlanAlike SameButToken) ((t.withProvider p).prepare r s requestId)
      ((t.withProvider p').prepare r' s' requestId) := by
  have hpath : Request.path r = Request.path r' := congrArg Descriptor.path hr.answers
  rw [prepare_eq_bind, prepare_eq_bind, hpath]
  apply Agree.bind_same
  intro u
  apply (resolve_alike hp hr hs).bind
  intro k k' hk
  show Agree _ (Plan.of t.config r k requestId) (Plan.of t.config r' k' requestId)
  rw [Plan.of_congr hr.answers]
  exact Plan.of_alike SameButToken.refl t.config r' (Or.inl rfl) rfl (valuesAlike_of_tokens hk)
    (valuesAlike_of_sessions hk)

/-- Runs that differ in tokens only report the same before there is a plan. -/
theorem events_makePlan_alike (t : Transport) {p p' : CredentialProvider}
    (hp : ProvidersAlike p p') {r : ρ} {r' : ρ'} (hr : RequestsAlike r r') {s s' : Surroundings}
    (hs : SurroundingsAlike s s') (requestId : String) :
    ((t.withProvider p).makePlan r s requestId).events =
      ((t.withProvider p').makePlan r' s' requestId).events := by
  refine events_makePlan_congr (congrArg Descriptor.path hr.answers) ?_ requestId requestId
  rcases events_findCredential (t.withProvider p) r s with ⟨hasks, hevents⟩ | ⟨hasks, hevents⟩ <;>
    rcases events_findCredential (t.withProvider p') r' s' with
      ⟨hasks', hevents'⟩ | ⟨hasks', hevents'⟩
  · rw [hevents, hevents']
    exact CredentialProvider.events_lookup_alike hp hs
  · exact absurd ((asksProvider_iff_of_alike hr).1 hasks) hasks'
  · exact absurd ((asksProvider_iff_of_alike hr).2 hasks') hasks
  · rw [hevents, hevents']

/-- Runs that differ in tokens only dispatch alike. -/
theorem dispatch_alike_of_tokens (t : Transport) {p p' : CredentialProvider}
    (hp : ProvidersAlike p p') {r : ρ} {r' : ρ'} (hr : RequestsAlike r r') {s s' : Surroundings}
    (hs : SurroundingsAlike s s') (requestId : String) (n : Network) :
    RunsAlike SameButToken n n ((t.withProvider p).dispatch r s requestId n)
      ((t.withProvider p').dispatch r' s' requestId n) :=
  dispatch_alike (t := t.withProvider p) SameButToken.refl p'
    (prepare_alike_of_tokens t hp hr hs requestId) (events_makePlan_alike t hp hr hs requestId)
    (.refl n)

/-- What is left of the networks of such runs, without the tokens, is the same. -/
theorem RunsAlike.withoutToken_eq {n : Network} {run run' : Run Network}
    (h : RunsAlike SameButToken n n run run') : run.rest.withoutToken = run'.rest.withoutToken := by
  obtain ⟨ms, ms', hms, hrest, hrest'⟩ := h.messages
  rw [hrest, hrest']
  exact withoutToken_offerAll hms

end Transport

namespace CommandLine

/-! ## Commands -/

/-- Two scenes that differ in the token of their environments only. -/
structure ScenesAlike (s s' : Scene) : Prop where
  environment : EnvironmentsAlike s.environment s'.environment
  files : s.files = s'.files
  network : s.network = s'.network
  requestId : s.requestId = s'.requestId

/-- An outcome whose messages are without the header that carries the token. -/
def Outcome.withoutToken (o : Outcome) : Outcome :=
  { o with network := o.network.withoutToken }

/-- No setting is read from the variable of the token. -/
theorem withOverrides_alike {env env' : Environment} (h : EnvironmentsAlike env env')
    (c : Config) : c.withOverrides env = c.withOverrides env' := by
  refine Config.withOverrides_congr (fun setting => h.others _ ?_) c
  cases setting <;> decide

theorem loadConfig_alike {s s' : Scene} (h : ScenesAlike s s') (arguments : List String) :
    loadConfig s arguments = loadConfig s' arguments := by
  simp only [loadConfig, h.files, withOverrides_alike h.environment]

theorem openTransport_alike {s s' : Scene} (h : ScenesAlike s s') (options : List String) :
    openTransport s options = openTransport s' options := by
  simp only [openTransport, loadConfig_alike h]

/-- A request is reported alike, and so is what became of it. -/
theorem runRequest_alike {s s' : Scene} (h : ScenesAlike s s') (arguments : List String) :
    (runRequest s arguments).withoutToken = (runRequest s' arguments).withoutToken := by
  rw [runRequest, runRequest, openTransport_alike h, h.network, h.requestId]
  cases readRequest arguments with
  | error f => rfl
  | ok d =>
    cases openTransport s' (arguments.drop 2) with
    | error f => rfl
    | ok t =>
      have hsurroundings : SurroundingsAlike ⟨s.environment, []⟩ ⟨s'.environment, []⟩ :=
        ⟨h.environment, fun session => .same none⟩
      have hrun : Transport.RunsAlike SameButToken s'.network s'.network
          (t.dispatch d ⟨s.environment, []⟩ s'.requestId s'.network)
          (t.dispatch d ⟨s'.environment, []⟩ s'.requestId s'.network) :=
        Transport.dispatch_alike_of_tokens t (.same t.provider) (.refl d) hsurroundings
          s'.requestId s'.network
      have hrest := hrun.withoutToken_eq
      simp only [hrun.result]
      cases (t.dispatch d ⟨s'.environment, []⟩ s'.requestId s'.network).result with
      | error e => simp only [Outcome.withoutToken, Failure.outcome, hrest]
      | ok response => simp only [Outcome.withoutToken, hrest]

/-- **Commands print the same** in scenes that differ in the token only, and send the same messages
but for the header that carries the token. -/
theorem run_alike {s s' : Scene} (h : ScenesAlike s s') (arguments : List String) :
    (run s arguments).withoutToken = (run s' arguments).withoutToken := by
  cases arguments with
  | nil =>
    rw [run, run, h.network]
  | cons command arguments =>
    rw [run, run, h.network]
    split
    · exact runRequest_alike h arguments
    · have hconfig : runConfig s arguments = runConfig s' arguments := by
        rw [runConfig, runConfig, loadConfig_alike h, h.network]
      rw [hconfig]

end CommandLine

/-! ## The two-run statement -/

/-- **The token reaches the `authorization` header and nothing else.**  Runs that differ in tokens
only, which are not empty and both accepted or both refused as header values, prepare to the same
error or to plans that are the same but for that header.  They dispatch to the same result, reports
and pauses, and send the same messages but for that header.  No rendering of a credential shows its
token, and neither does anything that a command prints. -/
theorem token_reaches_authorization_only {ρ ρ' : Type} [Request ρ] [Request ρ'] (t : Transport)
    {p p' : CredentialProvider} (hp : ProvidersAlike p p') {r : ρ} {r' : ρ'}
    (hr : RequestsAlike r r') {s s' : Surroundings} (hs : SurroundingsAlike s s')
    (requestId : String) (n : Network) :
    ((t.withProvider p).prepare r s requestId).map Plan.withoutToken =
        ((t.withProvider p').prepare r' s' requestId).map Plan.withoutToken ∧
      (∀ run run', (t.withProvider p).dispatch r s requestId n = run →
        (t.withProvider p').dispatch r' s' requestId n = run' →
          run.result = run'.result ∧ run.events = run'.events ∧ run.pauses = run'.pauses ∧
            run.rest.withoutToken = run'.rest.withoutToken) ∧
      (∀ k k', CredentialsAlike k k' →
        k.describe = k'.describe ∧ k.describeLines = k'.describeLines) ∧
      ∀ scene scene', CommandLine.ScenesAlike scene scene' → ∀ arguments outcome outcome',
        CommandLine.run scene arguments = outcome → CommandLine.run scene' arguments = outcome' →
          outcome.exitCode = outcome'.exitCode ∧ outcome.stdout = outcome'.stdout ∧
            outcome.stderr = outcome'.stderr ∧
            outcome.network.withoutToken = outcome'.network.withoutToken := by
  refine ⟨?_, ?_, ?_, ?_⟩
  · have hprepare := Transport.prepare_alike_of_tokens t hp hr hs requestId
    generalize (t.withProvider p).prepare r s requestId = made,
      (t.withProvider p').prepare r' s' requestId = made' at hprepare
    cases hprepare with
    | error e => rfl
    | ok hplans => exact congrArg Except.ok hplans.withoutToken_eq
  · rintro run run' rfl rfl
    have hrun := Transport.dispatch_alike_of_tokens t hp hr hs requestId n
    exact ⟨hrun.result, hrun.events, hrun.pauses, hrun.withoutToken_eq⟩
  · intro k k' hk
    exact hk.describe_eq
  · rintro scene scene' hscenes arguments outcome outcome' rfl rfl
    have houtcome := CommandLine.run_alike hscenes arguments
    exact ⟨congrArg (·.exitCode) houtcome, congrArg (·.stdout) houtcome,
      congrArg (·.stderr) houtcome, congrArg (·.network) houtcome⟩

/-- An environment with a session, this token and the server on the same machine. -/
def environmentWith (token : String) : Environment :=
  [(Credential.sessionVariable, Text.Utf8.bytesOf "uid"),
    (Credential.tokenVariable, Text.Utf8.bytesOf token),
    ("MAIL_API_BASE_URL", Text.Utf8.bytesOf "http://127.0.0.1:18080")]

theorem lookup_environmentWith (token : String) :
    (environmentWith token).lookup Credential.tokenVariable = some (Text.Utf8.bytesOf token) := by
  simp [environmentWith, Credential.tokenVariable, Credential.sessionVariable, List.lookup_cons]

theorem environmentsAlike_environmentWith {token token' : String}
    (h : Text.Utf8.string? (Text.Utf8.bytesOf token) = some token)
    (h' : Text.Utf8.string? (Text.Utf8.bytesOf token') = some token')
    (halike : TokensAlike token token') :
    EnvironmentsAlike (environmentWith token) (environmentWith token') := by
  refine ⟨?_, Or.inr ⟨token, token', ?_, ?_, halike⟩⟩
  · intro name hname
    have hother : (name == Credential.tokenVariable) = false := by simpa using hname
    simp [environmentWith, List.lookup_cons, hother]
  · rw [Environment.text?, lookup_environmentWith, Option.bind_some, h]
  · rw [Environment.text?, lookup_environmentWith, Option.bind_some, h']

section
open Transport (toLocalServer unavailableOnce)

/-- A request for the users with the token of an environment, at a server that is unavailable for
one message. -/
def usersRunWith (token : String) : Transport.Run Network :=
  (toLocalServer.withProvider .environment).dispatch (Descriptor.new "/users")
    ⟨environmentWith token, []⟩ "id-1" unavailableOnce

/-- The same request as a command, which makes no second attempt. -/
def usersCommandWith (token : String) : CommandLine.Outcome :=
  CommandLine.run ⟨environmentWith token, fun _ => .error .missing, unavailableOnce, "id-1"⟩
    ["request", "GET", "/users"]

/-- A token that is sent twice, because the server is unavailable once, shows in two messages and
nowhere else; one that no header can hold is refused with the same error as another one; and a
command prints the same about either. -/
theorem token_reaches_authorization_only_of_environment :
    let prepared (token : String) := (toLocalServer.withProvider .environment).prepare
      (Descriptor.new "/users") ⟨environmentWith token, []⟩ "id-1"
    ((usersRunWith "one").rest.received.map (·.headers.find? "authorization") =
          [some "Bearer one", some "Bearer one"] ∧
        (usersRunWith "two").rest.received.map (·.headers.find? "authorization") =
          [some "Bearer two", some "Bearer two"] ∧
        (usersRunWith "one").result = (usersRunWith "two").result ∧
        (usersRunWith "one").rest.withoutToken = (usersRunWith "two").rest.withoutToken) ∧
      ((prepared "one\n").isOk = false ∧
        (prepared "one\n").map Plan.withoutToken = (prepared "two\n").map Plan.withoutToken) ∧
      (usersCommandWith "one").exitCode = 1 ∧
      (usersCommandWith "one").stderr = (usersCommandWith "two").stderr := by
  have hone : (usersRunWith "one").rest.received.map (·.headers.find? "authorization") =
      [some "Bearer one", some "Bearer one"] := by decide +kernel
  have htwo : (usersRunWith "two").rest.received.map (·.headers.find? "authorization") =
      [some "Bearer two", some "Bearer two"] := by decide +kernel
  have hrefused : ((toLocalServer.withProvider .environment).prepare (Descriptor.new "/users")
      ⟨environmentWith "one\n", []⟩ "id-1").isOk = false := by decide +kernel
  have hexit : (usersCommandWith "one").exitCode = 1 := by decide +kernel
  have hvalid : EnvironmentsAlike (environmentWith "one") (environmentWith "two") :=
    environmentsAlike_environmentWith (by decide +kernel) (by decide +kernel)
      ⟨by decide, by decide, by decide⟩
  have hinvalid : EnvironmentsAlike (environmentWith "one\n") (environmentWith "two\n") :=
    environmentsAlike_environmentWith (by decide +kernel) (by decide +kernel)
      ⟨by decide, by decide, by decide⟩
  have haccepted : SurroundingsAlike ⟨environmentWith "one", []⟩ ⟨environmentWith "two", []⟩ :=
    ⟨hvalid, fun _ => .same none⟩
  have hforbidden :
      SurroundingsAlike ⟨environmentWith "one\n", []⟩ ⟨environmentWith "two\n", []⟩ :=
    ⟨hinvalid, fun _ => .same none⟩
  obtain ⟨-, hruns, -, hcommands⟩ := token_reaches_authorization_only toLocalServer
    (.same .environment) (.refl (Descriptor.new "/users")) haccepted "id-1" unavailableOnce
  obtain ⟨hprepared, -⟩ := token_reaches_authorization_only toLocalServer
    (.same .environment) (.refl (Descriptor.new "/users")) hforbidden "id-1" unavailableOnce
  obtain ⟨hresult, -, -, hrest⟩ := hruns (usersRunWith "one") (usersRunWith "two") rfl rfl
  obtain ⟨-, -, hstderr, -⟩ := hcommands
    ⟨environmentWith "one", fun _ => .error .missing, unavailableOnce, "id-1"⟩
    ⟨environmentWith "two", fun _ => .error .missing, unavailableOnce, "id-1"⟩
    ⟨hvalid, rfl, rfl, rfl⟩ ["request", "GET", "/users"] (usersCommandWith "one")
    (usersCommandWith "two") rfl rfl
  exact ⟨⟨hone, htwo, hresult, hrest⟩, ⟨hrefused, hprepared⟩, hexit, hstderr⟩

end

end Courier
