import Courier.Client
import Courier.Trace

/-!
# Transports

A transport has a configuration that was found valid, and looks credentials up for requests that
carry none.  `prepare` makes the plan of a request; `dispatch` also carries it out, and again after
failures that may pass, as the retry policy allows; `dispatchAll` does so for requests in turn.

Nothing is sent unless there is a plan.  The loop ends because each further attempt brings the
counter closer to the number of retries, which it never exceeds.
-/

namespace Courier

/-- What is needed to carry out requests. -/
structure Transport where
  config : Config
  client : Client
  provider : CredentialProvider

namespace Transport

/-! ## Construction -/

/-- The client of a configuration. -/
def clientOf (c : Config) : Except Error Client :=
  match c.proxyUrl with
  | none => .ok ⟨none⟩
  | some text =>
    match Proxy.parse text with
    | .ok proxy => .ok ⟨some proxy⟩
    | .error details =>
      .error (.configuration ("invalid proxy_url " ++ Text.quoted text)
        ((Context.none.withFieldPath "config.proxy_url").withDetails details))

/-- A transport without a place to look credentials up. -/
def new (c : Config) : Except Error Transport := do
  c.validate
  let client ← clientOf c
  .ok ⟨c, client, .none⟩

/-- The transport of an environment. -/
def ofEnvironment (env : Environment) : Except Error Transport := new (.ofEnvironment env)

/-- Sets where credentials are looked up. -/
def withProvider (t : Transport) (p : CredentialProvider) : Transport := { t with provider := p }

/-! ## Plans -/

variable {ρ : Type} [Request ρ]

/-- Finds the credential of a request: none unless it asks for one, its own, or the one looked
up. -/
def findCredential (t : Transport) (r : ρ) (s : Surroundings) : Reported (Option Credential) :=
  if Request.isAuthenticated r then
    match Request.credential r with
    | some c => .silent (.ok (some c))
    | none => do
      match ← t.provider.lookup s with
      | some c => .silent (.ok (some c))
      | none => .silent (.error (.missingCredential (Request.path r)))
  else .silent (.ok none)

/-- The credential of a request. -/
def resolve (t : Transport) (r : ρ) (s : Surroundings) : Except Error (Option Credential) :=
  (t.findCredential r s).result

/-- Makes the plan of a request. -/
def makePlan (t : Transport) (r : ρ) (s : Surroundings) (requestId : String) : Reported Plan := do
  Reported.silent (Plan.validatePath (Request.path r))
  let credential ← t.findCredential r s
  Reported.silent (Plan.of t.config r credential requestId)

/-- The plan of a request. -/
def prepare (t : Transport) (r : ρ) (s : Surroundings) (requestId : String) : Except Error Plan :=
  (t.makePlan r s requestId).result

/-! ## Attempts -/

/-- A run of attempts: its result, its reports, the pauses between attempts in milliseconds, and
what it leaves behind. -/
structure Run (σ : Type) where
  result : Except Error Response
  events : List Event
  pauses : List UInt32
  rest : σ

variable {σ : Type}

/-- The report of a successful attempt. -/
def succeeded (p : Plan) (r : Response) (attempt : UInt32) : Event :=
  .succeeded p.method p.path r.status attempt

/-- The report of a failed attempt. -/
def failed (p : Plan) (e : Error) (attempt : UInt32) : Event :=
  .failed p.method p.path e.status? attempt e.message

theorem lt_maxRetries_of_decide {policy : RetryPolicy} {e : Error} {attempt delay : UInt32}
    {autoRetry : Bool} (h : policy.decide e attempt autoRetry = .retry delay) :
    attempt < policy.maxRetries := by
  unfold RetryPolicy.decide at h
  split at h
  · rename_i hc
    simp only [Bool.and_eq_true, decide_eq_true_eq] at hc
    exact hc.2
  · cases h

/-- Attempts a plan, from an attempt of this number on. -/
def attempts (policy : RetryPolicy) (p : Plan) (send : σ → Except Error Response × σ)
    (attempt : UInt32) (s : σ) : Run σ :=
  match send s with
  | (.ok r, s) => ⟨.ok { r with retryCount := attempt }, [succeeded p r attempt], [], s⟩
  | (.error e, s) =>
    match h : policy.decide e attempt p.autoRetry with
    | .fail => ⟨.error e, [failed p e attempt], [], s⟩
    | .retry delay =>
      let run := attempts policy p send (attempt + 1) s
      { run with
        events := failed p e attempt :: run.events
        pauses := delay :: run.pauses }
termination_by policy.maxRetries.toNat - attempt.toNat
decreasing_by
  have hlt := UInt32.lt_iff_toNat_lt.1 (lt_maxRetries_of_decide h)
  have hmax := policy.maxRetries.toNat_lt
  have : (attempt + 1).toNat = attempt.toNat + 1 := by
    rw [UInt32.toNat_add, UInt32.toNat_one, Nat.mod_eq_of_lt (by omega)]
  omega

/-! ## Dispatch -/

/-- The report that a plan is about to be carried out. -/
def begun (p : Plan) : Event :=
  .begun p.method p.path p.body.isSome p.query.length p.autoRetry

/-- Carries out a plan. -/
def carryOut (t : Transport) (p : Plan) (n : Network) : Run Network :=
  let run := attempts t.config.retry p (t.client.send p) 0 n
  { run with events := begun p :: run.events }

/-- Carries out a request.  What was reported while its plan was made comes first. -/
def dispatch (t : Transport) (r : ρ) (s : Surroundings) (requestId : String) (n : Network) :
    Run Network :=
  let made := t.makePlan r s requestId
  match made.result with
  | .error e => ⟨.error e, made.events, [], n⟩
  | .ok p =>
    let run := t.carryOut p n
    { run with events := made.events ++ run.events }

/-- A request whose turn it is, with its surroundings at that time and the id that it gets. -/
structure Order (ρ : Type) where
  request : ρ
  surroundings : Surroundings
  requestId : String

/-- Carries out requests in turn, each on the network that the one before leaves behind. -/
def dispatchAll (t : Transport) : List (Order ρ) → Network → List (Run Network) × Network
  | [], n => ([], n)
  | order :: rest, n =>
    let run := t.dispatch order.request order.surroundings order.requestId n
    let (runs, n) := dispatchAll t rest run.rest
    (run :: runs, n)

end Transport

end Courier
