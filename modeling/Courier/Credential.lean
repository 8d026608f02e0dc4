import Courier.Environment
import Courier.Error
import Courier.Trace

/-!
# Credentials

A session and its access token, and the places that a credential may come from.  The token is
secret: no rendering for people shows it.
-/

namespace Courier

/-- A session and the token that proves it. -/
structure Credential where
  sessionId : String
  accessToken : String
  deriving DecidableEq

namespace Credential

/-- What stands for a token where it must not be seen. -/
def redacted : String := "<redacted>"

/-- A credential on one line, without its token. -/
def describe (c : Credential) : String :=
  "AuthCredential \x7b session_id: " ++ Text.quoted c.sessionId ++ ", access_token: "
    ++ Text.quoted redacted ++ " \x7d"

/-- A credential over several lines, without its token. -/
def describeLines (c : Credential) : String :=
  "AuthCredential \x7b\n    session_id: " ++ Text.quoted c.sessionId ++ ",\n    access_token: "
    ++ Text.quoted redacted ++ ",\n\x7d"

/-- The variable that holds a session. -/
def sessionVariable : String := "MAIL_API_SESSION_ID"

/-- The variable that holds a token. -/
def tokenVariable : String := "MAIL_API_ACCESS_TOKEN"

/-- The credential of an environment in which both variables are set to something. -/
def ofEnvironment? (env : Environment) : Option Credential :=
  match env.filled? sessionVariable, env.filled? tokenVariable with
  | some session, some token => some ⟨session, token⟩
  | _, _ => none

end Credential

/-- What a secret store answers for a session. -/
inductive StoreAnswer where
  | token (t : String)
  /-- The store cannot be opened. -/
  | unavailable (error : String)
  /-- There is no entry, or none that can be read as text. -/
  | noEntry (error : String)
  /-- The lookup did not end. -/
  | aborted (error : String)
  deriving DecidableEq, Repr

namespace StoreAnswer

/-- There is no entry. -/
def missing : StoreAnswer := .noEntry "No matching entry found in secure storage"

/-- The token of an answer; a failure of any kind is no token. -/
def token? : StoreAnswer → Option String
  | .token t => some t
  | _ => none

/-- What is reported about an answer for a session. -/
def events (session : String) : StoreAnswer → List Event
  | .token _ => []
  | .unavailable error => [.storeUnavailable error]
  | .noEntry error => [.noEntry session error]
  | .aborted error => [.lookupAborted error]

end StoreAnswer

/-- The answers of a secret store by session. -/
abbrev SecretStore := List (String × StoreAnswer)

namespace SecretStore

/-- What a store answers for a session. -/
def answer (store : SecretStore) (session : String) : StoreAnswer :=
  (store.lookup session).getD .missing

/-- The token of a session. -/
def token? (store : SecretStore) (session : String) : Option String :=
  (store.answer session).token?

end SecretStore

/-- Where a credential is looked up for a request that carries none. -/
inductive CredentialProvider where
  | none
  | fixed (c : Credential)
  | environment
  /-- The secret store under a session, then the environment. -/
  | store (session : String)
  | failing (e : Error)

/-- What providers look at: the environment and the secret store, as they are now. -/
structure Surroundings where
  environment : Environment
  store : SecretStore

namespace CredentialProvider

/-- Looks a credential up.  Only a secret store gives something to report. -/
def lookup (p : CredentialProvider) (s : Surroundings) : Reported (Option Credential) :=
  match p with
  | .none => .silent (.ok .none)
  | .fixed c => .silent (.ok (some c))
  | .environment => .silent (.ok (Credential.ofEnvironment? s.environment))
  | .store session =>
    let found :=
      match s.store.token? session with
      | some token => some ⟨session, token⟩
      | .none => Credential.ofEnvironment? s.environment
    ⟨.ok found, (s.store.answer session).events session⟩
  | .failing e => .silent (.error e)

/-- The credential that is looked up. -/
def credential (p : CredentialProvider) (s : Surroundings) : Except Error (Option Credential) :=
  (p.lookup s).result

end CredentialProvider

end Courier
