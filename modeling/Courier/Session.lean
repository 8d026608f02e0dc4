import Courier.Transport

/-!
# Sessions

A transport in use while its surroundings change: the environment or the secret store may be
replaced, another provider may be installed, and in between credentials are resolved and plans made.
Resolving and preparing look at the surroundings as they are at that moment and change nothing.
-/

namespace Courier

/-- One step of a session. -/
inductive Operation (ρ : Type) where
  /-- Replaces the environment. -/
  | setEnvironment (environment : Environment)
  /-- Replaces the secret store behind the transport's back. -/
  | setStore (store : SecretStore)
  /-- Installs a provider; one that brings a secret store with it replaces the store. -/
  | setProvider (provider : CredentialProvider) (store : Option SecretStore)
  | resolve (r : ρ)
  | prepare (r : ρ) (requestId : String)

/-- What a step answers, and what is reported meanwhile. -/
inductive StepResult where
  | done
  | credential (found : Reported (Option Credential))
  | plan (made : Reported Plan)

/-- A transport and what it can look at. -/
structure Session where
  transport : Transport
  surroundings : Surroundings

namespace Session

/-- Replaces the environment. -/
def setEnvironment (s : Session) (environment : Environment) : Session :=
  { s with surroundings := { s.surroundings with environment := environment } }

/-- Replaces the secret store. -/
def setStore (s : Session) (store : SecretStore) : Session :=
  { s with surroundings := { s.surroundings with store := store } }

/-- Installs a provider, with the secret store that it brings. -/
def setProvider (s : Session) (p : CredentialProvider) (store : Option SecretStore) : Session where
  transport := s.transport.withProvider p
  surroundings := { s.surroundings with store := store.getD s.surroundings.store }

variable {ρ : Type} [Request ρ]

/-- Carries out one step. -/
def step (s : Session) : Operation ρ → StepResult × Session
  | .setEnvironment environment => (.done, s.setEnvironment environment)
  | .setStore store => (.done, s.setStore store)
  | .setProvider p store => (.done, s.setProvider p store)
  | .resolve r => (.credential (s.transport.findCredential r s.surroundings), s)
  | .prepare r requestId => (.plan (s.transport.makePlan r s.surroundings requestId), s)

/-- Carries out steps in turn. -/
def run (s : Session) : List (Operation ρ) → List StepResult × Session
  | [] => ([], s)
  | operation :: rest =>
    let (result, s) := s.step operation
    let (results, s) := run s rest
    (result :: results, s)

end Session

end Courier
