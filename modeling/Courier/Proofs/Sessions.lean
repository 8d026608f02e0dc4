import Courier.Session
import Courier.Proofs.Independence

/-!
# Transports in use

A transport is built from a configuration and then used, while the environment and the secret store
change around it and providers are installed.  Of all that happened before, a step sees what was set
last: the provider, the environment and the secret store.  The configuration is set once.

* `Session.run_snd` — **the state after any steps** is the first one with what was set last.
* `Session.run_append`, `Session.step_question` — a question leaves the state as it is.
* `Session.answers_as_if_fresh` — every question is answered as by a transport that is built anew.
-/

namespace Courier

variable {ρ : Type}

/-! ## What steps set -/

namespace Operation

/-- The environment that a step sets. -/
def environment? : Operation ρ → Option Environment
  | .setEnvironment environment => some environment
  | _ => none

/-- The secret store that a step sets, by itself or with a provider. -/
def store? : Operation ρ → Option SecretStore
  | .setStore store => some store
  | .setProvider _ store => store
  | _ => none

/-- The provider that a step installs. -/
def provider? : Operation ρ → Option CredentialProvider
  | .setProvider p _ => some p
  | _ => none

/-- Whether a step is a question: to resolve a credential or to make a plan. -/
def IsQuestion : Operation ρ → Prop
  | .resolve _ => True
  | .prepare _ _ => True
  | _ => False

/-- What the last step that sets something sets; `otherwise` if none does. -/
def latest {α : Type} (sets : Operation ρ → Option α) (otherwise : α)
    (operations : List (Operation ρ)) : α :=
  (operations.filterMap sets).getLast?.getD otherwise

@[simp] theorem latest_nil {α : Type} (sets : Operation ρ → Option α) (otherwise : α) :
    latest sets otherwise [] = otherwise := rfl

/-- What a step sets is what counts until it is set again. -/
@[simp] theorem latest_cons {α : Type} (sets : Operation ρ → Option α) (otherwise : α)
    (operation : Operation ρ) (rest : List (Operation ρ)) :
    latest sets otherwise (operation :: rest) =
      latest sets ((sets operation).getD otherwise) rest := by
  unfold latest
  cases h : sets operation with
  | none => rw [List.filterMap_cons_none h, Option.getD_none]
  | some a =>
    rw [List.filterMap_cons_some h, List.getLast?_cons, Option.getD_some, Option.getD_some]

end Operation

/-- The surroundings after some steps. -/
def Surroundings.after (s : Surroundings) (operations : List (Operation ρ)) : Surroundings :=
  ⟨Operation.latest Operation.environment? s.environment operations,
    Operation.latest Operation.store? s.store operations⟩

namespace Session

/-- A session in which all that steps set has been set at once. -/
def after (s : Session) (operations : List (Operation ρ)) : Session :=
  ⟨s.transport.withProvider
      (Operation.latest Operation.provider? s.transport.provider operations),
    s.surroundings.after operations⟩

/-! ## Construction -/

/-- A transport has the configuration that it is built from, and no provider. -/
theorem eq_of_new {c : Config} {t : Transport} (h : Transport.new c = .ok t) :
    t.config = c ∧ t.provider = .none := by
  obtain ⟨_, -, h⟩ := Result.bind_eq_ok_iff.1 h
  obtain ⟨client, -, h⟩ := Result.bind_eq_ok_iff.1 h
  cases h
  exact ⟨rfl, rfl⟩

/-- Steps leave the transport as it was built but for the provider. -/
theorem after_of_new {c : Config} {t : Transport} (h : Transport.new c = .ok t)
    (start : Surroundings) (operations : List (Operation ρ)) :
    (Session.mk t start).after operations =
      ⟨t.withProvider (Operation.latest Operation.provider? .none operations),
        start.after operations⟩ := by
  rw [after, (eq_of_new h).2]

variable [Request ρ]

/-! ## One step -/

/-- **A step** changes what it sets and nothing else. -/
theorem step_snd (s : Session) (operation : Operation ρ) :
    (s.step operation).2 = s.after [operation] := by
  cases operation with
  | setEnvironment environment => rfl
  | setStore store => rfl
  | setProvider p store =>
    cases store with
    | none => rfl
    | some store => rfl
  | resolve r => rfl
  | prepare r requestId => rfl

/-- A question leaves the session as it is. -/
theorem step_question (s : Session) {operation : Operation ρ} (h : operation.IsQuestion) :
    (s.step operation).2 = s := by
  cases operation with
  | resolve r => rfl
  | prepare r requestId => rfl
  | setEnvironment environment => exact h.elim
  | setStore store => exact h.elim
  | setProvider p store => exact h.elim

/-! ## Many steps -/

theorem run_cons (s : Session) (operation : Operation ρ) (rest : List (Operation ρ)) :
    s.run (operation :: rest) =
      ((s.step operation).1 :: ((s.step operation).2.run rest).1,
        ((s.step operation).2.run rest).2) := rfl

/-- Steps behind others begin where these end. -/
theorem run_append (s : Session) (front rest : List (Operation ρ)) :
    s.run (front ++ rest) =
      ((s.run front).1 ++ ((s.run front).2.run rest).1, ((s.run front).2.run rest).2) := by
  induction front generalizing s with
  | nil => rfl
  | cons operation front ih => rw [List.cons_append, run_cons, ih, run_cons, List.cons_append]

/-- Each step has its answer. -/
theorem length_run_fst (s : Session) (operations : List (Operation ρ)) :
    (s.run operations).1.length = operations.length := by
  induction operations generalizing s with
  | nil => rfl
  | cons operation rest ih => rw [run_cons, List.length_cons, ih, List.length_cons]

/-- **The state after any steps**: what counts is what was set last. -/
theorem run_snd (s : Session) (operations : List (Operation ρ)) :
    (s.run operations).2 = s.after operations := by
  induction operations generalizing s with
  | nil => rfl
  | cons operation rest ih =>
    rw [run_cons, ih, step_snd]
    simp only [after, Surroundings.after, Transport.withProvider, Operation.latest_cons,
      Operation.latest_nil]

/-- The answer of a step is the one that it has in the state that the steps before it lead to. -/
theorem getElem?_run (s : Session) (front : List (Operation ρ)) (operation : Operation ρ)
    (rest : List (Operation ρ)) :
    (s.run (front ++ operation :: rest)).1[front.length]? =
      some ((s.after front).step operation).1 := by
  rw [run_append, run_cons, run_snd, ← length_run_fst s front,
    List.getElem?_append_right (Nat.le_refl _), Nat.sub_self, List.getElem?_cons_zero]

/-- A question can be left out: what is left are the other answers and the same state. -/
theorem run_without_question (s : Session) (front rest : List (Operation ρ))
    {question : Operation ρ} (h : question.IsQuestion) :
    (s.run (front ++ question :: rest)).2 = (s.run (front ++ rest)).2 ∧
      (s.run (front ++ question :: rest)).1.eraseIdx front.length = (s.run (front ++ rest)).1 := by
  rw [run_append, run_append, run_cons, step_question _ h]
  refine ⟨rfl, ?_⟩
  rw [← length_run_fst s front, List.eraseIdx_append_of_length_le (Nat.le_refl _), Nat.sub_self,
    List.eraseIdx_cons_zero]

/-! ## Answers -/

/-- **A transport that is built from a configuration** and used in any way keeps this configuration,
also if it has it from an environment that is replaced later.  Every question is answered as by a
transport that is built anew from the configuration, with the provider that was installed last, in
the environment and with the secret store as they are at that moment, and with the same reports;
plans have their own ids.  A question can be left out, and neither another answer nor the state at
the end changes. -/
theorem answers_as_if_fresh {c : Config} {built : Transport} (h : Transport.new c = .ok built)
    (start : Surroundings) (front rest : List (Operation ρ)) :
    ((Session.mk built start).run front).2.transport.config = c ∧
      (∀ env, Transport.ofEnvironment env = .ok built →
        ((Session.mk built start).run front).2.transport.config = Config.ofEnvironment env) ∧
      (∀ fresh provider, Transport.new c = .ok fresh →
        provider = Operation.latest Operation.provider? .none front →
          (∀ r : ρ, ((Session.mk built start).run (front ++ .resolve r :: rest)).1[front.length]? =
            some (.credential
              ((fresh.withProvider provider).findCredential r (start.after front)))) ∧
          ∀ (r : ρ) (id : String),
            ((Session.mk built start).run (front ++ .prepare r id :: rest)).1[front.length]? =
                some (.plan ((fresh.withProvider provider).makePlan r (start.after front) id)) ∧
              ∀ id', Http.isValue id = Http.isValue id' →
                Result.Agree (PlanAlike (Transport.SameButId id id'))
                    ((fresh.withProvider provider).prepare r (start.after front) id)
                    ((fresh.withProvider provider).prepare r (start.after front) id') ∧
                  ((fresh.withProvider provider).makePlan r (start.after front) id).events =
                    ((fresh.withProvider provider).makePlan r (start.after front) id').events) ∧
      ∀ question : Operation ρ, question.IsQuestion →
        ((Session.mk built start).run (front ++ question :: rest)).2 =
            ((Session.mk built start).run (front ++ rest)).2 ∧
          ((Session.mk built start).run (front ++ question :: rest)).1.eraseIdx front.length =
            ((Session.mk built start).run (front ++ rest)).1 := by
  have hconfig : ((Session.mk built start).run front).2.transport.config = built.config := by
    rw [run_snd]
    rfl
  refine ⟨hconfig.trans (eq_of_new h).1, ?_, ?_, ?_⟩
  · intro env henv
    exact hconfig.trans (eq_of_new henv).1
  · intro fresh provider hfresh hprovider
    obtain rfl : built = fresh := Except.ok.inj (h.symm.trans hfresh)
    subst hprovider
    refine ⟨?_, ?_⟩
    · intro r
      rw [getElem?_run, after_of_new h]
      rfl
    · intro r id
      refine ⟨?_, fun id' hid => ⟨Transport.prepare_alike _ r _ hid,
        Transport.events_makePlan_congr rfl rfl id id'⟩⟩
      rw [getElem?_run, after_of_new h]
      rfl
  · intro question hquestion
    exact run_without_question _ front rest hquestion

/-- An environment with a base URL and a credential. -/
def namedEnvironment (session : String) : Environment :=
  [("MAIL_API_BASE_URL", Text.Utf8.bytesOf ("http://127.0.0.1/" ++ session)),
    (Credential.sessionVariable, Text.Utf8.bytesOf session),
    (Credential.tokenVariable, Text.Utf8.bytesOf "token")]

/-- The steps of a session in which the environment and the store change behind a transport that was
asked before. -/
def busySteps : List (Operation Descriptor) :=
  [.setProvider (.store "s-3") none, .resolve (.new "/users"),
    .setEnvironment (namedEnvironment "s-2"), .setStore [("s-3", .missing)]]

/-- A transport from the environment of one credential finds the other one when it is asked behind
these steps, and still has the configuration of the first environment. -/
theorem answers_as_if_fresh_behind_busySteps :
    ∃ built, Transport.ofEnvironment (namedEnvironment "s-1") = .ok built ∧
      ((Session.mk built ⟨namedEnvironment "s-1", [("s-3", .token "t")]⟩).run
          busySteps).2.transport.config = Config.ofEnvironment (namedEnvironment "s-1") ∧
      ((Session.mk built ⟨namedEnvironment "s-1", [("s-3", .token "t")]⟩).run
          (busySteps ++ [.resolve (Descriptor.new "/users")])).1[busySteps.length]? =
        some (.credential ⟨.ok (some ⟨"s-2", "token"⟩),
          [.noEntry "s-3" "No matching entry found in secure storage"]⟩) := by
  obtain ⟨built, hbuilt⟩ :
      ∃ built, Transport.ofEnvironment (namedEnvironment "s-1") = .ok built :=
    Result.exists_of_isOk (by decide +kernel)
  obtain ⟨-, hconfig, hanswers, -⟩ := answers_as_if_fresh hbuilt
    ⟨namedEnvironment "s-1", [("s-3", .token "t")]⟩ busySteps []
  obtain ⟨hresolve, -⟩ := hanswers built (.store "s-3") hbuilt rfl
  refine ⟨built, hbuilt, hconfig _ hbuilt, ?_⟩
  rw [hresolve]
  have hlookup : CredentialProvider.lookup (.store "s-3")
      ⟨namedEnvironment "s-2", [("s-3", .missing)]⟩ =
        ⟨.ok (some ⟨"s-2", "token"⟩),
          [.noEntry "s-3" "No matching entry found in secure storage"]⟩ := by
    have hstore : SecretStore.token? [("s-3", .missing)] "s-3" = none := by decide
    have henvironment :
        Credential.ofEnvironment? (namedEnvironment "s-2") = some ⟨"s-2", "token"⟩ := by
      decide +kernel
    simp only [CredentialProvider.lookup, hstore, henvironment]
    rfl
  rw [Transport.findCredential_of_asks ⟨rfl, rfl⟩]
  show some (StepResult.credential (CredentialProvider.lookup (.store "s-3") _ >>= _)) = _
  rw [show (Surroundings.after ⟨namedEnvironment "s-1", [("s-3", .token "t")]⟩ busySteps) =
    ⟨namedEnvironment "s-2", [("s-3", .missing)]⟩ from rfl, hlookup]
  rfl

end Session

end Courier
