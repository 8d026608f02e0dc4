import Courier.Network
import Mathlib.Data.List.Forall2

/-!
# What is sent over a network

A client changes a network only by sending messages to its server.  Which of them the server
receives is fixed by its script, and two networks whose servers have the same script receive the
same of the same messages.

* `Network.offerAll` — what a network is after some messages.
* `Network.taken` — which of them the server receives.
* `Network.exchange_cases` — a message is sent to the server, or there is no connection.
* `Network.SameServer` — two networks whose servers do the same from now on.
-/

namespace Courier.Network

/-! ## Networks after some messages -/

/-- The answers that are left of a script after so many messages. -/
def remaining (answers : List Answer) : Nat → List Answer
  | 0 => answers
  | i + 1 => remaining (laterAnswers answers) i

/-- The network after these messages were sent to its server. -/
def offerAll (n : Network) (ms : List Http.Message) : Network := ms.foldl offer n

/-- What a server receives of messages, by its answers. -/
def takenBy : List Answer → List Http.Message → List Http.Message
  | _, [] => []
  | answers, m :: ms =>
    (answers.head?.getD plainAnswer).kept m ++ takenBy (laterAnswers answers) ms

/-- What the server of a network receives of the messages to come. -/
def taken (n : Network) (ms : List Http.Message) : List Http.Message := takenBy n.answers ms

@[simp] theorem offerAll_nil (n : Network) : n.offerAll [] = n := rfl

@[simp] theorem taken_nil (n : Network) : n.taken [] = [] := rfl

theorem offerAll_cons (n : Network) (m : Http.Message) (ms : List Http.Message) :
    n.offerAll (m :: ms) = (n.offer m).offerAll ms := rfl

theorem taken_cons (n : Network) (m : Http.Message) (ms : List Http.Message) :
    n.taken (m :: ms) = n.nextAnswer.kept m ++ (n.offer m).taken ms := rfl

theorem offerAll_singleton (n : Network) (m : Http.Message) : n.offerAll [m] = n.offer m := rfl

theorem taken_singleton (n : Network) (m : Http.Message) : n.taken [m] = n.nextAnswer.kept m :=
  List.append_nil _

theorem offerAll_append (n : Network) (ms more : List Http.Message) :
    n.offerAll (ms ++ more) = (n.offerAll ms).offerAll more := List.foldl_append ..

theorem taken_append (n : Network) (ms more : List Http.Message) :
    n.taken (ms ++ more) = n.taken ms ++ (n.offerAll ms).taken more := by
  induction ms generalizing n with
  | nil => rfl
  | cons m ms ih =>
    rw [List.cons_append, taken_cons, ih, taken_cons, List.append_assoc, offerAll_cons]

/-- The server stays, its script advances by one answer a message, and the messages are kept. -/
theorem offerAll_eq (n : Network) (ms : List Http.Message) :
    n.offerAll ms = ⟨n.listener, n.secured, remaining n.answers ms.length, n.offered ++ ms,
      n.received ++ n.taken ms⟩ := by
  induction ms generalizing n with
  | nil => simp [remaining]
  | cons m ms ih =>
    rw [offerAll_cons, ih, taken_cons]
    simp [offer, remaining]

theorem received_offerAll (n : Network) (ms : List Http.Message) :
    (n.offerAll ms).received = n.received ++ n.taken ms := by
  rw [offerAll_eq]

theorem offered_offerAll (n : Network) (ms : List Http.Message) :
    (n.offerAll ms).offered = n.offered ++ ms := by
  rw [offerAll_eq]

/-- Different messages leave different networks. -/
theorem eq_of_offerAll_eq {n : Network} {ms ms' : List Http.Message}
    (h : n.offerAll ms = n.offerAll ms') : ms = ms' := by
  have hoffered := congrArg offered h
  rw [offered_offerAll, offered_offerAll] at hoffered
  exact List.append_cancel_left hoffered

/-- A message that is sent leaves a trace. -/
theorem offer_ne (n : Network) (m : Http.Message) : n.offer m ≠ n := by
  intro h
  have hms : [m] = [] := @eq_of_offerAll_eq n [m] [] h
  cases hms

/-- Answers that are left were there before. -/
theorem mem_of_mem_remaining {answers : List Answer} {k : Nat} {a : Answer}
    (h : a ∈ remaining answers k) : a ∈ answers := by
  induction k generalizing answers with
  | zero => exact h
  | succ k ih =>
    have hlater : a ∈ laterAnswers answers := ih h
    rw [laterAnswers.eq_def] at hlater
    split at hlater
    · exact List.mem_cons_of_mem _ hlater
    · exact hlater

/-- What holds of every answer of a script holds of the next one, if it holds of a plain one. -/
theorem nextAnswer_of_forall {n : Network} {P : Answer → Prop} (hplain : P plainAnswer)
    (h : ∀ a ∈ n.answers, P a) : P n.nextAnswer := by
  rw [nextAnswer]
  cases hanswers : n.answers with
  | nil => exact hplain
  | cons a rest => exact h a (by rw [hanswers]; exact List.mem_cons_self)

/-! ## What is received -/

theorem kept_of_takes {a : Answer} (h : a.takes = true) (m : Http.Message) : a.kept m = [m] :=
  if_pos h

/-- What is received was sent. -/
theorem mem_of_mem_taken {n : Network} {ms : List Http.Message} {m : Http.Message}
    (h : m ∈ n.taken ms) : m ∈ ms := by
  induction ms generalizing n with
  | nil => exact h
  | cons first ms ih =>
    rw [taken_cons, List.mem_append] at h
    rcases h with h | h
    · rw [Answer.kept] at h
      split at h
      · rw [List.mem_singleton.1 h]
        exact List.mem_cons_self
      · cases h
    · exact List.mem_cons_of_mem _ (ih h)

/-- A server that takes every message receives what is sent. -/
theorem taken_eq_self {n : Network} (h : ∀ a ∈ n.answers, a.takes = true)
    (ms : List Http.Message) : n.taken ms = ms := by
  induction ms generalizing n with
  | nil => rfl
  | cons m ms ih =>
    have htakes : n.nextAnswer.takes = true :=
      nextAnswer_of_forall (P := fun a => a.takes = true) rfl h
    have hlater : ∀ a ∈ (n.offer m).answers, a.takes = true := fun a ha =>
      h a (mem_of_mem_remaining (k := 1) ha)
    rw [taken_cons, kept_of_takes htakes, ih hlater, List.singleton_append]

/-! ## One message -/

/-- A message is sent to the server, or there is no connection. -/
theorem exchange_cases (n : Network) (encrypted : Bool) (host : Url.Host) (port : Nat)
    (m : Http.Message) :
    n.exchange encrypted host port m = n.serve m ∨
      n.exchange encrypted host port m = (.error .connect, n) := by
  rw [exchange]
  split
  · exact Or.inl rfl
  · exact Or.inr rfl

/-- The status of a reply is the one that the server gave. -/
theorem status_of_readReply {status missing : Nat} {fields : List Http.RawField}
    {body : List UInt8} {reply : Http.Reply}
    (h : readReply status fields body missing = .ok reply) : reply.status = status := by
  unfold readReply at h
  split at h
  · cases h
  · split at h
    · cases h
    · cases h
      rfl

/-- Only a reply that the server gave is read. -/
theorem eq_reply_of_outcome {a : Answer} {reply : Http.Reply} (h : a.outcome = .ok reply) :
    ∃ status fields body missing, a = .reply status fields body missing ∧
      readReply status fields body missing = .ok reply := by
  cases a with
  | reply status fields body missing => exact ⟨status, fields, body, missing, rfl, h⟩
  | close => cases h
  | silence taken => cases h
  | refuse => cases h

/-! ## Servers that do the same -/

/-- Two networks whose servers do the same from now on. -/
structure SameServer (n n' : Network) : Prop where
  listener : n.listener = n'.listener
  secured : n.secured = n'.secured
  answers : n.answers = n'.answers

namespace SameServer

variable {n n' : Network}

theorem refl (n : Network) : SameServer n n := ⟨rfl, rfl, rfl⟩

theorem nextAnswer_eq (h : SameServer n n') : n.nextAnswer = n'.nextAnswer := by
  rw [nextAnswer, nextAnswer, h.answers]

theorem connects_iff (h : SameServer n n') (encrypted : Bool) (host : Url.Host) (port : Nat) :
    n.Connects encrypted host port ↔ n'.Connects encrypted host port := by
  rw [Connects, Connects, h.listener, h.secured]

theorem offerAll (h : SameServer n n') {ms ms' : List Http.Message}
    (hlen : ms.length = ms'.length) : SameServer (n.offerAll ms) (n'.offerAll ms') := by
  rw [offerAll_eq, offerAll_eq]
  exact ⟨h.listener, h.secured, by rw [h.answers, hlen]⟩

/-- Such servers receive the same of messages that correspond to each other. -/
theorem taken (h : SameServer n n') {R : Http.Message → Http.Message → Prop}
    {ms ms' : List Http.Message} (hms : List.Forall₂ R ms ms') :
    List.Forall₂ R (n.taken ms) (n'.taken ms') := by
  induction hms generalizing n n' with
  | nil => exact .nil
  | @cons m m' ms ms' hm hms ih =>
    rw [taken_cons, taken_cons, Answer.kept, Answer.kept, h.nextAnswer_eq]
    have hlater := ih (@offerAll n n' h [m] [m'] rfl)
    split
    · exact .cons hm hlater
    · exact hlater

end SameServer

end Courier.Network
