import Courier.Proofs.Bodies
import Courier.Proofs.JsonTexts
import Courier.Proofs.Options

/-!
# Parameters in the body

A parameter on the command line is a key, an equals sign and the text of its value.  The text is cut
at the first equals sign, read as JSON if it is a document, put into a table and written again, and
nothing of it is lost on the way.

* `StandsFor` — which value the text of a parameter stands for.
* `entries_of_reads` — what is read of the options are the parameters that were written.
* `parameters_reach_body` — **the body that is sent** has the last value of each key and no others.
-/

namespace Courier.CommandLine

open Result (map_eq_ok_iff)
open Json (Value)

/-! ## The text of a parameter -/

/-- Which value a text stands for.  A value is written without blanks; it is kept if its numbers are
integers that fit 64 bits, each of its objects is a table, and it nests less than 128 deep.  A text
that is no document stands for itself. -/
inductive StandsFor : String → Value → Prop where
  | document {v : Value} (hkept : v.Throughout Value.IsKept) (hnesting : v.nesting < 128) :
    StandsFor v.compactText v
  | text {raw : String} (h : ∀ v, Json.parse raw ≠ .ok v) : StandsFor raw (.string raw)

/-- **The value of a text** is the one it stands for. -/
theorem StandsFor.paramValue_eq {raw : String} {v : Value} (h : StandsFor raw v) :
    paramValue raw = v := by
  unfold paramValue
  cases h with
  | document hkept hnesting =>
    rw [Json.parse_compactText hkept hnesting]
  | text hnone =>
    split
    · rename_i v hv
      exact absurd hv (hnone v)
    · rfl

/-- A text that gives a key its value. -/
def IsParameter (text : String) (e : String × Value) : Prop :=
  ∃ raw, e.1 ≠ "" ∧ '=' ∉ e.1.toList ∧ text = e.1 ++ "=" ++ raw ∧ StandsFor raw e.2

/-- **A parameter is read** as its key and its value, wherever else an equals sign stands. -/
theorem IsParameter.readGroup_eq {text : String} {e : String × Value} (h : IsParameter text e) :
    readGroup .param text = .ok (.param e.1 e.2) := by
  obtain ⟨raw, hkey, hsign, rfl, hraw⟩ := h
  have hpair : readPair (e.1 ++ "=" ++ raw) = .ok (e.1, raw) := by
    refine readPair_eq_ok_iff.2 ⟨fun hnil => hkey (String.toList_eq_nil_iff.1 hnil), hsign, ?_⟩
    simp
  rw [readGroup, hpair]
  show Except.ok (Group.param e.1 (paramValue raw)) = _
  rw [hraw.paramValue_eq]

/-! ## The parameters among the options -/

/-- The text of a parameter as it is written. -/
def WrittenGroup.paramText? : WrittenGroup → Option String
  | .valued .param text => some text
  | _ => none

/-- The key and the value of a parameter. -/
def Group.entry? : Group → Option (String × Value)
  | .param key value => some (key, value)
  | _ => none

/-- What is read of an option gives a parameter only if a parameter was written. -/
theorem entry?_of_read {w : WrittenGroup} {g : Group} (h : w.read = .ok g)
    (htext : w.paramText? = none) : g.entry? = none := by
  cases w with
  | valued flag value =>
    cases flag with
    | param => cases htext
    | header =>
      obtain ⟨p, -, rfl⟩ := map_eq_ok_iff.1 h
      rfl
    | apiVersion =>
      simp only [WrittenGroup.read, readGroup] at h
      split at h
      · cases h
        rfl
      · cases h
    | config =>
      cases h
      rfl
  | noAuth =>
    cases h
    rfl
  | noRetry =>
    cases h
    rfl

/-- **What is read** of the options are the parameters that were written, in their order. -/
theorem entries_of_reads {ws : List WrittenGroup} {groups : List Group} (h : Reads ws groups)
    {entries : List (String × Value)}
    (hentries : List.Forall₂ IsParameter (ws.filterMap WrittenGroup.paramText?) entries) :
    groups.filterMap Group.entry? = entries := by
  induction h generalizing entries with
  | nil =>
    cases hentries
    rfl
  | @cons w g ws groups hread _ ih =>
    cases htext : w.paramText? with
    | none =>
      rw [List.filterMap_cons_none htext] at hentries
      rw [List.filterMap_cons_none (entry?_of_read hread htext), ih hentries]
    | some text =>
      rw [List.filterMap_cons_some htext] at hentries
      cases hentries with
      | cons hfirst hrest =>
        obtain rfl : w = .valued .param text := by
          unfold WrittenGroup.paramText? at htext
          split at htext <;> cases htext
          rfl
        rw [WrittenGroup.read, hfirst.readGroup_eq] at hread
        cases hread
        rw [← ih hrest]
        rfl

/-! ## The body of parameters -/

/-- The last value of a key. -/
def lastValue? (key : String) (entries : List (String × Value)) : Option Value :=
  (entries.filterMap fun e => if key = e.1 then some e.2 else none).getLast?

theorem last?_param? (key : String) (groups : List Group) :
    last? (Group.param? key) groups = lastValue? key (groups.filterMap Group.entry?) := by
  rw [last?, lastValue?, List.filterMap_filterMap]
  refine congrArg (fun gives => (List.filterMap gives groups).getLast?) (funext fun g => ?_)
  cases g <;> rfl

/-- The bytes of a body that has the last value of each key and no other member; without parameters
there are none. -/
def IsBody (entries : List (String × Value)) (bytes : List UInt8) : Prop :=
  (entries = [] → bytes = []) ∧ (entries ≠ [] → ∃ members : Table Value,
    (∀ key, members.find? key = lastValue? key entries) ∧
    bytes = Text.Utf8.encode (Value.object members.entries).compact)

/-- **The body of a request** is that of its parameters. -/
theorem isBody_placement {method : Http.Method} (hmethod : method.hasBody = true) (path : String)
    (groups : List Group) :
    IsBody (groups.filterMap Group.entry?)
      ((Client.bodyBytes (Plan.placement method
        (descriptorOf method path groups).parameters).2).getD []) := by
  have hdescribes := describes_descriptorOf method path groups
  have hnil : groups.filterMap Group.entry? = [] ↔
      (descriptorOf method path groups).parameters = none := by
    rw [hdescribes.no_parameters, List.filterMap_eq_nil_iff]
    constructor
    · rintro hnone key g hg hslot
      have := hnone g hg
      cases g with
      | param _ _ => cases this
      | _ => cases hslot
    · rintro hslots g hg
      cases g with
      | param key value => exact absurd rfl (hslots key _ hg)
      | _ => rfl
  cases hps : (descriptorOf method path groups).parameters with
  | none => exact ⟨fun _ => rfl, fun hsome => absurd (hnil.2 hps) hsome⟩
  | some ps =>
    refine ⟨fun hnone => ?_, fun _ => ⟨ps, fun key => ?_, ?_⟩⟩
    · rw [hnil.1 hnone] at hps
      cases hps
    · rw [hdescribes.parameters ps hps, last?_param?]
    · rw [Plan.placement, if_pos hmethod]
      rfl

theorem exists_isBody (entries : List (String × Value)) : ∃ bytes, IsBody entries bytes := by
  have hentries : (entries.map fun e => Group.param e.1 e.2).filterMap Group.entry? = entries := by
    rw [List.filterMap_map]
    exact List.filterMap_some
  exact ⟨_, hentries ▸ isBody_placement (show Http.Method.post.hasBody = true from rfl) "" _⟩

/-! ## Requests -/

/-- A plan has verb and body from its request. -/
theorem body_of_prepare {t : Transport} {d : Descriptor} {s : Surroundings} {requestId : String}
    {p : Plan} (h : t.prepare d s requestId = .ok p) :
    p.method = d.method ∧ p.body = (Plan.placement d.method d.parameters).2 := by
  cases Transport.prepare_eq_iff.1 h with
  | planned hpath hresolves hmerge => exact ⟨rfl, rfl⟩

/-- What is sent for a request of accepted options, and that an answer comes from its verb. -/
theorem sends_dispatch {method : Http.Method} (hmethod : method.hasBody = true) (path : String)
    (groups : List Group) (t : Transport) (s : Surroundings) (requestId : String) (n : Network) :
    ∃ body, IsBody (groups.filterMap Group.entry?) body ∧
      n.Sends method body
        (∃ r, (t.dispatch (descriptorOf method path groups) s requestId n).result = .ok r)
        (t.dispatch (descriptorOf method path groups) s requestId n).rest := by
  have hverb : (descriptorOf method path groups).method = method :=
    (describes_descriptorOf method path groups).method
  refine ⟨_, isBody_placement hmethod path groups, ?_⟩
  cases hprepare : t.prepare (descriptorOf method path groups) s requestId with
  | error e =>
    rw [Transport.dispatch_of_prepare_error hprepare]
    refine .nothing ?_ n
    rintro ⟨r, hr⟩
    cases hr
  | ok p =>
    obtain ⟨hmethod', hbody⟩ := body_of_prepare hprepare
    rw [hverb] at hmethod' hbody
    rw [← hbody]
    have hsends := Transport.dispatch_messages hprepare (hmethod' ▸ hmethod) n
    rwa [hmethod'] at hsends

/-- **Parameters reach the body unchanged.**  Let a request be made under a verb with a body, and
let the texts of its parameters, in their order and whatever other options stand between them, give
keys their values.  Then every message that is sent under the verb has as its body the compact text
of the object that has the last value of each key and no other member, or no body if there are no
parameters; what is sent under other verbs has no body; and if the program succeeds, a message under
the verb has been received. -/
theorem parameters_reach_body (s : Scene) {method : Http.Method} (hmethod : method.hasBody = true)
    (path : String) {ws : List WrittenGroup} {entries : List (String × Value)}
    (hentries : List.Forall₂ IsParameter (ws.filterMap WrittenGroup.paramText?) entries) :
    ∃ body ms, IsBody entries body ∧
      (run s ("request" :: method.token :: path :: ws.flatMap WrittenGroup.arguments)).network =
        s.network.offerAll ms ∧
      (∀ m ∈ ms, m.body = if m.verb = method.token then body else []) ∧
      ((run s ("request" :: method.token :: path ::
          ws.flatMap WrittenGroup.arguments)).exitCode = 0 →
        ∃ m ∈ s.network.taken ms, m.verb = method.token) := by
  have hfailed : (1 : UInt32) ≠ 0 := UInt32.zero_ne_one.symm
  cases hgroups : readGroups (ws.flatMap WrittenGroup.arguments) with
  | error misuse =>
    have hrun : run s ("request" :: method.token :: path :: ws.flatMap WrittenGroup.arguments) =
        (Failure.misuse misuse).outcome s.network := by
      show runRequest s (method.token :: path :: _) = _
      simp only [runRequest, readRequest, Http.Method.ofToken?_token, hgroups]
    obtain ⟨body, hbody⟩ := exists_isBody entries
    rw [hrun]
    exact ⟨body, [], hbody, rfl, List.forall_mem_nil _, fun h => absurd h hfailed⟩
  | ok groups =>
    have hread := readRequest_of_readGroups hgroups method path
    obtain rfl := entries_of_reads (readGroups_flatMap_eq_ok_iff.1 hgroups) hentries
    show ∃ body ms, _ ∧ (runRequest s (method.token :: path ::
        ws.flatMap WrittenGroup.arguments)).network = _ ∧ _ ∧
      ((runRequest s (method.token :: path :: ws.flatMap WrittenGroup.arguments)).exitCode = 0 → _)
    unfold runRequest
    simp only [hread, List.drop_succ_cons, List.drop_zero]
    cases openTransport s (ws.flatMap WrittenGroup.arguments) with
    | error f =>
      obtain ⟨body, hbody⟩ := exists_isBody (groups.filterMap Group.entry?)
      exact ⟨body, [], hbody, rfl, List.forall_mem_nil _, fun h => absurd h hfailed⟩
    | ok t =>
      obtain ⟨body, hbody, ms, hrest, hms, hanswered⟩ := sends_dispatch hmethod path groups t
        ⟨s.environment, []⟩ s.requestId s.network
      simp only
      cases hresult : (t.dispatch (descriptorOf method path groups) ⟨s.environment, []⟩
          s.requestId s.network).result with
      | error e => exact ⟨body, ms, hbody, hrest, hms, fun h => absurd h hfailed⟩
      | ok r => exact ⟨body, ms, hbody, hrest, hms, fun _ => hanswered ⟨r, hresult⟩⟩

/-- Parameters with signs in their values, and one that is given twice. -/
def signedGroups : List WrittenGroup :=
  [.valued .param "filter=[1]", .valued .config "--config", .valued .param "note==x", .noAuth,
    .valued .param "filter=\x7b\"a=\":[-1,18446744073709551615],\"b\":\"=\\n\"\x7d"]

/-- What they say. -/
def signedEntries : List (String × Value) :=
  [("filter", .array [.number (.integer 1)]), ("note", .string "=x"),
    ("filter", .object [("a=", .array [.number (.integer (-1)),
      .number (.integer 18446744073709551615)]), ("b", .string "=\n")])]

/-- The body that has the last of them. -/
def signedText : String :=
  "\x7b\"filter\":\x7b\"a=\":[-1,18446744073709551615],\"b\":\"=\\n\"\x7d," ++
    "\"note\":\"=x\"\x7d"

/-- A scene with a server on the same machine that answers. -/
def answeringScene : Scene :=
  { localScene with
    network := ⟨some (.address4 0x7F000001, 18080), [], [.reply 200 [] [] 0], [], []⟩ }

/-- The arguments of a request with these parameters. -/
def signedArguments : List String :=
  "request" :: Http.Method.post.token :: "/users" ::
    signedGroups.flatMap WrittenGroup.arguments

/-- The parameters arrive, the one that is given twice with its second value. -/
theorem parameters_reach_body_of_signedGroups :
    List.Forall₂ IsParameter (signedGroups.filterMap WrittenGroup.paramText?) signedEntries ∧
      (run answeringScene signedArguments).exitCode = 0 ∧
      ∃ m ∈ (run answeringScene signedArguments).network.received,
        m.verb = "POST" ∧ IsBody signedEntries m.body ∧
          Text.Utf8.string? m.body = some signedText := by
  have hfirst : IsParameter "filter=[1]" ("filter", .array [.number (.integer 1)]) := by
    refine ⟨_, by decide, by decide, by decide +kernel, .document ?_ (by decide)⟩
    simp [Value.Throughout, Value.ThroughoutItems, Value.IsKept, Json.FitsWord]
  have hnote : IsParameter "note==x" ("note", .string "=x") := by
    have hnone : (Json.parse "=x").isOk = false := by decide +kernel
    refine ⟨"=x", by decide, by decide, by decide +kernel, .text fun v hv => ?_⟩
    rw [hv] at hnone
    cases hnone
  have hlast : IsParameter
      "filter=\x7b\"a=\":[-1,18446744073709551615],\"b\":\"=\\n\"\x7d"
      ("filter", .object [("a=", .array [.number (.integer (-1)),
        .number (.integer 18446744073709551615)]), ("b", .string "=\n")]) := by
    have hsorted : Entries.Increasing [("a=", Value.array [.number (.integer (-1)),
        .number (.integer 18446744073709551615)]), ("b", .string "=\n")] :=
      List.pairwise_pair.2 (show "a=" < "b" by decide)
    refine ⟨_, by decide, by decide, by decide +kernel, .document ⟨hsorted, ?_⟩ (by decide)⟩
    simp [Value.Throughout, Value.ThroughoutItems, Value.ThroughoutMembers, Value.IsKept,
      Json.FitsWord]
  have hentries : List.Forall₂ IsParameter (signedGroups.filterMap WrittenGroup.paramText?)
      signedEntries := .cons hfirst (.cons hnote (.cons hlast .nil))
  have hexit : (run answeringScene signedArguments).exitCode = 0 := by decide +kernel
  have hbodies : ∀ m ∈ (run answeringScene signedArguments).network.received,
      Text.Utf8.string? m.body = some signedText := by
    decide +kernel
  obtain ⟨body, ms, hbody, hnetwork, hms, hanswered⟩ :=
    parameters_reach_body answeringScene (show Http.Method.post.hasBody = true from rfl) "/users"
      hentries
  obtain ⟨m, hm, hverb⟩ := hanswered hexit
  have hnetwork : (run answeringScene signedArguments).network =
      answeringScene.network.offerAll ms := hnetwork
  have hreceived : m ∈ (run answeringScene signedArguments).network.received := by
    rw [hnetwork, Network.received_offerAll]
    exact List.mem_append_right _ hm
  refine ⟨hentries, hexit, m, hreceived, hverb, ?_, hbodies m hreceived⟩
  rw [hms m (Network.mem_of_mem_taken hm), if_pos hverb]
  exact hbody

end Courier.CommandLine
