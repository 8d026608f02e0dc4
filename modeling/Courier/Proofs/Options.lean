import Courier.CommandLine.Command
import Courier.Proofs.Building
import Courier.Proofs.Groups

/-!
# Options in any order

Accepted options describe one request.  Of the groups of one slot the last one counts, or the first
one for the configuration file, and groups of different slots do not know of one another.  So
options may stand in any order as long as those of one slot follow one another as before.

* `Describes` — what a descriptor has from option groups, in full.
* `describes_iff` — **one descriptor** is described, and it is the one that is dispatched.
* `sameOutcome_run` — options that say the same lead to the same outcome.
* `options_in_any_order` — **other orders change nothing**.
-/

namespace Courier.CommandLine

open Result (ok_bind)

/-! ## What groups say -/

/-- The value that a group gives a parameter. -/
def Group.param? (key : String) : Group → Option Json.Value
  | .param other value => if key = other then some value else none
  | _ => none

/-- The value that a group gives a header. -/
def Group.header? (key : String) : Group → Option String
  | .header other value => if key = other then some value else none
  | _ => none

/-- The version that a group gives. -/
def Group.version? : Group → Option UInt32
  | .apiVersion version => some version
  | _ => none

theorem Group.param?_eq_none_iff {key : String} {g : Group} :
    g.param? key = none ↔ g.slot ≠ .param key := by
  cases g with
  | param name value => simp [Group.param?, Group.slot, eq_comm]
  | _ => simp [Group.param?, Group.slot]

theorem Group.header?_eq_none_iff {key : String} {g : Group} :
    g.header? key = none ↔ g.slot ≠ .header key := by
  cases g with
  | header name value => simp [Group.header?, Group.slot, eq_comm]
  | _ => simp [Group.header?, Group.slot]

theorem Group.version?_eq_none_iff {g : Group} : g.version? = none ↔ g.slot ≠ .apiVersion := by
  cases g <;> simp [Group.version?, Group.slot]

/-- What is said last. -/
def last? {α : Type} (gives : Group → Option α) (groups : List Group) : Option α :=
  (groups.filterMap gives).getLast?

section
variable {σ α : Type} {step : σ → Group → σ} {gives : Group → Option α} {groups : List Group}

/-- Where each group replaces a value or leaves it, the value is what is said last. -/
theorem project_foldl (project : σ → Option α)
    (hstep : ∀ s g, project (step s g) = (gives g).or (project s)) (groups : List Group) (s : σ) :
    project (groups.foldl step s) = (last? gives groups).or (project s) :=
  foldl_last project hstep groups s

/-- Where each group of a slot clears a flag, the flag stands if there is no such group. -/
theorem flag_foldl (flag : σ → Bool) {slot : Slot}
    (hstep : ∀ s g, flag (step s g) = if g.slot = slot then false else flag s)
    (groups : List Group) (s : σ) :
    flag (groups.foldl step s) = true ↔ flag s = true ∧ ∀ g ∈ groups, g.slot ≠ slot := by
  induction groups generalizing s with
  | nil => simp
  | cons g rest ih =>
    rw [List.foldl_cons, ih, hstep, List.forall_mem_cons]
    by_cases hg : g.slot = slot
    · simp [hg]
    · simp [hg]

theorem last?_eq_none_iff : last? gives groups = none ↔ ∀ g ∈ groups, gives g = none := by
  rw [last?, List.getLast?_eq_none_iff, List.filterMap_eq_nil_iff]

/-- What is said about a slot is said by its groups. -/
theorem filterMap_filter_slot {slot : Slot} (hgives : ∀ g, g.slot ≠ slot → gives g = none)
    (groups : List Group) :
    (groups.filter (·.slot = slot)).filterMap gives = groups.filterMap gives := by
  rw [List.filterMap_filter]
  apply List.filterMap_congr
  intro g _
  by_cases hg : g.slot = slot
  · simp [hg]
  · simp [hg, hgives g hg]

end

/-! ## What a request has from its groups -/

/-- Parameters with the one that a group gives. -/
def addParam (params : Parameters) : Group → Parameters
  | .param key value => params.insert key value
  | _ => params

theorem paramsOf_eq (groups : List Group) : paramsOf groups = groups.foldl addParam ∅ := rfl

/-- A parameter has its last value. -/
theorem find?_paramsOf (key : String) (groups : List Group) :
    (paramsOf groups).find? key = last? (Group.param? key) groups := by
  have hstep : ∀ params g,
      (addParam params g).find? key = (Group.param? key g).or (params.find? key) := by
    intro params g
    cases g with
    | param name value =>
      rw [addParam, Table.find?_insert, Group.param?]
      split <;> rfl
    | _ => rfl
  rw [paramsOf_eq, project_foldl (fun params : Parameters => params.find? key) hstep,
    Table.find?_empty, Option.or_none]

/-- Only parameters give parameters. -/
theorem paramsOf_eq_empty_iff {groups : List Group} :
    paramsOf groups = ∅ ↔ ∀ key, ∀ g ∈ groups, g.slot ≠ .param key := by
  have hlast : ∀ key, (paramsOf groups).find? key = none ↔ ∀ g ∈ groups, g.slot ≠ .param key := by
    intro key
    rw [find?_paramsOf, last?_eq_none_iff]
    exact forall₂_congr fun g _ => Group.param?_eq_none_iff
  constructor
  · intro hempty key
    rw [← hlast, hempty]
    rfl
  · intro hnone
    refine Table.ext_find? fun key => ?_
    exact (hlast key).2 (hnone key)

/-- What a descriptor has from option groups: the last value of each parameter and header and the
last version, and no flag that a group clears. -/
structure Describes (method : Http.Method) (path : String) (groups : List Group) (d : Descriptor) :
    Prop where
  path : d.path = path
  method : d.method = method
  version : d.version = (last? Group.version? groups).getD 3
  header : ∀ key, d.header.find? key = (last? (Group.header? key) groups).map .string
  no_parameters : d.parameters = none ↔ ∀ key, ∀ g ∈ groups, g.slot ≠ .param key
  parameters : ∀ ps, d.parameters = some ps →
    ∀ key, ps.find? key = last? (Group.param? key) groups
  isAuthenticated : d.isAuthenticated = true ↔ ∀ g ∈ groups, g.slot ≠ .noAuth
  autoRetry : d.autoRetry = true ↔ ∀ g ∈ groups, g.slot ≠ .noRetry
  credential : d.credential = none

/-- Groups change neither what is asked for nor the credential; parameters come last. -/
theorem foldl_applyGroup_keeps (groups : List Group) (d : Descriptor) :
    (groups.foldl applyGroup d).path = d.path ∧ (groups.foldl applyGroup d).method = d.method ∧
      (groups.foldl applyGroup d).parameters = d.parameters ∧
      (groups.foldl applyGroup d).credential = d.credential := by
  induction groups generalizing d with
  | nil => exact ⟨rfl, rfl, rfl, rfl⟩
  | cons g rest ih =>
    have hrest := ih (applyGroup d g)
    cases g <;> exact hrest

/-- The descriptor of groups, with its parameters in place. -/
theorem descriptorOf_eq (method : Http.Method) (path : String) (groups : List Group) :
    descriptorOf method path groups =
      { groups.foldl applyGroup ((Descriptor.new path).withMethod method) with
        parameters := if (paramsOf groups).isEmpty then none else some (paramsOf groups) } := by
  obtain ⟨-, -, hnone, -⟩ :=
    foldl_applyGroup_keeps groups ((Descriptor.new path).withMethod method)
  unfold descriptorOf
  simp only
  split
  · rw [← show _ = none from hnone]
  · rfl

/-- A header has its last value. -/
theorem find?_header_foldl (key : String) (groups : List Group) (d : Descriptor) :
    (groups.foldl applyGroup d).header.find? key =
      ((last? (Group.header? key) groups).map Json.Value.string).or (d.header.find? key) := by
  have hstep : ∀ d g, (applyGroup d g).header.find? key =
      ((Group.header? key g).map Json.Value.string).or (d.header.find? key) := by
    intro d g
    cases g with
    | header name value =>
      rw [applyGroup, Descriptor.withHeader, Table.find?_insert, Group.header?]
      split <;> rfl
    | _ => rfl
  rw [project_foldl (fun d : Descriptor => d.header.find? key) hstep, last?, last?]
  rw [← List.map_filterMap, List.getLast?_map]

theorem version_foldl (groups : List Group) (d : Descriptor) :
    (groups.foldl applyGroup d).version = (last? Group.version? groups).getD d.version := by
  have hstep : ∀ d g, some (applyGroup d g).version =
      (Group.version? g).or (some d.version) := by
    intro d g
    cases g <;> rfl
  have hlast := project_foldl (fun d : Descriptor => some d.version) hstep groups d
  rw [Option.or_some] at hlast
  exact Option.some.inj hlast

/-- The descriptor of groups has what they say. -/
theorem describes_descriptorOf (method : Http.Method) (path : String) (groups : List Group) :
    Describes method path groups (descriptorOf method path groups) := by
  rw [descriptorOf_eq]
  obtain ⟨hpath, hmethod, -, hcredential⟩ :=
    foldl_applyGroup_keeps groups ((Descriptor.new path).withMethod method)
  refine ⟨hpath, hmethod, version_foldl groups _, ?_, ?_, ?_, ?_, ?_, hcredential⟩
  · intro key
    exact (find?_header_foldl key groups _).trans Option.or_none
  · rw [← paramsOf_eq_empty_iff]
    simp
  · intro ps hps
    obtain ⟨-, rfl⟩ : paramsOf groups ≠ ∅ ∧ paramsOf groups = ps := by
      simpa [ite_eq_iff] using hps
    exact fun key => find?_paramsOf key groups
  · refine (flag_foldl Descriptor.isAuthenticated ?_ groups _).trans (and_iff_right rfl)
    intro d g
    cases g <;> rfl
  · refine (flag_foldl Descriptor.autoRetry ?_ groups _).trans (and_iff_right rfl)
    intro d g
    cases g <;> rfl

/-- Groups describe one descriptor only. -/
theorem Describes.unique {method : Http.Method} {path : String} {groups : List Group}
    {d d' : Descriptor} (h : Describes method path groups d)
    (h' : Describes method path groups d') : d = d' := by
  have hversion := h.version.trans h'.version.symm
  have hheader : d.header = d'.header :=
    Table.ext_find? fun key => (h.header key).trans (h'.header key).symm
  have hparameters : d.parameters = d'.parameters := by
    cases hps : d.parameters with
    | none => exact (h'.no_parameters.2 (h.no_parameters.1 hps)).symm
    | some ps =>
      cases hps' : d'.parameters with
      | none =>
        rw [h.no_parameters.2 (h'.no_parameters.1 hps')] at hps
        cases hps
      | some ps' =>
        have heq : ps = ps' := Table.ext_find? fun key =>
          (h.parameters ps hps key).trans (h'.parameters ps' hps' key).symm
        rw [heq]
  have hauthenticated : d.isAuthenticated = d'.isAuthenticated :=
    Bool.eq_iff_iff.2 (h.isAuthenticated.trans h'.isAuthenticated.symm)
  have hretry : d.autoRetry = d'.autoRetry :=
    Bool.eq_iff_iff.2 (h.autoRetry.trans h'.autoRetry.symm)
  obtain ⟨version, path, method, header, parameters, authenticated, credential, retry⟩ := d
  obtain ⟨version', path', method', header', parameters', authenticated', credential', retry'⟩ := d'
  rw [Descriptor.mk.injEq]
  exact ⟨hversion, h.path.trans h'.path.symm, h.method.trans h'.method.symm, hheader, hparameters,
    hauthenticated, h.credential.trans h'.credential.symm, hretry⟩

/-- **One descriptor** is described by groups. -/
theorem describes_iff {method : Http.Method} {path : String} {groups : List Group}
    {d : Descriptor} : Describes method path groups d ↔ d = descriptorOf method path groups := by
  constructor
  · intro h
    exact h.unique (describes_descriptorOf method path groups)
  · rintro rfl
    exact describes_descriptorOf method path groups

/-! ## Groups that say the same -/

/-- Groups that say the same about every slot. -/
def Alike (groups groups' : List Group) : Prop :=
  ∀ slot, groups.filter (·.slot = slot) = groups'.filter (·.slot = slot)

variable {groups groups' : List Group}

theorem Alike.filterMap_eq (h : Alike groups groups') {α : Type} {gives : Group → Option α}
    (slot : Slot) (hgives : ∀ g, g.slot ≠ slot → gives g = none) :
    groups.filterMap gives = groups'.filterMap gives := by
  rw [← filterMap_filter_slot hgives groups, h slot, filterMap_filter_slot hgives groups']

theorem Alike.last?_eq (h : Alike groups groups') {α : Type} {gives : Group → Option α}
    (slot : Slot) (hgives : ∀ g, g.slot ≠ slot → gives g = none) :
    last? gives groups = last? gives groups' := by
  rw [last?, last?, h.filterMap_eq slot hgives]

theorem Alike.slot_iff (h : Alike groups groups') (slot : Slot) :
    (∀ g ∈ groups, g.slot ≠ slot) ↔ ∀ g ∈ groups', g.slot ≠ slot := by
  have hnone : ∀ groups : List Group,
      (∀ g ∈ groups, g.slot ≠ slot) ↔ groups.filter (·.slot = slot) = [] := by
    intro groups
    simp [List.filter_eq_nil_iff]
  rw [hnone, hnone, h slot]

/-- Groups that say the same describe the same. -/
theorem Alike.describes (h : Alike groups groups') {method : Http.Method} {path : String}
    {d : Descriptor} (hd : Describes method path groups d) : Describes method path groups' d := by
  have hversion := h.last?_eq .apiVersion fun _ => Group.version?_eq_none_iff.2
  have hheader := fun key => h.last?_eq (.header key) fun _ => Group.header?_eq_none_iff.2
  have hparam := fun key => h.last?_eq (.param key) fun _ => Group.param?_eq_none_iff.2
  exact {
    path := hd.path
    method := hd.method
    version := by rw [← hversion, hd.version]
    header := fun key => by rw [← hheader, hd.header]
    no_parameters := hd.no_parameters.trans (forall_congr' fun key => h.slot_iff (.param key))
    parameters := fun ps hps key => by rw [← hparam, hd.parameters ps hps]
    isAuthenticated := hd.isAuthenticated.trans (h.slot_iff .noAuth)
    autoRetry := hd.autoRetry.trans (h.slot_iff .noRetry)
    credential := hd.credential }

/-- Such groups name one configuration file. -/
theorem Alike.config?_eq (h : Alike groups groups') :
    (groups.filterMap Group.config?).head? = (groups'.filterMap Group.config?).head? := by
  rw [h.filterMap_eq .config fun _ => Group.config?_eq_none_iff.2]

/-! ## Outcomes -/

/-- Networks at which the same has been sent and received but for the id of the request, which is in
its place in the messages. -/
structure SameMessages (s : Scene) (requestId' : String) (n n' : Network) : Prop where
  sent : ∃ ms ms', List.Forall₂ (MessageAlike (Transport.SameButId s.requestId requestId')) ms ms' ∧
    n = s.network.offerAll ms ∧ n' = s.network.offerAll ms'
  received : ∃ ms ms',
    List.Forall₂ (MessageAlike (Transport.SameButId s.requestId requestId')) ms ms' ∧
      n.received = s.network.received ++ ms ∧ n'.received = s.network.received ++ ms'

/-- The server receives the same of what is the same. -/
theorem SameMessages.of_sent {s : Scene} {requestId' : String} {n n' : Network}
    (h : ∃ ms ms', List.Forall₂ (MessageAlike (Transport.SameButId s.requestId requestId')) ms ms' ∧
      n = s.network.offerAll ms ∧ n' = s.network.offerAll ms') :
    SameMessages s requestId' n n' := by
  obtain ⟨ms, ms', hms, rfl, rfl⟩ := h
  exact ⟨⟨ms, ms', hms, rfl, rfl⟩, _, _, (Network.SameServer.refl s.network).taken hms,
    Network.received_offerAll .., Network.received_offerAll ..⟩

theorem SameMessages.refl (s : Scene) (requestId' : String) :
    SameMessages s requestId' s.network s.network := .of_sent ⟨[], [], .nil, rfl, rfl⟩

/-- Two outcomes in one scene that are the same but for the id of the request. -/
structure SameOutcome (s : Scene) (requestId' : String) (o o' : Outcome) : Prop where
  exitCode : o.exitCode = o'.exitCode
  stdout : o.stdout = o'.stdout
  stderr : o.stderr = o'.stderr
  messages : SameMessages s requestId' o.network o'.network

/-- A failure is the same wherever it happens. -/
theorem SameMessages.outcome {s : Scene} {requestId' : String} {n n' : Network}
    (h : SameMessages s requestId' n n') (f : Failure) :
    SameOutcome s requestId' (f.outcome n) (f.outcome n') := ⟨rfl, rfl, rfl, h⟩

/-- **Options that say the same** lead to the same outcome: it depends on the descriptor and the
configuration file that is found. -/
theorem sameOutcome_run (s : Scene) {requestId' : String}
    (hid : Http.isValue s.requestId = Http.isValue requestId') {method path : String}
    {options options' : List String}
    (hread : readRequest (method :: path :: options) = readRequest (method :: path :: options'))
    (hconfig : valueBehind? configFlag options = valueBehind? configFlag options') :
    SameOutcome s requestId' (run s ("request" :: method :: path :: options))
      (run { s with requestId := requestId' } ("request" :: method :: path :: options')) := by
  have hopen : openTransport { s with requestId := requestId' } options' =
      openTransport s options := by
    simp only [openTransport, loadConfig, hconfig]
  show SameOutcome s requestId' (runRequest s (method :: path :: options))
    (runRequest { s with requestId := requestId' } (method :: path :: options'))
  simp only [runRequest, ← hread, List.drop_succ_cons, List.drop_zero, hopen]
  cases hrequest : readRequest (method :: path :: options) with
  | error f => exact (SameMessages.refl s requestId').outcome f
  | ok d =>
    cases htransport : openTransport s options with
    | error f => exact (SameMessages.refl s requestId').outcome f
    | ok t =>
      have halike := t.dispatch_alike_of_ids d ⟨s.environment, []⟩ hid (.refl s.network)
      simp only [← halike.result]
      cases (t.dispatch d ⟨s.environment, []⟩ s.requestId s.network).result with
      | error e => exact (SameMessages.of_sent halike.messages).outcome (.error e)
      | ok r => exact ⟨rfl, rfl, rfl, .of_sent halike.messages⟩

/-! ## Accepted options -/

/-- Accepted options are read as the descriptor of their groups. -/
theorem readRequest_of_readGroups {options : List String} (h : readGroups options = .ok groups)
    (method : Http.Method) (path : String) :
    readRequest (method.token :: path :: options) = .ok (descriptorOf method path groups) := by
  simp only [readRequest, Http.Method.ofToken?_token, h]

/-- Options whose groups say the same are read as the same request, or refused for their verb. -/
theorem readRequest_eq_of_alike {options options' : List String}
    (h : readGroups options = .ok groups) (h' : readGroups options' = .ok groups')
    (halike : Alike groups groups') (method path : String) :
    readRequest (method :: path :: options) = readRequest (method :: path :: options') := by
  have hdescriptor : ∀ m, descriptorOf m path groups = descriptorOf m path groups' := fun m =>
    describes_iff.1 (halike.describes (describes_descriptorOf m path groups))
  simp only [readRequest, h, h', hdescriptor]

/-- What is received in a run is what its descriptor is dispatched with. -/
theorem network_run {s : Scene} {method path : String} {options : List String} {d : Descriptor}
    {t : Transport} (hread : readRequest (method :: path :: options) = .ok d)
    (hopen : openTransport s options = .ok t) :
    (run s ("request" :: method :: path :: options)).network =
      (t.dispatch d ⟨s.environment, []⟩ s.requestId s.network).rest := by
  show (runRequest s (method :: path :: options)).network = _
  simp only [runRequest, hread, List.drop_succ_cons, List.drop_zero, hopen]
  cases (t.dispatch d ⟨s.environment, []⟩ s.requestId s.network).result <;> rfl

/-- **The order of options does not matter.**  Accepted options are a list of groups.  They describe
one descriptor for a verb and a path, which is the one that is dispatched.  In every other order in
which the groups of one slot follow one another as before they are accepted again, and whatever the
scene is, the outcome is the same but for the id of the request. -/
theorem options_in_any_order {options : List String} (h : readGroups options = .ok groups) :
    (∀ (method : Http.Method) (path : String), ∃ d, Describes method path groups d ∧
      (∀ d', Describes method path groups d' → d' = d) ∧
      readRequest (method.token :: path :: options) = .ok d ∧
      ∀ s t, openTransport s options = .ok t →
        (run s ("request" :: method.token :: path :: options)).network =
          (t.dispatch d ⟨s.environment, []⟩ s.requestId s.network).rest) ∧
      (∃ ws, options = ws.flatMap WrittenGroup.arguments ∧ Reads ws groups) ∧
      ∀ ws ws', options = ws.flatMap WrittenGroup.arguments → Reordered ws ws' →
        (∃ groups', readGroups (ws'.flatMap WrittenGroup.arguments) = .ok groups') ∧
        ∀ (s : Scene) (requestId' : String), Http.isValue s.requestId = Http.isValue requestId' →
          ∀ method path : String,
            SameOutcome s requestId' (run s ("request" :: method :: path :: options))
              (run { s with requestId := requestId' }
                ("request" :: method :: path :: ws'.flatMap WrittenGroup.arguments)) := by
  refine ⟨?_, readGroups_eq_ok_iff.1 h, ?_⟩
  · intro method path
    have hread := readRequest_of_readGroups h method path
    exact ⟨descriptorOf method path groups, describes_descriptorOf method path groups,
      fun d' hd' => describes_iff.1 hd', hread, fun s t hopen => network_run hread hopen⟩
  · rintro ws ws' rfl hreordered
    have hreads := readGroups_flatMap_eq_ok_iff.1 h
    obtain ⟨groups', hreads'⟩ := exists_reads_of_perm hreordered.perm hreads
    have h' := readGroups_flatMap_eq_ok_iff.2 hreads'
    have halike : Alike groups groups' := filter_eq_of_reordered hreordered hreads hreads'
    refine ⟨⟨groups', h'⟩, ?_⟩
    intro s requestId' hid method path
    refine sameOutcome_run s hid (readRequest_eq_of_alike h h' halike method path) ?_
    rw [valueBehind?_of_reads hreads, valueBehind?_of_reads hreads', halike.config?_eq]

/-- Groups whose values look like flags, and two that name one parameter. -/
def flagLikeGroups : List WrittenGroup :=
  [.valued .param "a=--config", .valued .config "--config", .valued .header "X-Flag=--no-auth",
    .noAuth, .valued .param "a={}", .valued .apiVersion "+7"]

/-- The same groups in another order, the two parameters as before. -/
def flagLikeGroups' : List WrittenGroup :=
  [.valued .config "--config", .valued .param "a=--config", .noAuth,
    .valued .header "X-Flag=--no-auth", .valued .param "a={}", .valued .apiVersion "+7"]

/-- A scene with a server on the same machine, which a file with the name of a flag tells. -/
def localScene : Scene where
  environment := []
  files path :=
    if path = "--config" then .ok (Text.Utf8.bytesOf "base_url: http://127.0.0.1:18080") else .ok []
  network := Transport.unavailableOnce
  requestId := "id-1"

/-- The groups are accepted, sent and answered in either order. -/
theorem options_in_any_order_of_flagLikeGroups :
    (readGroups (flagLikeGroups.flatMap WrittenGroup.arguments)).isOk = true ∧
      Reordered flagLikeGroups flagLikeGroups' ∧
      (run localScene ("request" :: "GET" :: "/users" ::
        flagLikeGroups.flatMap WrittenGroup.arguments)).network.received.length = 1 ∧
      SameOutcome localScene "id-2"
        (run localScene ("request" :: "GET" :: "/users" ::
          flagLikeGroups.flatMap WrittenGroup.arguments))
        (run { localScene with requestId := "id-2" } ("request" :: "GET" :: "/users" ::
          flagLikeGroups'.flatMap WrittenGroup.arguments)) := by
  have hok : (readGroups (flagLikeGroups.flatMap WrittenGroup.arguments)).isOk = true := by
    decide +kernel
  have hreordered : Reordered flagLikeGroups flagLikeGroups' :=
    (Reordered.swap (by decide) [] _).trans (Reordered.swap (by decide) [_, _] _)
  have hreceived : (run localScene ("request" :: "GET" :: "/users" ::
      flagLikeGroups.flatMap WrittenGroup.arguments)).network.received.length = 1 := by
    decide +kernel
  obtain ⟨groups, hgroups⟩ := Result.exists_of_isOk hok
  obtain ⟨-, -, hany⟩ := options_in_any_order hgroups
  obtain ⟨-, hsame⟩ := hany flagLikeGroups flagLikeGroups' rfl hreordered
  have hid : Http.isValue localScene.requestId = Http.isValue "id-2" := by decide
  exact ⟨hok, hreordered, hreceived, hsame localScene "id-2" hid "GET" "/users"⟩

end Courier.CommandLine
