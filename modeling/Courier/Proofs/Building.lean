import Courier.Proofs.Independence
import Courier.Proofs.Tables

/-!
# Descriptors built step by step

A descriptor begins with all defaults, and each step sets one field of it or takes a copy of all
its answers.  What can be read of a field afterwards is what the last step about it says, so a step
about another field, or a copy, leaves no trace.

* `foldl_last` — where each step replaces a value or leaves it, the last one counts.
* `Descriptor.Field`, `Descriptor.Step` — the fields, each header on its own, and the steps.
* `Descriptor.read?_take` — **one step**: the field that it sets can be read, the others stay.
* `Descriptor.read?_build` — **all steps**: every field has what was said about it last.
* `Descriptor.build_and_capture_lose_nothing` — **what a built descriptor is**, and that the copy of
  a request is as good as the request.
-/

namespace Courier

/-- Where each item replaces a value or leaves it, the value is what is said last. -/
theorem foldl_last {σ ι α : Type} {step : σ → ι → σ} {gives : ι → Option α}
    (project : σ → Option α) (hstep : ∀ s i, project (step s i) = (gives i).or (project s))
    (items : List ι) (s : σ) :
    project (items.foldl step s) = (items.filterMap gives).getLast?.or (project s) := by
  induction items generalizing s with
  | nil => rfl
  | cons i rest ih =>
    rw [List.foldl_cons, ih, hstep]
    cases hi : gives i with
    | none => rw [List.filterMap_cons_none hi, Option.none_or]
    | some a =>
      rw [List.filterMap_cons_some hi, List.getLast?_cons]
      cases (rest.filterMap gives).getLast? <;> rfl

/-! ## Values are the same as themselves -/

namespace Json

theorem Number.same_self (n : Number) : n.same n = true := by
  cases n with
  | integer n => exact beq_self_eq_true n
  | real x => simp [same, Binary64.same]

namespace Value

mutual

theorem same_self : ∀ v : Value, v.same v = true
  | .null => rfl
  | .bool b => by simp [same]
  | .number n => by simpa [same] using n.same_self
  | .string s => by simp [same]
  | .array items => by simpa [same] using sameItems_self items
  | .object members => by simpa [same] using sameMembers_self members

theorem sameItems_self : ∀ items : List Value, sameItems items items = true
  | [] => rfl
  | v :: rest => by simp [sameItems, same_self v, sameItems_self rest]

theorem sameMembers_self : ∀ members : List (String × Value), sameMembers members members = true
  | [] => rfl
  | (_, v) :: rest => by simp [sameMembers, same_self v, sameMembers_self rest]

end

end Value

end Json

namespace Descriptor

/-! ## Fields and steps -/

/-- What can be set of a descriptor; each header is a field of its own. -/
inductive Field where
  | version
  | method
  | header (name : String)
  | parameters
  | authenticated
  | credential
  | autoRetry
  deriving DecidableEq

/-- What a field holds once it has been set. -/
abbrev Field.Content : Field → Type
  | .version => UInt32
  | .method => Http.Method
  | .header _ => Json.Value
  | .parameters => Parameters
  | .authenticated => Bool
  | .credential => Credential
  | .autoRetry => Bool

/-- One step of building: a field is set, or the descriptor is replaced by a copy of its answers. -/
inductive Step where
  | set (f : Field) (content : f.Content)
  | capture

/-- Whether a step sets a field. -/
def Step.isSetter : Step → Bool
  | .set .. => true
  | .capture => false

/-- Sets a field. -/
def set (d : Descriptor) : (f : Field) → f.Content → Descriptor
  | .version, version => d.withVersion version
  | .method, method => d.withMethod method
  | .header name, value => d.withHeader name value
  | .parameters, parameters => d.withParameters parameters
  | .authenticated, authenticated => d.withAuthenticated authenticated
  | .credential, c => d.withCredential c
  | .autoRetry, autoRetry => d.withAutoRetry autoRetry

/-- The descriptor after a step. -/
def take (d : Descriptor) : Step → Descriptor
  | .set f content => d.set f content
  | .capture => capture d

/-- The descriptor of a path after steps in turn. -/
def build (path : String) (steps : List Step) : Descriptor := steps.foldl take (new path)

/-- What a descriptor answers about a field. -/
def read? (d : Descriptor) : (f : Field) → Option f.Content
  | .version => some (Request.version d)
  | .method => some (Request.method d)
  | .header name => (Request.header d).find? name
  | .parameters => Request.parameters d
  | .authenticated => some (Request.isAuthenticated d)
  | .credential => Request.credential d
  | .autoRetry => some (Request.autoRetry d)

/-- What a step says about a field. -/
def Step.content? (f : Field) : Step → Option f.Content
  | .set g content => if h : g = f then some (h ▸ content) else none
  | .capture => none

/-- What steps say last about a field. -/
def last? (f : Field) (steps : List Step) : Option f.Content :=
  (steps.filterMap (Step.content? f)).getLast?

/-! ## One step -/

/-- A copy of a descriptor is the descriptor. -/
theorem capture_self (d : Descriptor) : capture d = d := rfl

theorem read?_set_self (d : Descriptor) (f : Field) (content : f.Content) :
    (d.set f content).read? f = some content := by
  cases f with
  | header name => exact (Table.find?_insert d.header name name content).trans (if_pos rfl)
  | _ => rfl

theorem read?_set_of_ne (d : Descriptor) {f g : Field} (h : g ≠ f) (content : g.Content) :
    (d.set g content).read? f = d.read? f := by
  cases g with
  | header name =>
    cases f with
    | header key =>
      have hne : key ≠ name := fun heq => h (congrArg Field.header heq.symm)
      exact (Table.find?_insert d.header name key content).trans (if_neg hne)
    | _ => rfl
  | _ => cases f <;> first | rfl | exact absurd rfl h

/-- **One step** decides about the field that it sets, and about no other. -/
theorem read?_take (d : Descriptor) (f : Field) (step : Step) :
    (d.take step).read? f = (step.content? f).or (d.read? f) := by
  cases step with
  | capture =>
    rw [take, capture_self]
    rfl
  | set g content =>
    rw [take, Step.content?]
    by_cases h : g = f
    · subst h
      rw [dif_pos rfl, read?_set_self]
      rfl
    · rw [dif_neg h, read?_set_of_ne d h, Option.none_or]

theorem path_take (d : Descriptor) (step : Step) : (d.take step).path = d.path := by
  cases step with
  | capture => rw [take, capture_self]
  | set f content => cases f <;> rfl

/-! ## All steps -/

/-- **All steps**: a field has what they say about it last, or its default. -/
theorem read?_build (path : String) (steps : List Step) (f : Field) :
    (build path steps).read? f = (last? f steps).or ((new path).read? f) :=
  foldl_last (·.read? f) (fun d step => read?_take d f step) steps (new path)

theorem path_build (path : String) (steps : List Step) : (build path steps).path = path := by
  refine List.foldlRecOn (motive := fun d => d.path = path) steps take
    (show (new path).path = path from rfl) ?_
  intro d hd step _
  rw [path_take, hd]

/-- A descriptor is known by its path and by what it answers about its fields. -/
theorem eq_of_read? {d d' : Descriptor} (hpath : d.path = d'.path)
    (hread : ∀ f, d.read? f = d'.read? f) : d = d' := by
  have hversion : d.version = d'.version := Option.some.inj (hread .version)
  have hmethod : d.method = d'.method := Option.some.inj (hread .method)
  have htable : d.header = d'.header := Table.ext_find? fun name => hread (.header name)
  have hparameters : d.parameters = d'.parameters := hread .parameters
  have hauthenticated : d.isAuthenticated = d'.isAuthenticated :=
    Option.some.inj (hread .authenticated)
  have hcredential : d.credential = d'.credential := hread .credential
  have hretry : d.autoRetry = d'.autoRetry := Option.some.inj (hread .autoRetry)
  cases d
  cases d'
  rw [Descriptor.mk.injEq]
  exact ⟨hversion, hpath, hmethod, htable, hparameters, hauthenticated, hcredential, hretry⟩

/-- Steps that say the same build the same. -/
theorem build_congr (path : String) {steps steps' : List Step}
    (h : ∀ f, last? f steps = last? f steps') : build path steps = build path steps' := by
  refine eq_of_read? ?_ ?_
  · rw [path_build, path_build]
  · intro f
    rw [read?_build, read?_build, h f]

/-- Where two steps never both speak about one field, it does not matter which comes first. -/
theorem build_swap (path : String) (before : List Step) {a b : Step} (behind : List Step)
    (h : ∀ f, a.content? f = none ∨ b.content? f = none) :
    build path (before ++ a :: b :: behind) = build path (before ++ b :: a :: behind) := by
  refine build_congr path fun f => congrArg List.getLast? ?_
  rw [List.filterMap_append, List.filterMap_append]
  rcases h f with ha | hb
  · simp only [List.filterMap_cons, ha]
  · simp only [List.filterMap_cons, hb]

/-- Copies on the way leave no trace. -/
theorem build_filter_isSetter (path : String) (steps : List Step) :
    build path (steps.filter Step.isSetter) = build path steps := by
  refine build_congr path fun f => ?_
  rw [last?, last?, List.filterMap_filter]
  refine congrArg (fun gives => (List.filterMap gives steps).getLast?) (funext fun step => ?_)
  cases step <;> rfl

/-! ## What steps say -/

theorem content?_eq_some_iff {f : Field} {content : f.Content} {step : Step} :
    step.content? f = some content ↔ step = .set f content := by
  cases step with
  | capture => simp [Step.content?]
  | set g other =>
    rw [Step.content?]
    by_cases h : g = f
    · subst h
      rw [dif_pos rfl]
      simp
    · rw [dif_neg h]
      exact iff_of_false (Option.some_ne_none content).symm fun heq => h (Step.set.inj heq).1

/-- Steps that set different fields speak about different fields. -/
theorem content?_set_of_ne {f g : Field} (h : g ≠ f) (content : g.Content) :
    (Step.set g content).content? f = none := dif_neg h

/-- Nothing was said about a field exactly if no step sets it. -/
theorem last?_eq_none_iff {f : Field} {steps : List Step} :
    last? f steps = none ↔ ∀ content, Step.set f content ∉ steps := by
  rw [last?, List.getLast?_eq_none_iff, List.filterMap_eq_nil_iff]
  constructor
  · intro h content hmem
    have hnone := h _ hmem
    rw [content?_eq_some_iff.2 rfl] at hnone
    cases hnone
  · intro h step hmem
    refine Option.eq_none_iff_forall_ne_some.2 fun content hsome => ?_
    exact h content (content?_eq_some_iff.1 hsome ▸ hmem)

/-- What was said last is the content of a step behind which none sets the field. -/
theorem last?_eq_some_iff {f : Field} {content : f.Content} {steps : List Step} :
    last? f steps = some content ↔
      ∃ before behind, steps = before ++ Step.set f content :: behind ∧
        ∀ other, Step.set f other ∉ behind := by
  constructor
  · intro h
    obtain ⟨earlier, hsplit⟩ := List.getLast?_eq_some_iff.1 h
    obtain ⟨before, rest, rfl, -, hrest⟩ := List.filterMap_eq_append_iff.1 hsplit
    obtain ⟨silent, step, behind, rfl, -, hstep, hbehind⟩ := List.filterMap_eq_cons_iff.1 hrest
    obtain rfl := content?_eq_some_iff.1 hstep
    refine ⟨before ++ silent, behind, (List.append_assoc ..).symm, last?_eq_none_iff.1 ?_⟩
    exact List.getLast?_eq_none_iff.2 hbehind
  · rintro ⟨before, behind, rfl, hbehind⟩
    have hnone : behind.filterMap (Step.content? f) = [] :=
      List.getLast?_eq_none_iff.1 (last?_eq_none_iff.2 hbehind)
    rw [last?, List.filterMap_append, List.filterMap_cons_some (content?_eq_some_iff.2 rfl), hnone,
      List.getLast?_concat]

/-- What a descriptor answers after steps: for each field what they say about it last, or else the
default, and the headers that were ever set. -/
structure SaysLast (path : String) (steps : List Step) (d : Descriptor) : Prop where
  path : Request.path d = path
  version : Request.version d = (last? .version steps).getD defaultVersion
  method : Request.method d = (last? .method steps).getD .get
  parameters : Request.parameters d = last? .parameters steps
  isAuthenticated : Request.isAuthenticated d = (last? .authenticated steps).getD true
  credential : Request.credential d = last? .credential steps
  autoRetry : Request.autoRetry d = (last? .autoRetry steps).getD true
  /-- The names of the headers are those that were ever set. -/
  names : ∀ name, name ∈ (Request.header d).names ↔
    ∃ value, Step.set (.header name) value ∈ steps
  /-- Each has the value that it was set to last. -/
  values : ∀ name value, (name, value) ∈ Request.header d ↔
    last? (.header name) steps = some value

theorem saysLast_build (path : String) (steps : List Step) :
    SaysLast path steps (build path steps) := by
  have hread := read?_build path steps
  have hfind : ∀ name, (build path steps).header.find? name = last? (.header name) steps :=
    fun name => (hread (.header name)).trans (Option.or_none ..)
  have hvalues : ∀ name value, (name, value) ∈ (build path steps).header ↔
      last? (.header name) steps = some value := fun name value =>
    (Table.mem_iff_find? _ (name, value)).trans (Eq.congr_left (hfind name))
  have hdefault : ∀ {α : Type} {a d : α} {o : Option α}, some a = o.or (some d) → a = o.getD d := by
    intro α a d o h
    cases o with
    | none => exact Option.some.inj h
    | some b => exact Option.some.inj h
  refine ⟨path_build path steps, hdefault (hread .version), hdefault (hread .method),
    (hread .parameters).trans (Option.or_none ..), hdefault (hread .authenticated),
    (hread .credential).trans (Option.or_none ..), hdefault (hread .autoRetry), ?_, hvalues⟩
  intro name
  constructor
  · intro hname
    obtain ⟨⟨_, value⟩, hmem, rfl⟩ := List.mem_map.1 hname
    obtain ⟨before, behind, rfl, -⟩ := last?_eq_some_iff.1 ((hvalues _ value).1 hmem)
    exact ⟨value, List.mem_append_right _ List.mem_cons_self⟩
  · rintro ⟨value, hset⟩
    cases hlast : last? (.header name) steps with
    | none => exact absurd hset (last?_eq_none_iff.1 hlast value)
    | some last => exact List.mem_map_of_mem ((hvalues name last).2 hlast)

/-! ## Comparison -/

theorem same_self (d : Descriptor) : d.same d = true := by
  have hparameters : sameParameters d.parameters d.parameters = true := by
    cases d.parameters with
    | none => rfl
    | some members => exact Json.Value.sameMembers_self members.entries
  simp [same, Json.Value.sameMembers_self, hparameters]

end Descriptor

/-! ## Copies of requests -/

namespace Transport

variable {ρ : Type} [Request ρ]

/-- A copy of a request has its plan, with the same reports. -/
theorem makePlan_capture (t : Transport) (r : ρ) (s : Surroundings) (id : String) :
    t.makePlan (Descriptor.capture r) s id = t.makePlan r s id := rfl

theorem prepare_capture (t : Transport) (r : ρ) (s : Surroundings) (id : String) :
    t.prepare (Descriptor.capture r) s id = t.prepare r s id :=
  congrArg Reported.result (t.makePlan_capture r s id)

/-- A copy of a request is dispatched as the request is. -/
theorem dispatch_capture (t : Transport) (r : ρ) (s : Surroundings) (id : String) (n : Network) :
    t.dispatch (Descriptor.capture r) s id n = t.dispatch r s id n := by
  rw [dispatch, dispatch, makePlan_capture]

end Transport

namespace Descriptor

open Transport (SameButId RunsAlike toLocalServer unavailableOnce)

/-- **Nothing is lost by building and copying.**  After any steps a descriptor answers what was said
last about each field; it is the same without the copies on the way, and where two settings of
different fields change places.  The copy of a request has the plan of the request, and at a server
that does the same it comes to the same, reports and waits the same and sends the same messages, but
that another id stands where the request's own one stood. -/
theorem build_and_capture_lose_nothing {ρ : Type} [Request ρ] (path : String) (steps : List Step)
    (before behind : List Step) {f g : Field} (hfg : f ≠ g) (a : f.Content) (b : g.Content)
    (t : Transport) (r : ρ) (s : Surroundings) {n n' : Network} (hs : Network.SameServer n n')
    {id id' : String} (hid : Http.isValue id = Http.isValue id') :
    SaysLast path steps (build path steps) ∧
      build path (steps.filter Step.isSetter) = build path steps ∧
      build path (before ++ .set f a :: .set g b :: behind) =
        build path (before ++ .set g b :: .set f a :: behind) ∧
      (∀ d d' : Descriptor, d = d' → d.same d' = true) ∧
      t.prepare (capture r) s id = t.prepare r s id ∧
      t.dispatch (capture r) s id n = t.dispatch r s id n ∧
      Result.Agree (PlanAlike (SameButId id id')) (t.prepare r s id)
        (t.prepare (capture r) s id') ∧
      RunsAlike (SameButId id id') n n' (t.dispatch r s id n)
        (t.dispatch (capture r) s id' n') := by
  refine ⟨saysLast_build path steps, build_filter_isSetter path steps, ?_, ?_,
    t.prepare_capture r s id, t.dispatch_capture r s id n, ?_, ?_⟩
  · refine build_swap path before behind fun field => ?_
    by_cases hf : f = field
    · exact Or.inr (content?_set_of_ne (hf ▸ hfg.symm) b)
    · exact Or.inl (content?_set_of_ne hf a)
  · rintro d _ rfl
    exact same_self d
  · rw [t.prepare_capture]
    exact t.prepare_alike r s hid
  · rw [t.dispatch_capture]
    exact t.dispatch_alike_of_ids r s hid hs

/-- A request that answers some questions in its own way and leaves the others to the defaults. -/
structure NewLabel where
  name : String

instance : Request NewLabel where
  path _ := "/core/v4/labels"
  method _ := .post
  parameters r := some (.ofList [("Name", .string r.name)])
  isAuthenticated _ := false

/-- Copies are taken on the way, the version is set twice, and so is one of two headers whose names
differ in case only. -/
def labelSteps : List Step :=
  [.capture, .set .version 4, .set (.header "X-Try") (.bool false), .set .version 5, .capture,
    .set (.header "x-try") .null, .set (.header "X-Try") (.bool true), .capture]

/-- A label is made in two attempts, by the request and by its copy under another id. -/
theorem build_and_capture_lose_nothing_newLabel :
    Field.header "x-try" ≠ .header "X-Try" ∧
      Http.isValue "id-1" = Http.isValue "id-2" ∧
      Request.version (build "/labels" labelSteps) = 5 ∧
      Request.method (build "/labels" labelSteps) = .get ∧
      ("X-Try", Json.Value.bool true) ∈ Request.header (build "/labels" labelSteps) ∧
      ("x-try", Json.Value.null) ∈ Request.header (build "/labels" labelSteps) ∧
      build "/labels" (labelSteps.filter Step.isSetter) = build "/labels" labelSteps ∧
      build "/labels" labelSteps =
        build "/labels" (labelSteps.take 5 ++ .set (.header "X-Try") (.bool true) ::
          .set (.header "x-try") .null :: [.capture]) ∧
      (toLocalServer.dispatch (NewLabel.mk "Receipts") ⟨[], []⟩ "id-1"
        unavailableOnce).rest.received.length = 2 ∧
      RunsAlike (SameButId "id-1" "id-2") unavailableOnce unavailableOnce
        (toLocalServer.dispatch (NewLabel.mk "Receipts") ⟨[], []⟩ "id-1" unavailableOnce)
        (toLocalServer.dispatch (capture (NewLabel.mk "Receipts")) ⟨[], []⟩ "id-2"
          unavailableOnce) := by
  have hfields : Field.header "x-try" ≠ .header "X-Try" := by decide
  have hid : Http.isValue "id-1" = Http.isValue "id-2" := by decide
  obtain ⟨hlast, hfilter, hswap, -, -, -, -, hruns⟩ :=
    build_and_capture_lose_nothing "/labels" labelSteps (labelSteps.take 5) [.capture] hfields .null
      (.bool true) toLocalServer (NewLabel.mk "Receipts") ⟨[], []⟩
      (Network.SameServer.refl unavailableOnce) hid
  refine ⟨hfields, hid, hlast.version, hlast.method, (hlast.values _ _).2 rfl,
    (hlast.values _ _).2 rfl, hfilter, hswap, ?_, hruns⟩
  decide +kernel

end Descriptor

end Courier
