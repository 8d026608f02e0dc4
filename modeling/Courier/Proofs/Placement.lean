import Courier.Proofs.ByteOrder
import Courier.Proofs.Queries
import Courier.Proofs.Validation

/-!
# Where parameters travel

The parameters of a request are its body if its verb has one, and its query otherwise; never both,
and nothing of them is lost.  The order in which they were set leaves no trace.

* `Plan.mem_queryPairs_iff`, `Plan.pairwise_queryPairs` — a query has one pair for each parameter
  that has a value, in the order of their names.
* `Plan.find?_contentType` — the type of a body stands in the headers of a plan that has one.
* `Transport.parameters_placed` — **the placement of parameters** in every plan.
-/

namespace Courier

open Text.Utf8 (bytesOf bytesOf_lt_iff)

variable {ρ : Type} [Request ρ]

namespace Plan

/-! ## Queries -/

/-- How a value that is not `null` stands in a query: a string as it is, all else as compact
JSON. -/
inductive Shows : Json.Value → String → Prop where
  | string (s : String) : Shows (.string s) s
  | json {v : Json.Value} (hnull : v ≠ .null) (hstring : ∀ s, v ≠ .string s) :
      Shows v v.compactText

theorem render?_eq_some_iff {v : Json.Value} {text : String} :
    render? v = some text ↔ Shows v text := by
  constructor
  · intro h
    cases v with
    | null => cases h
    | string s =>
      cases h
      exact .string _
    | _ =>
      cases h
      exact .json (by simp) (by simp)
  · intro h
    cases h with
    | string s => rfl
    | json hnull hstring =>
      cases v with
      | null => exact absurd rfl hnull
      | string s => exact absurd rfl (hstring s)
      | _ => rfl

theorem mem_queryPairs_iff {parameters : Parameters} {name text : String} :
    (name, text) ∈ queryPairs parameters ↔ ∃ v, (name, v) ∈ parameters ∧ Shows v text := by
  simp only [queryPairs, List.mem_filterMap, Option.map_eq_some_iff, render?_eq_some_iff,
    Prod.mk.injEq]
  constructor
  · rintro ⟨⟨_, v⟩, hmem, _, hshows, rfl, rfl⟩
    exact ⟨v, hmem, hshows⟩
  · rintro ⟨v, hmem, hshows⟩
    exact ⟨(name, v), hmem, text, hshows, rfl, rfl⟩

/-- The pairs of a query are in the order of the parameters. -/
theorem pairwise_queryPairs (parameters : Parameters) :
    (queryPairs parameters).Pairwise fun p q => bytesOf p.1 < bytesOf q.1 := by
  refine List.Pairwise.filterMap _ ?_ parameters.increasing
  intro p q hlt p' hp q' hq
  obtain ⟨_, -, rfl⟩ := Option.map_eq_some_iff.1 hp
  obtain ⟨_, -, rfl⟩ := Option.map_eq_some_iff.1 hq
  exact bytesOf_lt_iff.2 hlt

/-! ## The type of a body -/

/-- Where neither the request nor the version has a header for the type of a body, it stands there
exactly with a body. -/
theorem find?_contentType {c : Config} {hasBody : Bool} {version : UInt32}
    {own : Table Json.Value} {credential : Option Credential} {requestId : String}
    {headers : Http.Headers}
    (h : mergeHeaders c hasBody version own credential requestId = .ok headers)
    (hown : ∀ e ∈ own, Http.lower e.1 ≠ "content-type")
    (hversion : Http.lower c.versionHeader ≠ "content-type") :
    headers.find? "content-type" = if hasBody then some jsonType else none := by
  have hnone : credentialValue? credential "content-type" = none :=
    credentialValue?_eq_none (Or.inr (by decide))
  have hownNone : ownValue? own.entries "content-type" = none :=
    List.findSome?_eq_none_iff.2 fun e he => if_neg (hown e he)
  have hothers : "content-type" ∉ [requestIdHeader, appVersionHeader, "user-agent", "accept"] := by
    decide
  simp only [List.mem_cons, List.not_mem_nil, or_false, not_or] at hothers
  rw [find?_mergeHeaders h, hnone, hownNone, versionValue?, if_neg (Ne.symm hversion),
    defaultValue?]
  simp [hothers]

/-! ## Plans -/

/-- Whether a plan carries the parameters of a request where its verb has them travel, and says so
in its headers. -/
structure Placed (c : Config) (r : ρ) (p : Plan) : Prop where
  body : Request.method r ∈ [.post, .put] →
    p.query = [] ∧ p.body = (Request.parameters r).map fun ps => .object ps.entries
  bodiless : Request.method r ∈ [.get, .delete] → p.body = none
  query : Request.method r ∈ [.get, .delete] → ∀ name text, (name, text) ∈ p.query ↔
    ∃ parameters v, Request.parameters r = some parameters ∧ (name, v) ∈ parameters ∧ Shows v text
  order : p.query.Pairwise fun a b => bytesOf a.1 < bytesOf b.1
  nothing : Request.parameters r = none → p.query = [] ∧ p.body = none
  contentType : (∀ e ∈ Request.header r, Http.lower e.1 ≠ "content-type") →
    Http.lower c.versionHeader ≠ "content-type" →
      ∀ v, ("content-type", v) ∈ p.headers ↔ p.body.isSome = true ∧ v = jsonType

/-- Verbs with a body have the parameters there. -/
theorem placement_of_hasBody {method : Http.Method} (h : method.hasBody = true)
    (parameters : Option Parameters) :
    placement method parameters = ([], parameters.map fun ps => .object ps.entries) := by
  cases parameters with
  | none => rfl
  | some ps => simp [placement, h]

theorem hasBody_of_mem {method : Http.Method} (h : method ∈ [.post, .put]) :
    method.hasBody = true := by
  simp only [List.mem_cons, List.not_mem_nil, or_false] at h
  rcases h with rfl | rfl <;> rfl

theorem not_hasBody_of_mem {method : Http.Method} (h : method ∈ [.get, .delete]) :
    method.hasBody = false := by
  simp only [List.mem_cons, List.not_mem_nil, or_false] at h
  rcases h with rfl | rfl <;> rfl

/-- What has been made for a request with these headers carries its parameters. -/
theorem placed_withHeaders {c : Config} {r : ρ} {credential : Option Credential}
    {requestId : String} {headers : Http.Headers}
    (h : headersOf c r credential requestId = .ok headers) :
    Placed c r (withHeaders c r headers) where
  body hmethod := by
    rw [withHeaders, placement_of_hasBody (hasBody_of_mem hmethod)]
    exact ⟨rfl, rfl⟩
  bodiless hmethod := by
    rw [withHeaders, placement_of_bodiless (not_hasBody_of_mem hmethod)]
  query hmethod name text := by
    rw [withHeaders, placement_of_bodiless (not_hasBody_of_mem hmethod), mem_queryPairs_iff]
    cases Request.parameters r with
    | none => simp
    | some ps => simp
  order := by
    cases hparameters : Request.parameters r with
    | none =>
      rw [withHeaders, hparameters]
      exact List.Pairwise.nil
    | some ps =>
      cases hbody : (Request.method r).hasBody with
      | true =>
        rw [withHeaders, placement_of_hasBody hbody]
        exact List.Pairwise.nil
      | false =>
        rw [withHeaders, placement_of_bodiless hbody, hparameters]
        exact pairwise_queryPairs ps
  nothing hnone := by
    rw [withHeaders, hnone]
    exact ⟨rfl, rfl⟩
  contentType hown hversion v := by
    show ("content-type", v) ∈ headers ↔
      (placement (Request.method r) (Request.parameters r)).2.isSome = true ∧ v = jsonType
    rw [headers.mem_iff_find?, find?_contentType h hown hversion]
    cases (placement (Request.method r) (Request.parameters r)).2.isSome with
    | true => simp [eq_comm]
    | false => simp

end Plan

namespace Transport

/-- The same request, with its parameters set one after the other. -/
def setInTurn (r : ρ) (entries : List (String × Json.Value)) : Descriptor :=
  (Descriptor.capture r).withParameters (.ofList entries)

/-- The order in which parameters are set does not tell. -/
theorem capture_setInTurn {r : ρ} {ps : Parameters} (hparameters : Request.parameters r = some ps)
    {entries : List (String × Json.Value)} (hperm : entries.Perm ps.entries) :
    setInTurn r entries = Descriptor.capture r := by
  have hnames : (entries.map Prod.fst).Nodup :=
    (hperm.map Prod.fst).nodup_iff.2 ps.increasing.nodup_names
  have htable : Table.ofList entries = ps := by
    rw [Table.ofList_eq_of_perm hnames hperm, Table.ofList_entries]
  rw [setInTurn, htable, Descriptor.withParameters, Descriptor.capture, hparameters]

/-- **The placement of parameters.**  In every plan that is made for a request, with a credential
handed over or resolved, `POST` and `PUT` have no query and the parameters, with all entries, as
their body; `GET` and `DELETE` have no body, and in their query one pair for each parameter that is
not `null`, in the order of the bytes of the names.  Unless the request or the version has a header
of that name, the type of the body stands in the headers exactly if there is a body.  The parameters
may have been set in any order. -/
theorem parameters_placed (c : Config) (r : ρ) (requestId : String) :
    (∀ credential p, Plan.of c r credential requestId = .ok p → Plan.Placed c r p) ∧
      (∀ (t : Transport) (s : Surroundings) (p : Plan), t.config = c →
        t.prepare r s requestId = .ok p → Plan.Placed c r p) ∧
      ∀ ps entries, Request.parameters r = some ps → entries.Perm ps.entries →
        (∀ credential, Plan.of c (setInTurn r entries) credential requestId =
          Plan.of c r credential requestId) ∧
        ∀ (t : Transport) (s : Surroundings),
          t.prepare (setInTurn r entries) s requestId = t.prepare r s requestId := by
  refine ⟨?_, ?_, ?_⟩
  · intro credential p hp
    obtain ⟨headers, hmerge, rfl⟩ := Plan.exists_withHeaders hp
    exact Plan.placed_withHeaders hmerge
  · rintro t s p rfl hp
    cases prepare_eq_iff.1 hp with
    | planned hpath hresolves hmerge => exact Plan.placed_withHeaders hmerge
  · intro ps entries hparameters hperm
    rw [capture_setInTurn hparameters hperm]
    exact ⟨fun _ => rfl, fun _ _ => rfl⟩

/-- Parameters in the order of their names; one is `null`, one is empty within, and the name of the
last has the greatest bytes. -/
def scatteredParameters : Parameters where
  entries :=
    [("", .object [("n", .null)]), ("skip", .null), ("\uFFFD", .string "x & y"), ("😀", .array [])]
  increasing := by
    simp only [Entries.Increasing, List.pairwise_cons]
    decide

/-- A request with these parameters. -/
def scatteredRequest (method : Http.Method) : Descriptor :=
  ((Descriptor.new "/messages").withMethod method).withParameters scatteredParameters

/-- Set in the opposite order, the parameters stand in the query of the one verb and in the body of
the other. -/
theorem parameters_placed_of_scatteredRequest :
    (∃ p, Plan.of (.new "http://127.0.0.1:18080")
          (setInTurn (scatteredRequest .delete) scatteredParameters.entries.reverse) none "id-1" =
            .ok p ∧
        p.body = none ∧ ("", "\x7b\"n\":null\x7d") ∈ p.query ∧ (∀ text, ("skip", text) ∉ p.query) ∧
        ∀ v, ("content-type", v) ∉ p.headers) ∧
      ∃ p, Plan.of (.new "http://127.0.0.1:18080")
          (setInTurn (scatteredRequest .post) scatteredParameters.entries.reverse) none "id-1" =
            .ok p ∧
        p.query = [] ∧ p.body = some (.object scatteredParameters.entries) ∧
        ∀ v, ("content-type", v) ∈ p.headers ↔ v = "application/json" := by
  have hown : ∀ method, ∀ e ∈ Request.header (scatteredRequest method),
      Http.lower e.1 ≠ "content-type" := fun _ => List.forall_mem_nil _
  have hversion : Http.lower (Config.new "http://127.0.0.1:18080").versionHeader ≠
      "content-type" := by decide
  refine ⟨?_, ?_⟩
  · obtain ⟨hplaced, -, horder⟩ := parameters_placed (.new "http://127.0.0.1:18080")
      (scatteredRequest .delete) "id-1"
    obtain ⟨p, hp⟩ := Result.exists_of_isOk (x := Plan.of (.new "http://127.0.0.1:18080")
      (scatteredRequest .delete) none "id-1") (by decide +kernel)
    have hplace := hplaced none p hp
    have hquery := hplace.query (by decide)
    have hbody := hplace.bodiless (by decide)
    rw [(horder _ _ rfl (List.reverse_perm _)).1]
    refine ⟨p, hp, hbody, ?_, ?_, ?_⟩
    · rw [hquery]
      exact ⟨_, _, rfl, List.mem_cons_self, .json (by simp) (by simp)⟩
    · intro text htext
      obtain ⟨ps, v, hparameters, hmem, hshows⟩ := (hquery _ _).1 htext
      cases hparameters
      obtain rfl : v = .null := by simpa [scatteredParameters] using hmem
      cases hshows with
      | json hnull hstring => exact hnull rfl
    · intro v
      rw [hplace.contentType (hown .delete) hversion, hbody]
      simp
  · obtain ⟨hplaced, -, horder⟩ := parameters_placed (.new "http://127.0.0.1:18080")
      (scatteredRequest .post) "id-1"
    obtain ⟨p, hp⟩ := Result.exists_of_isOk (x := Plan.of (.new "http://127.0.0.1:18080")
      (scatteredRequest .post) none "id-1") (by decide +kernel)
    have hplace := hplaced none p hp
    obtain ⟨hquery, hbody⟩ := hplace.body (by decide)
    rw [(horder _ _ rfl (List.reverse_perm _)).1]
    refine ⟨p, hp, hquery, hbody, ?_⟩
    intro v
    rw [hplace.contentType (hown .post) hversion, hbody]
    exact ⟨And.right, fun h => ⟨rfl, h⟩⟩

end Transport

end Courier
