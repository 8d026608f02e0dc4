import Courier.Proofs.Forms
import Courier.Proofs.Independence
import Courier.Proofs.Layers
import Courier.Proofs.Origin

/-!
# Parameters in targets

The parameters of a request without a body travel in the query of its target, behind the query that
its URL has already.  A server finds the query behind the first `?` of the target, because no path
holds that sign, and reads it as a form.

* `Url.Separated` — a URL whose path and query are without the signs at which they end.
* `Url.separated_of_parse` — every URL that has been read is separated.
* `Url.targetQuery?_localTarget` — a server finds the query of the URL.
* `Transport.target_carries_parameters` — **what a server reads** are the pairs of the URL and then
  the parameters, one for one.
-/

namespace Courier

open Result (bind_eq_ok_iff)

namespace Url

/-! ## Signs that end a path or a query -/

/-- A text that may stand in a path. -/
def PathText (cs : List Char) : Prop := ∀ c ∈ cs, isPathChar c = true

theorem pathText_append {cs ds : List Char} (hcs : PathText cs) (hds : PathText ds) :
    PathText (cs ++ ds) := List.forall_mem_append.2 ⟨hcs, hds⟩

theorem pathText_takeWhile (cs : List Char) : PathText (cs.takeWhile isPathChar) :=
  fun _ hc => List.mem_takeWhile_imp hc

/-- Characters of a form may stand in a path. -/
theorem isPathChar_of_isFormChar {c : Char} (h : isFormChar c = true) : isPathChar c = true := by
  cases hc : isPathChar c with
  | true => rfl
  | false =>
    have hsign : c = '?' ∨ c = '#' := by simpa [isPathChar, or_iff_not_imp_left] using hc
    rcases hsign with rfl | rfl
    · exact absurd h (by decide)
    · exact absurd h (by decide)

/-- What an escaped text consists of: escapes, and characters that are not escaped. -/
theorem of_mem_escape {set : Char → Bool} {cs : List Char} {d : Char} (h : d ∈ escape set cs) :
    (d = '%' ∨ isFormChar d = true) ∨ d ∈ cs ∧ set d = false := by
  obtain ⟨c, hc, hd⟩ := List.mem_flatMap.1 h
  split at hd
  · exact Or.inl (mem_escapeWhole hd)
  · rename_i hset
    rw [List.mem_singleton.1 hd]
    exact Or.inr ⟨hc, by simpa using hset⟩

theorem pathText_escape {set : Char → Bool} {cs : List Char}
    (h : ∀ c ∈ cs, set c = false → isPathChar c = true) : PathText (escape set cs) := by
  intro d hd
  rcases of_mem_escape hd with (rfl | hform) | ⟨hmem, hset⟩
  · decide
  · exact isPathChar_of_isFormChar hform
  · exact h d hmem hset

/-- Escaped queries hold no sign at which a fragment begins. -/
theorem hash_notMem_escape (special : Bool) (cs : List Char) :
    '#' ∉ escape (inQuerySet special) cs := by
  intro h
  rcases of_mem_escape h with (hpercent | hform) | ⟨-, hset⟩
  · exact absurd hpercent (by decide)
  · exact absurd hform (by decide)
  · cases special <;> exact absurd hset (by decide)

/-- Pairs bring no such sign into a query. -/
theorem hash_notMem_appendForm {query : List Char} (h : '#' ∉ query)
    (pairs : List (String × String)) : '#' ∉ appendForm query pairs := by
  have htext : ∀ s, '#' ∉ formText s := fun s hs => absurd (mem_formText hs) (by decide)
  induction pairs generalizing query with
  | nil => exact h
  | cons p pairs ih =>
    refine ih ?_
    split
    · simp [formPair, htext]
    · simp [formPair, htext, h]

/-! ## Paths that have been read -/

theorem mem_foldl_enter {raw dir : List (List Char)} {s : List Char} (h : s ∈ raw.foldl enter dir) :
    s ∈ dir ∨ s ∈ raw := by
  induction raw generalizing dir with
  | nil => exact Or.inl h
  | cons first rest ih =>
    rcases ih h with hentered | hrest
    · rw [enter] at hentered
      split at hentered
      · rw [dropSegment] at hentered
        split at hentered
        · split at hentered
          · exact Or.inl hentered
          · exact Or.inl (List.dropLast_subset _ hentered)
        · exact Or.inl hentered
      · split at hentered
        · exact Or.inl hentered
        · rcases List.mem_append.1 hentered with hdir | hfirst
          · exact Or.inl hdir
          · exact Or.inr (List.mem_singleton.1 hfirst ▸ List.mem_cons_self)
    · exact Or.inr (List.mem_cons_of_mem _ hrest)

/-- The segments of a path are those that were read, or empty. -/
theorem mem_resolveFrom {raw : List (List Char)} {s : List Char} (h : s ∈ resolveFrom [] raw) :
    s ∈ raw ∨ s = [] := by
  rw [resolveFrom_eq] at h
  rcases List.mem_append.1 h with hentered | hlast
  · rcases mem_foldl_enter hentered with hnil | hraw
    · cases hnil
    · exact Or.inl hraw
  · split at hlast
    · exact Or.inr (List.mem_singleton.1 hlast)
    · cases hlast

theorem pathText_readSegments (special : Bool) (cs : List Char) :
    ∀ s ∈ readSegments special [] cs, PathText s := by
  intro s hs
  rcases mem_resolveFrom hs with hraw | rfl
  · obtain ⟨part, -, rfl⟩ := List.mem_map.1 hraw
    refine pathText_escape ?_
    intro c _ hset
    have hsigns : c ≠ '?' ∧ c ≠ '#' := by
      constructor
      all_goals
        rintro rfl
        exact absurd hset (by decide)
    simpa [isPathChar] using hsigns
  · exact List.forall_mem_nil _

theorem pathText_segments {parts : List (List Char)} (h : ∀ s ∈ parts, PathText s) :
    PathText (Path.segments parts).text := by
  intro c hc
  obtain ⟨s, hs, hcs⟩ := List.mem_flatMap.1 hc
  rcases List.mem_cons.1 hcs with rfl | hcs
  · decide
  · exact h s hs c hcs

theorem pathText_readPath (special : Bool) (cs : List Char) :
    PathText (readPath special cs).text := by
  rw [readPath]
  split
  · simp [PathText, Path.text]
  · exact pathText_segments (pathText_readSegments special _)

theorem pathText_readFilePath (cs : List Char) : PathText (readFilePath cs).text := by
  have hpath := pathText_readPath true cs
  rw [readFilePath]
  split
  · rename_i s rest hsegments
    rw [hsegments] at hpath
    obtain ⟨hs, hrest⟩ := List.forall_mem_append.1 hpath
    refine @pathText_append ('/' :: _) _ ?_ hrest
    obtain ⟨hslash, hs⟩ := List.forall_mem_cons.1 hs
    refine List.forall_mem_cons.2 ⟨hslash, ?_⟩
    split
    · refine pathText_append (fun c hc => hs c (List.mem_of_mem_take hc)) ?_
      intro c hc
      rw [List.mem_singleton.1 hc]
      decide
    · exact hs
  · exact hpath

/-! ## URLs that have been read -/

/-- A URL whose path and query are without the signs at which they end in a text. -/
structure Separated (u : Url) : Prop where
  path : PathText u.path.text
  query : ∀ q, u.query = some q → '#' ∉ q

theorem separated_withTail {u : Url} (h : PathText u.path.text) (special : Bool) (cs : List Char) :
    (withTail u special cs).Separated := by
  refine ⟨by rwa [path_withTail], ?_⟩
  unfold withTail
  split
  · intro q hq
    cases hq
    exact hash_notMem_escape special _
  · nofun

theorem separated_readAfterSlashes {scheme cs : List Char} {u : Url}
    (h : readAfterSlashes scheme cs = .ok u) : u.Separated := by
  unfold readAfterSlashes at h
  obtain ⟨⟨authority, rest⟩, -, h⟩ := bind_eq_ok_iff.1 h
  cases h
  exact separated_withTail (pathText_readPath _ _) _ _

theorem separated_readPlain (scheme cs : List Char) : (readPlain scheme cs).Separated := by
  refine separated_withTail ?_ false _
  have htext := pathText_takeWhile cs
  split
  · exact pathText_segments (pathText_readSegments false _)
  · exact pathText_escape fun c hc _ => htext c hc

theorem separated_readFile {cs : List Char} {u : Url} (h : readFile cs = .ok u) : u.Separated := by
  unfold readFile at h
  simp only at h
  split at h
  · split at h
    · split at h
      · cases h
        exact separated_withTail (pathText_readFilePath _) true _
      · obtain ⟨host, -, h⟩ := bind_eq_ok_iff.1 h
        cases h
        exact separated_withTail (pathText_readFilePath _) true _
    · cases h
      exact separated_withTail (pathText_readFilePath _) true _
  · cases h
    exact separated_withTail (pathText_readFilePath _) true _

/-- **Every URL that has been read is separated.** -/
theorem separated_of_parse {cs : List Char} {u : Url} (h : parse cs = .ok u) : u.Separated := by
  unfold parse at h
  split at h
  · unfold readWithScheme at h
    split at h
    · exact separated_readFile h
    · exact separated_readAfterSlashes h
    · split at h
      · exact separated_readAfterSlashes h
      · cases h
        exact separated_readPlain _ _
  · cases h

/-! ## Targets -/

/-- The query of a target: what stands behind its first `?`, up to a `#`. -/
def targetQuery? (target : List Char) : Option (List Char) :=
  match target.dropWhile isPathChar with
  | '?' :: rest => some (rest.takeWhile (· != '#'))
  | _ => none

/-- A server finds the query of a separated URL. -/
theorem targetQuery?_localTarget {u : Url} (h : u.Separated) :
    targetQuery? (Client.localTarget u) = u.query := by
  rw [targetQuery?, Client.localTarget, List.dropWhile_append_of_pos h.path, queryText]
  cases hquery : u.query with
  | none => rfl
  | some q =>
    have hsign : ∀ c ∈ q, (c != '#') = true := by
      intro c hc
      rw [bne_iff_ne]
      rintro rfl
      exact h.query q hquery hc
    rw [List.dropWhile_cons_of_neg (by decide)]
    exact congrArg some (List.takeWhile_eq_self_iff.2 hsign)

/-- The pairs of a query; none without a query. -/
def queryForm (query : Option (List Char)) : List (String × String) := readForm (query.getD [])

end Url

namespace Client

/-! ## The first hop -/

theorem path_start (client : Client) (p : Plan) (u : Url) :
    (client.start p u).url.path = u.path := by
  simp only [start]
  split <;> split <;> rfl

theorem query_start (client : Client) (p : Plan) (u : Url) :
    (client.start p u).url.query =
      if p.query = [] then u.query else some (Url.appendForm (u.query.getD []) p.query) := by
  simp only [start]
  split <;> split <;> rfl

theorem separated_start (client : Client) (p : Plan) {u : Url} (h : u.Separated) :
    (client.start p u).url.Separated := by
  refine ⟨by rw [path_start]; exact h.path, ?_⟩
  intro q hq
  rw [query_start] at hq
  split at hq
  · exact h.query q hq
  · cases hq
    refine Url.hash_notMem_appendForm ?_ p.query
    cases hquery : u.query with
    | none => nofun
    | some old => exact h.query old hquery

/-- The query of the first hop has the pairs of the URL, and then those of the plan. -/
theorem queryForm_start (client : Client) (p : Plan) (u : Url) :
    Url.queryForm (client.start p u).url.query = Url.queryForm u.query ++ p.query := by
  rw [query_start]
  split
  · rename_i hnone
    rw [hnone, List.append_nil]
  · exact Url.readForm_appendForm _ _

/-! ## Messages to a server -/

/-- Without a proxy, the message of a hop has the target of its URL. -/
theorem eq_message_of_deliver {client : Client} (hproxy : client.proxy = none) {h : Hop}
    {n : Network} {m : Http.Message} (hsent : (client.deliver h n).2 = n.offer m) :
    m = message h (localTarget h.url) := by
  have hkept : n ≠ n.offer m := (n.offer_ne m).symm
  unfold deliver at hsent
  split at hsent
  · rename_i host port hhost hport
    simp only [hproxy] at hsent
    rcases n.exchange_cases (h.url.scheme == "https".toList) host port
      (message h (localTarget h.url)) with hserved | hrefused
    · rw [hserved] at hsent
      have hone : [message h (localTarget h.url)] = [m] := Network.eq_of_offerAll_eq hsent
      exact (List.cons.inj hone).1.symm
    · rw [hrefused] at hsent
      exact absurd hsent hkept
  · exact absurd hsent hkept

/-- Without a proxy, the direct attempts of a plan send the message of its first hop. -/
theorem send_snd_of_direct {client : Client} (hproxy : client.proxy = none) {p : Plan} {h : Hop}
    (hbegin : client.begin? p = some h) {n : Network} (hdirect : client.Direct p n) :
    (client.send p n).2 = n.offer (message h (localTarget h.url)) := by
  obtain ⟨first, hfirst, ⟨m, hsent⟩, hstay⟩ := hdirect.stays
  obtain rfl : h = first := Option.some.inj (hbegin.symm.trans hfirst)
  rw [send_snd hbegin, follow_snd_of_not_follows hstay, hsent,
    eq_message_of_deliver hproxy hsent]

end Client

/-! ## Parameters -/

namespace Plan

/-- Parameters without any value have no pairs. -/
theorem queryPairs_eq_nil {parameters : Parameters} (h : ∀ q ∈ parameters, q.2 = .null) :
    queryPairs parameters = [] := by
  refine List.filterMap_eq_nil_iff.2 ?_
  intro q hq
  rw [render?_eq_none_iff.2 (h q hq)]
  rfl

/-- Without a body, the parameters are in the query. -/
theorem placement_of_bodiless {method : Http.Method} (h : method.hasBody = false)
    (parameters : Option Parameters) :
    placement method parameters = (queryPairs (parameters.getD ∅), none) := by
  cases parameters with
  | none => rfl
  | some ps => simp [placement, h]

end Plan

namespace Transport

variable {ρ : Type} [Request ρ]

theorem query_of_prepare {t : Transport} {r : ρ} {s : Surroundings} {requestId : String} {p : Plan}
    (hmethod : (Request.method r).hasBody = false) (h : t.prepare r s requestId = .ok p) :
    p.query = Plan.queryPairs ((Request.parameters r).getD ∅) := by
  cases prepare_eq_iff.1 h with
  | planned hpath hresolves hmerge => rw [Plan.withHeaders, Plan.placement_of_bodiless hmethod]

/-- The same request without parameters. -/
def withoutParameters (r : ρ) : Descriptor := { Descriptor.capture r with parameters := none }

/-- Parameters that are all `null` are as good as none. -/
theorem makePlan_withoutParameters {r : ρ} (hmethod : (Request.method r).hasBody = false)
    (hnull : ∀ ps, Request.parameters r = some ps → ∀ q ∈ ps, q.2 = .null)
    (t : Transport) (s : Surroundings) (requestId : String) :
    t.makePlan r s requestId = t.makePlan (withoutParameters r) s requestId := by
  have hplacement : Plan.placement (Request.method r) (Request.parameters r) =
      Plan.placement (Request.method r) none := by
    cases hps : Request.parameters r with
    | none => rfl
    | some ps =>
      rw [Plan.placement_of_bodiless hmethod, Option.getD_some,
        Plan.queryPairs_eq_nil (hnull ps hps), Plan.placement]
  have hof : ∀ k, Plan.of t.config r k requestId =
      Plan.of t.config (withoutParameters r) k requestId := by
    intro k
    simp only [Plan.of, hplacement]
    rfl
  rw [makePlan, makePlan]
  simp only [hof]
  rfl

/-- **What a server reads of a request without a body**: of every message that its first hop sends
there without a proxy, and so of all messages of a dispatch that is answered directly, the query is
a form with the pairs of the joined URL and then those of the parameters, one for one.  Without any
value among the parameters, the dispatch is that of the request without parameters. -/
theorem target_carries_parameters (t : Transport) (hproxy : t.client.proxy = none) (r : ρ)
    (hmethod : (Request.method r).hasBody = false) (s : Surroundings) (requestId : String) :
    (∀ p h, t.prepare r s requestId = .ok p → t.client.begin? p = some h →
      ∃ u, Url.parse (Plan.joinUrl t.config.baseUrl (Request.path r)).toList = .ok u ∧
        (∀ n m, (t.client.deliver h n).2 = n.offer m →
          Url.queryForm (Url.targetQuery? m.target) =
            Url.queryForm u.query ++ Plan.queryPairs ((Request.parameters r).getD ∅)) ∧
        ∀ n, t.AllDirect p n →
          ∃ k m, (t.dispatch r s requestId n).rest = n.offerAll (List.replicate (k + 1) m) ∧
            (t.dispatch r s requestId n).rest.received =
              n.received ++ List.replicate (k + 1) m ∧
            Url.queryForm (Url.targetQuery? m.target) =
              Url.queryForm u.query ++ Plan.queryPairs ((Request.parameters r).getD ∅)) ∧
      ((∀ ps, Request.parameters r = some ps → ∀ q ∈ ps, q.2 = .null) → ∀ n,
        t.dispatch r s requestId n = t.dispatch (withoutParameters r) s requestId n) := by
  constructor
  · intro p h hprepare hbegin
    have hquery := query_of_prepare hmethod hprepare
    obtain ⟨-, hurl⟩ := url_of_prepare hprepare
    obtain ⟨u, hu, rfl⟩ := Client.exists_start_of_begin? hbegin
    rw [hurl] at hu
    have hform : Url.queryForm (Url.targetQuery?
        (Client.localTarget (t.client.start p u).url)) =
          Url.queryForm u.query ++ Plan.queryPairs ((Request.parameters r).getD ∅) := by
      rw [Url.targetQuery?_localTarget
        (t.client.separated_start p (Url.separated_of_parse hu)), Client.queryForm_start, hquery]
    refine ⟨u, hu, ?_, ?_⟩
    · intro n m hsent
      rw [Client.eq_message_of_deliver hproxy hsent]
      exact hform
    · intro n hdirect
      obtain ⟨k, -, hrest, htaken, -⟩ := dispatch_of_allDirect hprepare hdirect
        fun _ => Client.send_snd_of_direct hproxy hbegin
      refine ⟨k, _, hrest, ?_, hform⟩
      rw [hrest, Network.received_offerAll, htaken]
  · intro hnull n
    rw [dispatch, dispatch, makePlan_withoutParameters hmethod hnull]

/-- A request whose path has a query and a fragment, and whose parameters hold the signs of both. -/
def forgingRequest : Descriptor :=
  let parameters : Parameters := .ofList
    [("&k=1", .string "v&admin=true#"), ("n", .null), ("p+q", .string "100% é\n"), ("z", .bool true)]
  (((Descriptor.new "/users?a=b%20c&#top").withMethod .delete).withAuthenticated
    false).withParameters parameters

/-- Each of the three parameters that have a value is read as one pair, on both attempts. -/
theorem target_carries_parameters_of_forgingRequest :
    toLocalServer.client.proxy = none ∧ (Request.method forgingRequest).hasBody = false ∧
      ∃ p k m, toLocalServer.prepare forgingRequest ⟨[], []⟩ "id-1" = .ok p ∧
        toLocalServer.AllDirect p unavailableOnce ∧
        (toLocalServer.dispatch forgingRequest ⟨[], []⟩ "id-1" unavailableOnce).rest.received =
          List.replicate (k + 1) m ∧
        Url.queryForm (Url.targetQuery? m.target) =
          [("a", "b c"), ("&k=1", "v&admin=true#"), ("p+q", "100% é\n"), ("z", "true")] := by
  have hmethod : (Request.method forgingRequest).hasBody = false := rfl
  obtain ⟨hparameters, -⟩ :=
    target_carries_parameters toLocalServer rfl forgingRequest hmethod ⟨[], []⟩ "id-1"
  obtain ⟨p, hp⟩ : ∃ p, toLocalServer.prepare forgingRequest ⟨[], []⟩ "id-1" = .ok p :=
    Result.exists_of_isOk (by decide +kernel)
  have hplace : ((toLocalServer.prepare forgingRequest ⟨[], []⟩ "id-1").toOption.bind
      toLocalServer.client.begin?).map (fun h => (h.url.host?, h.url.port?, h.url.scheme)) =
      some (some (.address4 0x7F000001), some 18080, "http".toList) := by decide +kernel
  have hjoined : (Url.parse (Plan.joinUrl toLocalServer.config.baseUrl
      (Request.path forgingRequest)).toList).toOption.map (fun u => Url.queryForm u.query) =
      some [("a", "b c")] := by decide +kernel
  rw [hp] at hplace
  obtain ⟨h, hbegin, hurl⟩ := Option.map_eq_some_iff.1 hplace
  have hdirect : toLocalServer.AllDirect p unavailableOnce :=
    allDirect_of_reaches hbegin (reaches_unavailableOnce hurl) (by decide)
  obtain ⟨u, hu, -, hdispatch⟩ := hparameters p h hp hbegin
  obtain ⟨k, m, -, hreceived, hform⟩ := hdispatch unavailableOnce hdirect
  refine ⟨rfl, hmethod, p, k, m, hp, hdirect, hreceived, ?_⟩
  rw [hu] at hjoined
  have hbase : Url.queryForm u.query = [("a", "b c")] := Option.some.inj hjoined
  rw [hform, hbase]
  decide +kernel

end Transport

end Courier
