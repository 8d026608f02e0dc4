import Courier.Proofs.ByteOrder
import Courier.Proofs.Validation

/-!
# Which header is blamed

A request's own headers are merged in the order of their names, and merging stops at the first one
that cannot stand.  Which one that is depends on the headers alone, and not on the order in which
they arrive.

* `Plan.Offends`, `Plan.IsLeastOffender` — what is wrong with a header, told of all of them at once.
* `Plan.ownHeaders_step` — one header is set unless it offends.
* `Plan.ownHeaders_run` — all are set, or the least offender is blamed.
* `Plan.mergeHeaders_blames_least` — **when merging fails, and whom it blames**.
-/

namespace Courier

namespace Plan

open Result (ok_bind bind_eq_ok_iff)
open Text.Utf8 (bytesOf bytesOf_lt_iff)

/-! ## Offenders -/

/-- What is wrong with one header among others. -/
inductive Offends (entries : List (String × Json.Value)) (e : String × Json.Value) : Prop where
  /-- Its name is none. -/
  | badName (hname : Http.isName e.1 = false)
  /-- Its name differs in case only from one whose bytes come before; the values do not count. -/
  | collides {other : String × Json.Value} (hother : other ∈ entries)
      (hbefore : bytesOf other.1 < bytesOf e.1) (hsame : Http.lower other.1 = Http.lower e.1)
  /-- Its value has a text that cannot stand in a header. -/
  | badValue {text : String} (htext : render? e.2 = some text) (hbad : Http.isValue text = false)

/-- The offender whose name comes first in the order of bytes. -/
structure IsLeastOffender (entries : List (String × Json.Value)) (e : String × Json.Value) :
    Prop where
  mem : e ∈ entries
  offends : Offends entries e
  least : ∀ e' ∈ entries, Offends entries e' → e' ≠ e → bytesOf e.1 < bytesOf e'.1

/-- Whether an error blames a header: it names the header as written and, where that collides with
an earlier one, the spelling of the earlier one. -/
def Blames (entries : List (String × Json.Value)) (e : String × Json.Value) (error : Error) :
    Prop :=
  ∃ message context, error = .validation message context ∧
    context.fieldPath = some ("request.header." ++ e.1) ∧
    context.source = some "header_merge" ∧
    (Http.isName e.1 = true → ∀ other ∈ entries, bytesOf other.1 < bytesOf e.1 →
      Http.lower other.1 = Http.lower e.1 →
        context.details = some ("collides with header " ++ Text.quoted other.1))

section

variable {entries entries' : List (String × Json.Value)} {e : String × Json.Value}

theorem Offends.mono (h : ∀ e, e ∈ entries → e ∈ entries') (he : Offends entries e) :
    Offends entries' e := by
  cases he with
  | badName hname => exact .badName hname
  | collides hother hbefore hsame => exact .collides (h _ hother) hbefore hsame
  | badValue htext hbad => exact .badValue htext hbad

theorem offends_congr (h : ∀ e, e ∈ entries ↔ e ∈ entries') :
    Offends entries e ↔ Offends entries' e :=
  ⟨.mono fun e => (h e).1, .mono fun e => (h e).2⟩

theorem IsLeastOffender.congr (h : ∀ e, e ∈ entries ↔ e ∈ entries')
    (he : IsLeastOffender entries e) : IsLeastOffender entries' e where
  mem := (h e).1 he.mem
  offends := (offends_congr h).1 he.offends
  least e' hmem hoffends := he.least e' ((h e').2 hmem) ((offends_congr h).2 hoffends)

theorem Blames.congr {error : Error} (h : ∀ e, e ∈ entries ↔ e ∈ entries')
    (he : Blames entries e error) : Blames entries' e error := by
  obtain ⟨message, context, rfl, hpath, hsource, hdetails⟩ := he
  refine ⟨message, context, rfl, hpath, hsource, ?_⟩
  intro hname other hother
  exact hdetails hname other ((h other).2 hother)

end

/-! ## Names that have been met -/

/-- The names of headers in lower case and as written, the latest first. -/
def spellings (front : List (String × Json.Value)) : List (String × String) :=
  (front.map fun e => (Http.lower e.1, e.1)).reverse

theorem spellings_append (front : List (String × Json.Value)) (e : String × Json.Value) :
    spellings (front ++ [e]) = (Http.lower e.1, e.1) :: spellings front := by
  simp [spellings]

theorem exists_of_lookup_spellings {front : List (String × Json.Value)} {n other : String}
    (h : (spellings front).lookup n = some other) :
    ∃ e ∈ front, Http.lower e.1 = n ∧ e.1 = other := by
  obtain ⟨later, earlier, hsplit, -⟩ := List.lookup_eq_some_iff.1 h
  have hmem : (n, other) ∈ spellings front := by simp [hsplit]
  obtain ⟨e, he, heq⟩ := List.mem_map.1 (List.mem_reverse.1 hmem)
  exact ⟨e, he, Prod.mk.inj heq⟩

theorem lookup_spellings_eq_none {front : List (String × Json.Value)} {n : String}
    (h : (spellings front).lookup n = none) {e : String × Json.Value} (he : e ∈ front) :
    Http.lower e.1 ≠ n := by
  rw [List.lookup_eq_none_iff] at h
  have hne := h (Http.lower e.1, e.1) (List.mem_reverse.2 (List.mem_map_of_mem he))
  exact (bne_iff_ne.1 hne).symm

/-! ## Setting headers in turn -/

theorem blames_headerError {entries : List (String × Json.Value)} {e : String × Json.Value}
    {details : String}
    (h : Http.isName e.1 = true → ∀ other ∈ entries, bytesOf other.1 < bytesOf e.1 →
      Http.lower other.1 = Http.lower e.1 →
        details = "collides with header " ++ Text.quoted other.1) :
    Blames entries e (headerError e.1 details) := by
  refine ⟨_, _, rfl, rfl, rfl, ?_⟩
  intro hname other hother hbefore hsame
  exact congrArg some (h hname other hother hbefore hsame)

section

variable {seen : List (String × String)} {name : String} {value : Json.Value}
  {rest : List (String × Json.Value)} {headers : Http.Headers}

/-- A text that is no name is refused. -/
theorem ownHeaders_of_badName (hname : Http.isName name = false) :
    ownHeaders seen ((name, value) :: rest) headers = .error (headerError name badHeaderName) := by
  rw [ownHeaders_cons, headerName, Http.name?, hname]
  rfl

/-- A name that has been met is refused. -/
theorem ownHeaders_of_met {previous : String} (hname : Http.isName name = true)
    (hmet : seen.lookup (Http.lower name) = some previous) :
    ownHeaders seen ((name, value) :: rest) headers =
      .error (headerError name ("collides with header " ++ Text.quoted previous)) := by
  rw [ownHeaders_cons, headerName_eq_ok_iff.2 ⟨hname, rfl⟩, ok_bind]
  simp only [hmet]

/-- A value that cannot stand in a header is refused. -/
theorem ownHeaders_of_badValue {text : String} (hname : Http.isName name = true)
    (hnew : seen.lookup (Http.lower name) = none) (htext : render? value = some text)
    (hbad : Http.isValue text = false) :
    ownHeaders seen ((name, value) :: rest) headers =
      .error (headerError name Config.badHeaderValue) := by
  rw [ownHeaders_cons_of_new hname hnew, htext, putOptional, putHeader,
    headerName_eq_ok_iff.2 ⟨hname, rfl⟩, ok_bind, hbad]
  rfl

end

section

variable {front rest : List (String × Json.Value)} {e : String × Json.Value}

/-- Among headers in order, those whose bytes come before one are those in front of it. -/
theorem mem_front_of_before (h : Entries.Increasing (front ++ e :: rest))
    {other : String × Json.Value} (hother : other ∈ front ++ e :: rest)
    (hbefore : bytesOf other.1 < bytesOf e.1) : other ∈ front := by
  obtain ⟨-, hbehind, -⟩ := List.pairwise_append.1 h
  have hlt := bytesOf_lt_iff.1 hbefore
  rcases List.mem_append.1 hother with hfront | hother
  · exact hfront
  · rcases List.mem_cons.1 hother with rfl | hrest
    · exact absurd hlt (String.lt_irrefl _)
    · exact absurd ((List.pairwise_cons.1 hbehind).1 other hrest) (String.lt_asymm hlt)

theorem before_of_mem_front (h : Entries.Increasing (front ++ e :: rest))
    {other : String × Json.Value} (hother : other ∈ front) : bytesOf other.1 < bytesOf e.1 :=
  bytesOf_lt_iff.2 ((List.pairwise_append.1 h).2.2 other hother e List.mem_cons_self)

/-- Of headers that do not offend, no two differ in case only. -/
theorem eq_of_lower_eq (hclean : ∀ f ∈ front, ¬Offends (front ++ e :: rest) f)
    {a b : String × Json.Value} (ha : a ∈ front) (hb : b ∈ front)
    (hsame : Http.lower a.1 = Http.lower b.1) : a.1 = b.1 := by
  by_contra hne
  have hmem : ∀ f ∈ front, f ∈ front ++ e :: rest := fun f hf => List.mem_append_left _ hf
  by_cases hlt : a.1 < b.1
  · exact hclean b hb (.collides (hmem a ha) (bytesOf_lt_iff.2 hlt) hsame)
  · have hle : b.1 ≤ a.1 := String.not_lt.1 hlt
    have hlt' : b.1 < a.1 := String.not_le.1 fun hle' => hne (String.le_antisymm hle' hle)
    exact hclean a ha (.collides (hmem b hb) (bytesOf_lt_iff.2 hlt') hsame.symm)

/-- **One header.**  Behind headers that do not offend, a header is set and the next ones come, or
it offends and is blamed. -/
theorem ownHeaders_step (h : Entries.Increasing (front ++ e :: rest))
    (hclean : ∀ f ∈ front, ¬Offends (front ++ e :: rest) f) (headers : Http.Headers) :
    (¬Offends (front ++ e :: rest) e ∧ ∃ next,
        ownHeaders (spellings front) (e :: rest) headers =
          ownHeaders (spellings (front ++ [e])) rest next) ∨
      Offends (front ++ e :: rest) e ∧ ∃ error,
        ownHeaders (spellings front) (e :: rest) headers = .error error ∧
          Blames (front ++ e :: rest) e error := by
  obtain ⟨name, value⟩ := e
  cases hname : Http.isName name with
  | false =>
    refine Or.inr ⟨.badName hname, _, ownHeaders_of_badName hname, blames_headerError ?_⟩
    intro hname'
    rw [hname] at hname'
    cases hname'
  | true =>
    cases hmet : (spellings front).lookup (Http.lower name) with
    | some previous =>
      obtain ⟨earlier, hearlier, hsame, rfl⟩ := exists_of_lookup_spellings hmet
      have hoffends : Offends (front ++ (name, value) :: rest) (name, value) :=
        .collides (List.mem_append_left _ hearlier) (before_of_mem_front h hearlier) hsame
      refine Or.inr ⟨hoffends, _, ownHeaders_of_met hname hmet, blames_headerError ?_⟩
      intro _ other hother hbefore hsame'
      have hfront := mem_front_of_before h hother hbefore
      rw [eq_of_lower_eq hclean hfront hearlier (hsame'.trans hsame.symm)]
    | none =>
      have halone : ∀ other ∈ front ++ (name, value) :: rest, bytesOf other.1 < bytesOf name →
          Http.lower other.1 ≠ Http.lower name := fun other hother hbefore =>
        lookup_spellings_eq_none hmet (mem_front_of_before h hother hbefore)
      by_cases hvalue : ∀ text ∈ render? value, Http.isValue text = true
      · obtain ⟨next, hnext⟩ := (exists_putOptional_iff headers hname).2 hvalue
        refine Or.inl ⟨?_, next, ?_⟩
        · intro hoffends
          cases hoffends with
          | badName hbad => exact absurd hname (by simp [hbad])
          | collides hother hbefore hsame => exact halone _ hother hbefore hsame
          | badValue htext hbad => exact absurd (hvalue _ htext) (by simp [hbad])
        · rw [ownHeaders_cons_of_new hname hmet, hnext, ok_bind, spellings_append]
      · simp only [not_forall, Bool.not_eq_true] at hvalue
        obtain ⟨text, htext, hbad⟩ := hvalue
        refine Or.inr ⟨.badValue htext hbad, _, ownHeaders_of_badValue hname hmet htext hbad,
          blames_headerError ?_⟩
        intro _ other hother hbefore hsame
        exact absurd hsame (halone other hother hbefore)

end

/-- **All headers.**  Headers in order are all set and none offends, or the least offender is
blamed. -/
theorem ownHeaders_run {entries front own : List (String × Json.Value)}
    (h : Entries.Increasing entries) (hall : entries = front ++ own)
    (hclean : ∀ f ∈ front, ¬Offends entries f) (headers : Http.Headers) :
    (∃ headers', ownHeaders (spellings front) own headers = .ok headers') ∧
        (∀ e ∈ own, ¬Offends entries e) ∨
      ∃ e, IsLeastOffender entries e ∧ ∃ error,
        ownHeaders (spellings front) own headers = .error error ∧ Blames entries e error := by
  induction own generalizing front headers with
  | nil =>
    rw [ownHeaders_nil]
    exact Or.inl ⟨⟨headers, rfl⟩, List.forall_mem_nil _⟩
  | cons e rest ih =>
    subst hall
    rcases ownHeaders_step h hclean headers with ⟨hstands, next, hnext⟩ | ⟨hoffends, error, he⟩
    · rw [hnext]
      have hclean' : ∀ f ∈ front ++ [e], ¬Offends (front ++ e :: rest) f :=
        List.forall_mem_append.2 ⟨hclean, List.forall_mem_singleton.2 hstands⟩
      rcases ih (by simp) hclean' next with ⟨hok, hrest⟩ | hblamed
      · exact Or.inl ⟨hok, List.forall_mem_cons.2 ⟨hstands, hrest⟩⟩
      · exact Or.inr hblamed
    · refine Or.inr ⟨e, ⟨List.mem_append_right _ List.mem_cons_self, hoffends, ?_⟩, error, he⟩
      intro e' he' hoffends' hne
      have hrest : e' ∈ rest := by
        rcases List.mem_append.1 he' with hfront | hbehind
        · exact absurd hoffends' (hclean e' hfront)
        · exact (List.mem_cons.1 hbehind).resolve_left hne
      obtain ⟨-, hbehind, -⟩ := List.pairwise_append.1 h
      exact bytesOf_lt_iff.2 ((List.pairwise_cons.1 hbehind).1 e' hrest)

/-! ## Merging -/

theorem exists_credentialHeaders_iff (headers : Http.Headers) (credential : Option Credential) :
    (∃ headers', (putOptional headers "authorization"
        (credential.map fun k => "Bearer " ++ k.accessToken) >>= fun headers =>
          putOptional headers sessionHeader (credential.map (·.sessionId))) = .ok headers') ↔
      ∀ k ∈ credential, Http.isValue ("Bearer " ++ k.accessToken) = true ∧
        Http.isValue k.sessionId = true := by
  have htokenName : Http.isName "authorization" = true := by decide
  have hsessionName : Http.isName sessionHeader = true := by decide
  constructor
  · rintro ⟨headers', h⟩ k rfl
    obtain ⟨withToken, htoken, hsession⟩ := bind_eq_ok_iff.1 h
    exact ⟨(exists_putOptional_iff headers htokenName).1 ⟨_, htoken⟩ _ rfl,
      (exists_putOptional_iff withToken hsessionName).1 ⟨_, hsession⟩ _ rfl⟩
  · intro h
    have hvalues : (∀ v ∈ credential.map fun k => "Bearer " ++ k.accessToken,
          Http.isValue v = true) ∧ ∀ v ∈ credential.map (·.sessionId), Http.isValue v = true := by
      cases credential with
      | none => exact ⟨by simp, by simp⟩
      | some k => exact ⟨by simpa using (h k rfl).1, by simpa using (h k rfl).2⟩
    obtain ⟨withToken, htoken⟩ := (exists_putOptional_iff headers htokenName).2 hvalues.1
    rw [htoken, ok_bind]
    exact (exists_putOptional_iff withToken hsessionName).2 hvalues.2

/-- Under a configuration that can be sent, either no header offends, and the headers of the
credential decide, or the least offender is blamed. -/
theorem mergeHeaders_cases {c : Config} (hc : c.Sendable) (hasBody : Bool) (version : UInt32)
    (own : Table Json.Value) (credential : Option Credential) {requestId : String}
    (hid : Http.isValue requestId = true) :
    (∀ e ∈ own, ¬Offends own.entries e) ∧
        ((∃ headers, mergeHeaders c hasBody version own credential requestId = .ok headers) ↔
          ∀ k ∈ credential, Http.isValue ("Bearer " ++ k.accessToken) = true ∧
            Http.isValue k.sessionId = true) ∨
      ∃ e, IsLeastOffender own.entries e ∧ ∃ error,
        mergeHeaders c hasBody version own credential requestId = .error error ∧
          Blames own.entries e error := by
  obtain ⟨defaults, hdefaults⟩ := exists_defaultHeaders hc hasBody hid
  rw [mergeHeaders_eq, hdefaults, ok_bind]
  have hclean : ∀ f ∈ ([] : List (String × Json.Value)), ¬Offends own.entries f :=
    List.forall_mem_nil _
  rcases ownHeaders_run own.increasing (List.nil_append _).symm hclean defaults with
    ⟨⟨merged, hmerged⟩, hstand⟩ | ⟨e, hleast, error, hblamed, hblames⟩
  · have hmerged' : ownHeaders [] own.entries defaults = .ok merged := hmerged
    obtain ⟨versioned, hversioned⟩ := exists_putVersion merged hc version
    rw [hmerged', ok_bind, hversioned, ok_bind]
    exact Or.inl ⟨hstand, exists_credentialHeaders_iff versioned credential⟩
  · have hblamed' : ownHeaders [] own.entries defaults = .error error := hblamed
    rw [hblamed']
    exact Or.inr ⟨e, hleast, error, rfl, hblames⟩

/-- **When merging fails, and whom it blames.**  Let the configuration and the id be such as can be
sent, and let the request's own headers arrive in any order.  Merging fails if and only if one of
them offends or a header of the credential has no value that can stand.  If any of them offends, the
least offender is blamed, by its name as written and with the earlier spelling that it collides
with.  In every other order the result is the same. -/
theorem mergeHeaders_blames_least {c : Config} (hc : c.Sendable) (hasBody : Bool)
    (version : UInt32) {entries : List (String × Json.Value)}
    (hnames : (entries.map Prod.fst).Nodup) (credential : Option Credential) {requestId : String}
    (hid : Http.isValue requestId = true) :
    ((∃ error, mergeHeaders c hasBody version (.ofList entries) credential requestId =
          .error error) ↔
        (∃ e ∈ entries, Offends entries e) ∨
          ∃ k ∈ credential, Http.isValue ("Bearer " ++ k.accessToken) = false ∨
            Http.isValue k.sessionId = false) ∧
      ((∃ e ∈ entries, Offends entries e) → ∃ e, IsLeastOffender entries e ∧ ∃ error,
        mergeHeaders c hasBody version (.ofList entries) credential requestId = .error error ∧
          Blames entries e error) ∧
      ∀ entries', entries.Perm entries' →
        mergeHeaders c hasBody version (.ofList entries') credential requestId =
          mergeHeaders c hasBody version (.ofList entries) credential requestId := by
  have hmem := Table.mem_ofList_iff hnames
  refine ⟨?_, ?_, ?_⟩
  · rcases mergeHeaders_cases hc hasBody version (.ofList entries) credential hid
      with ⟨hstand, hiff⟩ | ⟨e, hleast, error, herror, -⟩
    · have hnone : ¬∃ e ∈ entries, Offends entries e := by
        rintro ⟨e, he, hoffends⟩
        exact hstand e ((hmem e).2 he) ((offends_congr hmem).2 hoffends)
      rw [or_iff_right hnone, ← Result.not_exists_ok_iff, hiff]
      simp only [not_forall, not_and_or, Bool.not_eq_true, exists_prop]
    · exact iff_of_true ⟨error, herror⟩
        (Or.inl ⟨e, (hmem e).1 hleast.mem, (offends_congr hmem).1 hleast.offends⟩)
  · rintro ⟨e, he, hoffends⟩
    rcases mergeHeaders_cases hc hasBody version (.ofList entries) credential hid
      with ⟨hstand, -⟩ | ⟨least, hleast, error, herror, hblames⟩
    · exact absurd ((offends_congr hmem).2 hoffends) (hstand e ((hmem e).2 he))
    · exact ⟨least, hleast.congr hmem, error, herror, hblames.congr hmem⟩
  · intro entries' hperm
    rw [Table.ofList_eq_of_perm hnames hperm]

/-- Headers of which two offend: one that is `null` collides, and one has no name. -/
def quarrellingHeaders : List (String × Json.Value) :=
  [("zz bad", .bool true), ("x-label", .null), ("y-ok", .string "1"), ("X-Label", .string "upper")]

/-- The header that collides is blamed, in this order and in the opposite one. -/
theorem mergeHeaders_blames_least_of_quarrellingHeaders :
    (Config.new "http://127.0.0.1:18080").Sendable ∧
      (quarrellingHeaders.map Prod.fst).Nodup ∧ Http.isValue "id-1" = true ∧
      (∃ e ∈ quarrellingHeaders, Offends quarrellingHeaders e) ∧
      ∃ message context,
        mergeHeaders (.new "http://127.0.0.1:18080") false 3 (.ofList quarrellingHeaders) none
            "id-1" = .error (.validation message context) ∧
          mergeHeaders (.new "http://127.0.0.1:18080") false 3 (.ofList quarrellingHeaders.reverse)
            none "id-1" = .error (.validation message context) ∧
          context.fieldPath = some "request.header.x-label" ∧
          context.details = some "collides with header \"X-Label\"" := by
  have hc : (Config.new "http://127.0.0.1:18080").Sendable :=
    ⟨by decide, by decide, by rintro v ⟨⟩⟩
  have hnames : (quarrellingHeaders.map Prod.fst).Nodup := by decide
  have hid : Http.isValue "id-1" = true := by decide
  have hupper : ("X-Label", Json.Value.string "upper") ∈ quarrellingHeaders := by
    simp [quarrellingHeaders]
  have hlower : ("x-label", Json.Value.null) ∈ quarrellingHeaders := by simp [quarrellingHeaders]
  have hbefore : bytesOf "X-Label" < bytesOf "x-label" := by decide
  have hcollides : Offends quarrellingHeaders ("x-label", .null) :=
    .collides hupper hbefore (by decide)
  obtain ⟨-, hblames, horder⟩ := mergeHeaders_blames_least hc false 3 hnames none hid
  obtain ⟨e, hleast, error, herror, message, context, rfl, hpath, -, hdetails⟩ :=
    hblames ⟨_, hlower, hcollides⟩
  have heq : e = ("x-label", .null) := by
    by_contra hne
    have hlt := hleast.least _ hlower hcollides (Ne.symm hne)
    have hmem := hleast.mem
    simp only [quarrellingHeaders, List.mem_cons, List.not_mem_nil, or_false] at hmem
    rcases hmem with rfl | rfl | rfl | rfl
    · exact absurd hlt (by decide)
    · exact hne rfl
    · exact absurd hlt (by decide)
    · cases hleast.offends with
      | badName hname => exact absurd hname (by decide)
      | collides hother hearlier hsame =>
        simp only [quarrellingHeaders, List.mem_cons, List.not_mem_nil, or_false] at hother
        rcases hother with rfl | rfl | rfl | rfl
        all_goals exact absurd hearlier (by decide)
      | badValue htext hbad =>
        cases htext
        exact absurd hbad (by decide)
  subst heq
  refine ⟨hc, hnames, hid, ⟨_, hlower, hcollides⟩, message, context, herror, ?_, hpath, ?_⟩
  · rw [horder _ (List.reverse_perm _).symm, herror]
  · exact hdetails (by decide) _ hupper hbefore (by decide)

end Plan

end Courier
