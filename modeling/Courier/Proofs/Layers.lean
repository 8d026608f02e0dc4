import Courier.Proofs.Headers
import Courier.Proofs.Tables

/-!
# The shape of merged headers

Merged headers are a table: names are tokens in lower case and increase strictly, so that each name
has one value.  Which value that is follows from the layers alone.

* `Http.isName_lower`, `Http.lower_lower` — small letters of a name make a name, and only once.
* `Plan.Proper` — what holds of headers after each step of merging.
* `Plan.mergeHeaders_layered` — **the layers in full**: order, names, values, and what no header of
  the request itself can do.
-/

namespace Courier

/-! ## Names in lower case -/

namespace Text

/-- Capitals are the 26 characters from `A` on. -/
theorem exists_of_capital {c : Char} (h : 'A' ≤ c ∧ c ≤ 'Z') :
    ∃ i, i < 26 ∧ c = Char.ofNat (65 + i) := by
  have hlow : 65 ≤ c.toNat := h.1
  have hhigh : c.toNat ≤ 90 := h.2
  refine ⟨c.toNat - 65, by omega, ?_⟩
  rw [Nat.add_sub_cancel' hlow, Char.ofNat_toNat]

/-- A small letter is none of the capitals, so that making it small again changes nothing. -/
theorem smallLetter_smallLetter (c : Char) : smallLetter (smallLetter c) = smallLetter c := by
  by_cases h : 'A' ≤ c ∧ c ≤ 'Z'
  · obtain ⟨i, hi, rfl⟩ := exists_of_capital h
    revert i
    decide
  · have hsmall : smallLetter c = c := if_neg h
    rw [hsmall, hsmall]

end Text

namespace Http

theorem isTokenChar_smallLetter {c : Char} (h : isTokenChar c = true) :
    isTokenChar (Text.smallLetter c) = true := by
  by_cases hcapital : 'A' ≤ c ∧ c ≤ 'Z'
  · obtain ⟨i, hi, rfl⟩ := Text.exists_of_capital hcapital
    revert i
    decide
  · rwa [Text.smallLetter, if_neg hcapital]

theorem lower_lower (s : String) : lower (lower s) = lower s := by
  simp [lower, Function.comp_def, Text.smallLetter_smallLetter]

/-- A name in lower case is a name. -/
theorem isName_lower {s : String} (h : isName s = true) : isName (lower s) = true := by
  simp only [isName, lower, Bool.and_eq_true, Bool.not_eq_true', List.isEmpty_eq_false_iff,
    List.all_eq_true, decide_eq_true_eq, String.toList_ofList, List.length_map,
    List.mem_map] at h ⊢
  obtain ⟨⟨hne, hall⟩, hlength⟩ := h
  refine ⟨⟨by simpa using hne, ?_⟩, hlength⟩
  rintro _ ⟨c, hc, rfl⟩
  exact isTokenChar_smallLetter (hall c hc)

end Http

namespace Plan

open Result (bind_eq_ok_iff)

/-! ## Headers at every step -/

/-- Headers are proper if all names are names in lower case. -/
structure Proper (headers : Http.Headers) : Prop where
  isName : ∀ e ∈ headers, Http.isName e.1 = true
  lower : ∀ e ∈ headers, Http.lower e.1 = e.1

theorem Proper.insert {headers : Http.Headers} (h : Proper headers) {name : String}
    (hname : Http.isName name = true) (hlower : Http.lower name = name) (value : String) :
    Proper (headers.insert name value) where
  isName e he := by
    rcases Table.mem_insert he with rfl | he
    · exact hname
    · exact h.isName e he
  lower e he := by
    rcases Table.mem_insert he with rfl | he
    · exact hlower
    · exact h.lower e he

theorem keptBySetting_proper : KeptBySetting Proper := fun _ name value h hname _ =>
  h.insert (Http.isName_lower hname) (Http.lower_lower name) value

theorem proper_mergeHeaders {c : Config} {hasBody : Bool} {version : UInt32}
    {own : Table Json.Value} {credential : Option Credential} {requestId : String}
    {headers : Http.Headers}
    (h : mergeHeaders c hasBody version own credential requestId = .ok headers) :
    Proper headers :=
  keptBySetting_proper.mergeHeaders h
    ⟨List.forall_mem_nil _, List.forall_mem_nil _⟩

/-! ## The headers of the request itself -/

/-- Only `null` has no text. -/
theorem render?_eq_none_iff {v : Json.Value} : render? v = none ↔ v = .null := by
  cases v with
  | null => simp [render?]
  | _ => simp [render?]

/-- No two headers of a request differ in case only. -/
theorem pairwise_of_ownHeaders {seen : List (String × String)}
    {own : List (String × Json.Value)} {headers headers' : Http.Headers}
    (h : ownHeaders seen own headers = .ok headers') :
    own.Pairwise fun a b => Http.lower a.1 ≠ Http.lower b.1 := by
  induction own generalizing seen headers with
  | nil => exact List.Pairwise.nil
  | cons entry rest ih =>
    obtain ⟨-, -, next, -, hrest⟩ := ownHeaders_cons_ok h
    refine List.pairwise_cons.2 ⟨?_, ih hrest⟩
    intro e he heq
    have hlookup := lookup_of_ownHeaders hrest e he
    rw [← heq, List.lookup_cons_self] at hlookup
    cases hlookup

/-- The value for a name is that of its one header. -/
theorem ownValue?_of_mem {own : List (String × Json.Value)}
    (h : own.Pairwise fun a b => Http.lower a.1 ≠ Http.lower b.1) {e : String × Json.Value}
    (he : e ∈ own) : ownValue? own (Http.lower e.1) = render? e.2 := by
  induction own with
  | nil => cases he
  | cons first rest ih =>
    obtain ⟨hfirst, hrest⟩ := List.pairwise_cons.1 h
    rcases List.mem_cons.1 he with rfl | he
    · have hlater : ownValue? rest (Http.lower e.1) = none :=
        List.findSome?_eq_none_iff.2 fun e' he' => if_neg (Ne.symm (hfirst e' he'))
      rw [ownValue?] at hlater ⊢
      rw [List.findSome?_cons, if_pos rfl, hlater]
      cases render? e.2 with
      | some v => rfl
      | none => rfl
    · have hne : Http.lower first.1 ≠ Http.lower e.1 := hfirst e he
      have hvalue := ih hrest he
      rw [ownValue?] at hvalue ⊢
      rw [List.findSome?_cons, if_neg hne, hvalue]

/-- Headers that are `null` may be left out. -/
theorem ownHeaders_filter {seen seen' : List (String × String)}
    {own : List (String × Json.Value)} {headers headers' : Http.Headers}
    (hseen : ∀ n, seen.lookup n = none → seen'.lookup n = none)
    (h : ownHeaders seen own headers = .ok headers') :
    ownHeaders seen' (own.filter fun e => (render? e.2).isSome) headers = .ok headers' := by
  induction own generalizing seen seen' headers with
  | nil =>
    rw [ownHeaders_nil] at h
    cases h
    exact ownHeaders_nil _ _
  | cons entry rest ih =>
    obtain ⟨name, value⟩ := entry
    obtain ⟨hname, hnew, next, hnext, hrest⟩ := ownHeaders_cons_ok h
    cases hvalue : render? value with
    | none =>
      rw [hvalue] at hnext
      cases hnext
      rw [List.filter_cons_of_neg (by simp [hvalue])]
      refine ih ?_ hrest
      intro n hn
      rw [List.lookup_cons] at hn
      split at hn
      · cases hn
      · exact hseen n hn
    | some v =>
      rw [List.filter_cons_of_pos (by simp [hvalue]),
        ownHeaders_cons_of_new hname (hseen _ hnew), hnext]
      refine ih ?_ hrest
      intro n hn
      rw [List.lookup_cons] at hn ⊢
      split at hn
      · cases hn
      · exact hseen n hn

/-- Merging does the same without the headers that are `null`. -/
theorem mergeHeaders_filter {c : Config} {hasBody : Bool} {version : UInt32}
    {own : Table Json.Value} {credential : Option Credential} {requestId : String}
    {headers : Http.Headers}
    (h : mergeHeaders c hasBody version own credential requestId = .ok headers) :
    mergeHeaders c hasBody version (own.filter fun e => (render? e.2).isSome) credential
      requestId = .ok headers := by
  rw [mergeHeaders_eq] at h ⊢
  obtain ⟨defaults, hdefaults, h⟩ := bind_eq_ok_iff.1 h
  obtain ⟨withOwn, hown, h⟩ := bind_eq_ok_iff.1 h
  exact bind_eq_ok_iff.2
    ⟨defaults, hdefaults, bind_eq_ok_iff.2 ⟨withOwn, ownHeaders_filter (fun n hn => hn) hown, h⟩⟩

/-! ## The layers in full -/

/-- The layers, the topmost first; each says for a name what its value is, or nothing. -/
def headerLayers (c : Config) (hasBody : Bool) (version : UInt32) (own : Table Json.Value)
    (credential : Option Credential) (requestId : String) : List (String → Option String) :=
  [credentialValue? credential, versionValue? c version, ownValue? own.entries,
    defaultValue? c hasBody requestId]

/-- A merged header has the value of the first layer that has one. -/
theorem find?_mergeHeaders_eq_findSome? {c : Config} {hasBody : Bool} {version : UInt32}
    {own : Table Json.Value} {credential : Option Credential} {requestId : String}
    {headers : Http.Headers}
    (h : mergeHeaders c hasBody version own credential requestId = .ok headers) (key : String) :
    headers.find? key =
      (headerLayers c hasBody version own credential requestId).findSome? (· key) := by
  rw [find?_mergeHeaders h]
  cases hcredential : credentialValue? credential key with
  | some v => simp [headerLayers, hcredential]
  | none =>
    cases hversion : versionValue? c version key with
    | some v => simp [headerLayers, hcredential, hversion]
    | none =>
      cases hown : ownValue? own.entries key with
      | some v => simp [headerLayers, hcredential, hversion, hown]
      | none =>
        cases hdefault : defaultValue? c hasBody requestId key with
        | some v => simp [headerLayers, hcredential, hversion, hown, hdefault]
        | none => simp [headerLayers, hcredential, hversion, hown, hdefault]

/-- **The layers in full.**  Merged headers are in order, under names in lower case, each once; the
value of a name is that of the credential, or else of the version, or else of the request's one
header of that name in any case, or else the default, and without any of these the name is absent.
A header that is `null` is as good as none, and with a credential its two headers stand whatever the
request's own headers are. -/
theorem mergeHeaders_layered {c : Config} {hasBody : Bool} {version : UInt32}
    {own : Table Json.Value} {credential : Option Credential} {requestId : String}
    {headers : Http.Headers}
    (h : mergeHeaders c hasBody version own credential requestId = .ok headers) :
    Entries.Increasing headers.entries ∧ Proper headers ∧
      (∀ e, e ∈ headers ↔ headers.find? e.1 = some e.2) ∧
      (∀ key, headers.find? key =
        (headerLayers c hasBody version own credential requestId).findSome? (· key)) ∧
      (own.entries.Pairwise fun a b => Http.lower a.1 ≠ Http.lower b.1) ∧
      (∀ e ∈ own, ownValue? own.entries (Http.lower e.1) = render? e.2 ∧
        (e.2 = .null → headers.find? (Http.lower e.1) =
          (headerLayers c hasBody version ∅ credential requestId).findSome?
            (· (Http.lower e.1)))) ∧
      mergeHeaders c hasBody version (own.filter fun e => (render? e.2).isSome) credential
        requestId = .ok headers ∧
      ∀ k, credential = some k →
        headers.find? "authorization" = some ("Bearer " ++ k.accessToken) ∧
          headers.find? sessionHeader = some k.sessionId := by
  have hproper := proper_mergeHeaders h
  have hlayers := find?_mergeHeaders_eq_findSome? h
  have hpairwise : own.entries.Pairwise fun a b => Http.lower a.1 ≠ Http.lower b.1 := by
    rw [mergeHeaders_eq] at h
    obtain ⟨defaults, -, h⟩ := bind_eq_ok_iff.1 h
    obtain ⟨withOwn, hown, -⟩ := bind_eq_ok_iff.1 h
    exact pairwise_of_ownHeaders hown
  refine ⟨headers.increasing, hproper, headers.mem_iff_find?, hlayers, hpairwise, ?_,
    mergeHeaders_filter h, ?_⟩
  · intro e he
    have hvalue := ownValue?_of_mem hpairwise he
    refine ⟨hvalue, ?_⟩
    intro hnull
    rw [hnull] at hvalue
    have hnone : ownValue? own.entries (Http.lower e.1) =
        ownValue? (∅ : Table Json.Value).entries (Http.lower e.1) := hvalue
    rw [hlayers]
    simp only [headerLayers, List.findSome?_cons, hnone]
  · rintro k rfl
    have hne : "authorization" ≠ sessionHeader := by decide
    constructor
    · simp [hlayers, headerLayers, credentialValue?, hne]
    · simp [hlayers, headerLayers, credentialValue?]

/-- A configuration whose version goes under the name of a default. -/
def acceptingConfig : Config :=
  { Config.new "http://127.0.0.1:18080" with versionHeader := "Accept" }

/-- Headers that meet every layer: the version, the credential, a default that stays, a default that
is replaced, and none. -/
def overlappingHeaders : Table Json.Value :=
  .ofList [("ACCEPT", .string "text/plain"), ("Authorization", .string "Basic eA=="),
    ("Content-Type", .null), ("USER-agent", .string "probe"), ("X-Limits", .array [.bool true])]

/-- Each of the headers gets the value of its topmost layer: the version over the request's own
`ACCEPT`, the token over its own `Authorization`, its own agent over the default, and the default
type under a `null`. -/
theorem mergeHeaders_layered_of_overlapping :
    ∃ headers, mergeHeaders acceptingConfig true 7 overlappingHeaders (some ⟨"s-1", "token"⟩)
        "id-1" = .ok headers ∧
      headers.find? "accept" = some "7" ∧
      headers.find? "authorization" = some "Bearer token" ∧
      headers.find? "user-agent" = some "probe" ∧
      headers.find? "content-type" = some "application/json" ∧
      headers.find? "x-limits" = some "[true]" ∧
      headers.find? "x-app-version" = none := by
  obtain ⟨headers, h⟩ := Result.exists_of_isOk (x := mergeHeaders acceptingConfig true 7
    overlappingHeaders (some ⟨"s-1", "token"⟩) "id-1") (by decide +kernel)
  obtain ⟨-, -, -, hlayers, -, -, -, hcredential⟩ := mergeHeaders_layered h
  refine ⟨headers, h, ?_, (hcredential _ rfl).1, ?_, ?_, ?_, ?_⟩
  · rw [hlayers]; decide +kernel
  · rw [hlayers]; decide +kernel
  · rw [hlayers]; decide +kernel
  · rw [hlayers]; decide +kernel
  · rw [hlayers]; decide +kernel

end Plan

end Courier
