import Courier.Plan
import Courier.Proofs.Result

/-!
# Merged headers

The headers of a request are laid over each other: defaults, the request's own, the version, the
credential.  This file tells which layer a header comes from, and which errors merging can have.

* `find?_mergeHeaders` — **the layers**: a merged header has the value of the topmost layer that has
  one for its name.
* `KeptBySetting.mergeHeaders` — what setting one header keeps holds of merged headers.
* `mergeHeaders_error` — merging fails with an error about a header, and with no other.
-/

namespace Courier

namespace Plan

open Result (bind_eq_ok_iff bind_eq_error_iff)

/-! ## One header -/

/-- A header is set exactly if its name is a name and its value a value. -/
theorem putHeader_eq_ok_iff {headers headers' : Http.Headers} {name value : String} :
    putHeader headers name value = .ok headers' ↔
      Http.isName name = true ∧ Http.isValue value = true ∧
        headers' = headers.insert (Http.lower name) value := by
  unfold putHeader headerName Http.name?
  by_cases hname : Http.isName name = true
  · by_cases hvalue : Http.isValue value = true
    · simp only [hname, hvalue, if_true, true_and]
      exact ⟨fun h => by cases h; rfl, fun h => by rw [h]; rfl⟩
    · simp only [hname, hvalue, if_true]
      exact ⟨nofun, fun h => absurd h.2.1 (by simp)⟩
  · simp only [hname]
    exact ⟨nofun, fun h => absurd h.1 (by simp)⟩

/-- A header that cannot be set is the one that is named in the error. -/
theorem putHeader_error {headers : Http.Headers} {name value : String} {e : Error}
    (h : putHeader headers name value = .error e) : ∃ details, e = headerError name details := by
  unfold putHeader headerName at h
  rcases bind_eq_error_iff.1 h with hname | ⟨n, -, hvalue⟩
  · split at hname
    · cases hname
    · cases hname
      exact ⟨_, rfl⟩
  · split at hvalue
    · cases hvalue
    · cases hvalue
      exact ⟨_, rfl⟩

theorem find?_putHeader {headers headers' : Http.Headers} {name value : String}
    (h : putHeader headers name value = .ok headers') (key : String) :
    headers'.find? key = if key = Http.lower name then some value else headers.find? key := by
  obtain ⟨-, -, rfl⟩ := putHeader_eq_ok_iff.1 h
  exact Table.find?_insert _ _ _ _

/-- Sets a header if there is a value for it. -/
def putOptional (headers : Http.Headers) (name : String) :
    Option String → Except Error Http.Headers
  | some value => putHeader headers name value
  | none => .ok headers

theorem putOptional_error {headers : Http.Headers} {name : String} {value : Option String}
    {e : Error} (h : putOptional headers name value = .error e) :
    ∃ details, e = headerError name details := by
  cases value with
  | some v => exact putHeader_error h
  | none => cases h

theorem find?_putOptional {headers headers' : Http.Headers} {name : String}
    {value : Option String} (h : putOptional headers name value = .ok headers') (key : String) :
    headers'.find? key =
      if key = Http.lower name then value.or (headers.find? key) else headers.find? key := by
  cases value with
  | some v => exact find?_putHeader h key
  | none =>
    cases h
    simp

/-! ## Chains

Merging is a chain of steps that each set one header. -/

theorem defaultHeaders_eq (c : Config) (hasBody : Bool) (requestId : String) :
    defaultHeaders c hasBody requestId =
      putHeader (Table.insert ∅ "accept" jsonType) "user-agent" c.userAgent >>= fun agent =>
        putOptional agent appVersionHeader c.appVersion >>= fun app =>
          putHeader app requestIdHeader requestId >>= fun headers =>
            .ok (if hasBody then headers.insert "content-type" jsonType else headers) := by
  unfold defaultHeaders
  cases c.appVersion with
  | some v => rfl
  | none => rfl

theorem ownHeaders_nil (seen : List (String × String)) (headers : Http.Headers) :
    ownHeaders seen [] headers = .ok headers := by
  rw [ownHeaders]

theorem ownHeaders_cons (seen : List (String × String)) (name : String) (value : Json.Value)
    (rest : List (String × Json.Value)) (headers : Http.Headers) :
    ownHeaders seen ((name, value) :: rest) headers =
      headerName name >>= fun n =>
        match seen.lookup n with
        | some other => .error (headerError name ("collides with header " ++ Text.quoted other))
        | none =>
          putOptional headers name (render? value) >>= fun headers =>
            ownHeaders ((n, name) :: seen) rest headers := by
  rw [ownHeaders]
  cases render? value with
  | some v => rfl
  | none => rfl

theorem mergeHeaders_eq (c : Config) (hasBody : Bool) (version : UInt32) (own : Table Json.Value)
    (credential : Option Credential) (requestId : String) :
    mergeHeaders c hasBody version own credential requestId =
      defaultHeaders c hasBody requestId >>= fun defaults =>
        ownHeaders [] own.entries defaults >>= fun headers =>
          putHeader headers c.versionHeader (Text.decimal version.toNat) >>= fun headers =>
            putOptional headers "authorization"
                (credential.map fun k => "Bearer " ++ k.accessToken) >>= fun headers =>
              putOptional headers sessionHeader (credential.map (·.sessionId)) := by
  unfold mergeHeaders
  cases credential with
  | some k => rfl
  | none => rfl

/-! ## Names

The names that merging itself uses are in lower case. -/

theorem lower_userAgent : Http.lower "user-agent" = "user-agent" := by decide

theorem lower_appVersionHeader : Http.lower appVersionHeader = appVersionHeader := by decide

theorem lower_requestIdHeader : Http.lower requestIdHeader = requestIdHeader := by decide

theorem lower_authorization : Http.lower "authorization" = "authorization" := by decide

theorem lower_sessionHeader : Http.lower sessionHeader = sessionHeader := by decide

/-! ## Layers -/

/-- What the credential says for a name. -/
def credentialValue? (credential : Option Credential) (key : String) : Option String :=
  match credential with
  | some k =>
    if key = sessionHeader then some k.sessionId
    else if key = "authorization" then some ("Bearer " ++ k.accessToken)
    else none
  | none => none

/-- What the version says for a name. -/
def versionValue? (c : Config) (version : UInt32) (key : String) : Option String :=
  if key = Http.lower c.versionHeader then some (Text.decimal version.toNat) else none

/-- What a request's own headers say for a name; one that is `null` says nothing. -/
def ownValue? (own : List (String × Json.Value)) (key : String) : Option String :=
  own.findSome? fun e => if Http.lower e.1 = key then render? e.2 else none

/-- What the defaults say for a name. -/
def defaultValue? (c : Config) (hasBody : Bool) (requestId key : String) : Option String :=
  if hasBody = true ∧ key = "content-type" then some jsonType
  else if key = requestIdHeader then some requestId
  else if key = appVersionHeader then c.appVersion
  else if key = "user-agent" then some c.userAgent
  else if key = "accept" then some jsonType
  else none

/-! ### Defaults -/

theorem find?_defaultHeaders {c : Config} {hasBody : Bool} {requestId : String}
    {headers : Http.Headers} (h : defaultHeaders c hasBody requestId = .ok headers)
    (key : String) : headers.find? key = defaultValue? c hasBody requestId key := by
  rw [defaultHeaders_eq] at h
  obtain ⟨agent, hagent, h⟩ := bind_eq_ok_iff.1 h
  obtain ⟨app, happ, h⟩ := bind_eq_ok_iff.1 h
  obtain ⟨id, hid, h⟩ := bind_eq_ok_iff.1 h
  have hlast : headers.find? key =
      if hasBody = true ∧ key = "content-type" then some jsonType else id.find? key := by
    cases h
    cases hasBody with
    | false => simp
    | true => simp [Table.find?_insert]
  rw [hlast, find?_putHeader hid, find?_putOptional happ, find?_putHeader hagent,
    Table.find?_insert, lower_requestIdHeader, lower_appVersionHeader, lower_userAgent,
    defaultValue?]
  have hagent' : appVersionHeader ≠ "user-agent" := by decide
  have haccept : appVersionHeader ≠ "accept" := by decide
  by_cases happVersion : key = appVersionHeader
  · simp [happVersion, hagent', haccept]
  · simp [happVersion]

/-! ### Own headers -/

theorem headerName_eq_ok_iff {name n : String} :
    headerName name = .ok n ↔ Http.isName name = true ∧ n = Http.lower name := by
  unfold headerName Http.name?
  by_cases hname : Http.isName name = true
  · simp only [hname, if_true, true_and]
    exact ⟨fun h => by cases h; rfl, fun h => by rw [h]⟩
  · simp only [hname]
    exact ⟨nofun, fun h => absurd h.1 (by simp)⟩

theorem headerName_error {name : String} {e : Error} (h : headerName name = .error e) :
    ∃ details, e = headerError name details := by
  unfold headerName at h
  split at h
  · cases h
  · cases h
    exact ⟨_, rfl⟩

/-- One step of setting a request's own headers: the name is one, it has not come yet, and its value
is set if it has one. -/
theorem ownHeaders_cons_ok {seen : List (String × String)} {name : String} {value : Json.Value}
    {rest : List (String × Json.Value)} {headers headers' : Http.Headers}
    (h : ownHeaders seen ((name, value) :: rest) headers = .ok headers') :
    Http.isName name = true ∧ seen.lookup (Http.lower name) = none ∧
      ∃ next, putOptional headers name (render? value) = .ok next ∧
        ownHeaders ((Http.lower name, name) :: seen) rest next = .ok headers' := by
  rw [ownHeaders_cons] at h
  obtain ⟨n, hn, h⟩ := bind_eq_ok_iff.1 h
  obtain ⟨hname, rfl⟩ := headerName_eq_ok_iff.1 hn
  split at h
  · cases h
  · rename_i hseen
    exact ⟨hname, hseen, bind_eq_ok_iff.1 h⟩

/-- A header under a name that has not come yet is set, and then the rest. -/
theorem ownHeaders_cons_of_new {seen : List (String × String)} {name : String}
    (hname : Http.isName name = true) (hnew : seen.lookup (Http.lower name) = none)
    (value : Json.Value) (rest : List (String × Json.Value)) (headers : Http.Headers) :
    ownHeaders seen ((name, value) :: rest) headers =
      putOptional headers name (render? value) >>= fun next =>
        ownHeaders ((Http.lower name, name) :: seen) rest next := by
  rw [ownHeaders_cons, headerName_eq_ok_iff.2 ⟨hname, rfl⟩]
  simp only [bind, Except.bind, hnew]

/-- Names that have come already do not come again. -/
theorem lookup_of_ownHeaders {seen : List (String × String)} {own : List (String × Json.Value)}
    {headers headers' : Http.Headers} (h : ownHeaders seen own headers = .ok headers') :
    ∀ e ∈ own, seen.lookup (Http.lower e.1) = none := by
  induction own generalizing seen headers with
  | nil => intro e he; cases he
  | cons entry rest ih =>
    obtain ⟨name, value⟩ := entry
    obtain ⟨-, hseen, next, -, hrest⟩ := ownHeaders_cons_ok h
    intro e he
    rcases List.mem_cons.1 he with rfl | he
    · exact hseen
    · have hlookup := ih hrest e he
      rw [List.lookup_cons] at hlookup
      split at hlookup
      · cases hlookup
      · exact hlookup

/-- The own headers lie over what was there before. -/
theorem find?_ownHeaders {seen : List (String × String)} {own : List (String × Json.Value)}
    {headers headers' : Http.Headers} (h : ownHeaders seen own headers = .ok headers')
    (key : String) : headers'.find? key = (ownValue? own key).or (headers.find? key) := by
  induction own generalizing seen headers with
  | nil =>
    rw [ownHeaders_nil] at h
    cases h
    rfl
  | cons entry rest ih =>
    obtain ⟨name, value⟩ := entry
    obtain ⟨-, -, next, hnext, hrest⟩ := ownHeaders_cons_ok h
    rw [ih hrest, find?_putOptional hnext]
    by_cases hkey : key = Http.lower name
    · -- no later header has this name, so that the value stays
      have hlater : ownValue? rest key = none := by
        refine List.findSome?_eq_none_iff.2 fun e he => if_neg fun heq => ?_
        have hlookup := lookup_of_ownHeaders hrest e he
        rw [heq, hkey, List.lookup_cons_self] at hlookup
        cases hlookup
      rw [hlater, if_pos hkey, Option.none_or]
      simp only [ownValue?, List.findSome?_cons, hkey, if_true] at hlater ⊢
      cases render? value with
      | some v => rfl
      | none => rw [hlater]
    · rw [if_neg hkey]
      simp only [ownValue?, List.findSome?_cons, if_neg (Ne.symm hkey)]

/-! ### All layers -/

/-- **The layers.**  A merged header has the value of the credential, or else of the version, or
else of the request's own headers, or else of the defaults. -/
theorem find?_mergeHeaders {c : Config} {hasBody : Bool} {version : UInt32}
    {own : Table Json.Value} {credential : Option Credential} {requestId : String}
    {headers : Http.Headers}
    (h : mergeHeaders c hasBody version own credential requestId = .ok headers) (key : String) :
    headers.find? key =
      (credentialValue? credential key).or
        ((versionValue? c version key).or
          ((ownValue? own.entries key).or (defaultValue? c hasBody requestId key))) := by
  rw [mergeHeaders_eq] at h
  obtain ⟨defaults, hdefaults, h⟩ := bind_eq_ok_iff.1 h
  obtain ⟨withOwn, hown, h⟩ := bind_eq_ok_iff.1 h
  obtain ⟨withVersion, hversion, h⟩ := bind_eq_ok_iff.1 h
  obtain ⟨withToken, htoken, hsession⟩ := bind_eq_ok_iff.1 h
  rw [find?_putOptional hsession, find?_putOptional htoken, find?_putHeader hversion,
    find?_ownHeaders hown, find?_defaultHeaders hdefaults, lower_authorization,
    lower_sessionHeader, versionValue?]
  cases credential with
  | none =>
    by_cases hkey : key = Http.lower c.versionHeader
    · simp [credentialValue?, hkey]
    · simp [credentialValue?, hkey]
  | some k =>
    have hne : sessionHeader ≠ "authorization" := by decide
    by_cases hkey : key = sessionHeader
    · simp [credentialValue?, hkey]
    · by_cases htoken : key = "authorization"
      · simp [credentialValue?, htoken, Ne.symm hne]
      · simp only [credentialValue?, hkey, htoken, if_false, Option.none_or]
        by_cases hversion : key = Http.lower c.versionHeader
        · rw [if_pos hversion, if_pos hversion, Option.some_or]
        · rw [if_neg hversion, if_neg hversion, Option.none_or]

/-! ## What merging keeps -/

/-- A property of headers that is kept whenever one more is set under a name and with a value. -/
def KeptBySetting (Q : Http.Headers → Prop) : Prop :=
  ∀ headers name value, Q headers → Http.isName name = true → Http.isValue value = true →
    Q (headers.insert (Http.lower name) value)

namespace KeptBySetting

variable {Q : Http.Headers → Prop} {headers headers' : Http.Headers}

theorem putHeader (hQ : KeptBySetting Q) {name value : String}
    (h : Plan.putHeader headers name value = .ok headers') (hstart : Q headers) : Q headers' := by
  obtain ⟨hname, hvalue, rfl⟩ := putHeader_eq_ok_iff.1 h
  exact hQ headers name value hstart hname hvalue

theorem putOptional (hQ : KeptBySetting Q) {name : String} {value : Option String}
    (h : Plan.putOptional headers name value = .ok headers') (hstart : Q headers) : Q headers' := by
  cases value with
  | some v => exact hQ.putHeader h hstart
  | none =>
    cases h
    exact hstart

theorem defaultHeaders (hQ : KeptBySetting Q) {c : Config} {hasBody : Bool} {requestId : String}
    (h : Plan.defaultHeaders c hasBody requestId = .ok headers) (hstart : Q ∅) : Q headers := by
  rw [defaultHeaders_eq] at h
  obtain ⟨agent, hagent, h⟩ := bind_eq_ok_iff.1 h
  obtain ⟨app, happ, h⟩ := bind_eq_ok_iff.1 h
  obtain ⟨id, hid, h⟩ := bind_eq_ok_iff.1 h
  have haccept : Q (Table.insert ∅ "accept" jsonType) :=
    hQ ∅ "accept" jsonType hstart (by decide) (by decide)
  have hid : Q id := hQ.putHeader hid (hQ.putOptional happ (hQ.putHeader hagent haccept))
  cases h
  cases hasBody with
  | false => exact hid
  | true => exact hQ id "content-type" jsonType hid (by decide) (by decide)

theorem ownHeaders (hQ : KeptBySetting Q) {seen : List (String × String)}
    {own : List (String × Json.Value)} (h : Plan.ownHeaders seen own headers = .ok headers')
    (hstart : Q headers) : Q headers' := by
  induction own generalizing seen headers with
  | nil =>
    rw [ownHeaders_nil] at h
    cases h
    exact hstart
  | cons entry rest ih =>
    obtain ⟨-, -, next, hnext, hrest⟩ := ownHeaders_cons_ok h
    exact ih hrest (hQ.putOptional hnext hstart)

/-- **What setting one header keeps holds of merged headers**, if it holds of none at all. -/
theorem mergeHeaders (hQ : KeptBySetting Q) {c : Config} {hasBody : Bool} {version : UInt32}
    {own : Table Json.Value} {credential : Option Credential} {requestId : String}
    (h : Plan.mergeHeaders c hasBody version own credential requestId = .ok headers)
    (hstart : Q ∅) : Q headers := by
  rw [mergeHeaders_eq] at h
  obtain ⟨defaults, hdefaults, h⟩ := bind_eq_ok_iff.1 h
  obtain ⟨withOwn, hown, h⟩ := bind_eq_ok_iff.1 h
  obtain ⟨withVersion, hversion, h⟩ := bind_eq_ok_iff.1 h
  obtain ⟨withToken, htoken, hsession⟩ := bind_eq_ok_iff.1 h
  have hown : Q withOwn := hQ.ownHeaders hown (hQ.defaultHeaders hdefaults hstart)
  exact hQ.putOptional hsession (hQ.putOptional htoken (hQ.putHeader hversion hown))

end KeptBySetting

/-! ## Errors -/

theorem defaultHeaders_error {c : Config} {hasBody : Bool} {requestId : String} {e : Error}
    (h : defaultHeaders c hasBody requestId = .error e) :
    ∃ name details, e = headerError name details ∧
      name ∈ ["user-agent", appVersionHeader, requestIdHeader] := by
  rw [defaultHeaders_eq] at h
  rcases bind_eq_error_iff.1 h with hagent | ⟨agent, -, h⟩
  · obtain ⟨details, rfl⟩ := putHeader_error hagent
    exact ⟨_, details, rfl, by simp⟩
  · rcases bind_eq_error_iff.1 h with happ | ⟨app, -, h⟩
    · obtain ⟨details, rfl⟩ := putOptional_error happ
      exact ⟨_, details, rfl, by simp⟩
    · rcases bind_eq_error_iff.1 h with hid | ⟨id, -, h⟩
      · obtain ⟨details, rfl⟩ := putHeader_error hid
        exact ⟨_, details, rfl, by simp⟩
      · cases h

theorem ownHeaders_error {seen : List (String × String)} {own : List (String × Json.Value)}
    {headers : Http.Headers} {e : Error} (h : ownHeaders seen own headers = .error e) :
    ∃ name details, e = headerError name details ∧ name ∈ own.map Prod.fst := by
  induction own generalizing seen headers with
  | nil =>
    rw [ownHeaders_nil] at h
    cases h
  | cons entry rest ih =>
    obtain ⟨name, value⟩ := entry
    rw [ownHeaders_cons] at h
    rcases bind_eq_error_iff.1 h with hname | ⟨n, -, h⟩
    · obtain ⟨details, rfl⟩ := headerName_error hname
      exact ⟨name, details, rfl, by simp⟩
    · split at h
      · cases h
        exact ⟨name, _, rfl, by simp⟩
      · rcases bind_eq_error_iff.1 h with hput | ⟨next, -, hrest⟩
        · obtain ⟨details, rfl⟩ := putOptional_error hput
          exact ⟨name, details, rfl, by simp⟩
        · obtain ⟨later, details, rfl, hmem⟩ := ih hrest
          exact ⟨later, details, rfl, List.mem_cons_of_mem _ hmem⟩

/-- Only a credential has headers to fail for, and there are two of them. -/
theorem credentialHeaders_error {credential : Option Credential} {headers : Http.Headers}
    {e : Error}
    (h : (putOptional headers "authorization"
        (credential.map fun k => "Bearer " ++ k.accessToken) >>= fun headers =>
      putOptional headers sessionHeader (credential.map (·.sessionId))) = .error e) :
    ∃ name details, e = headerError name details ∧
      credential.isSome = true ∧ name ∈ ["authorization", sessionHeader] := by
  cases credential with
  | none => cases h
  | some k =>
    rcases bind_eq_error_iff.1 h with htoken | ⟨withToken, -, hsession⟩
    · obtain ⟨details, rfl⟩ := putHeader_error htoken
      exact ⟨_, details, rfl, rfl, by simp⟩
    · obtain ⟨details, rfl⟩ := putHeader_error hsession
      exact ⟨_, details, rfl, rfl, by simp⟩

/-- Merging fails with an error about one header: one that every request has, one of the request's
own, or one that carries its credential. -/
theorem mergeHeaders_error {c : Config} {hasBody : Bool} {version : UInt32}
    {own : Table Json.Value} {credential : Option Credential} {requestId : String} {e : Error}
    (h : mergeHeaders c hasBody version own credential requestId = .error e) :
    ∃ name details, e = headerError name details ∧
      (name ∈ ["user-agent", appVersionHeader, requestIdHeader, c.versionHeader] ∨
        name ∈ own.names ∨
        credential.isSome = true ∧ name ∈ ["authorization", sessionHeader]) := by
  rw [mergeHeaders_eq] at h
  rcases bind_eq_error_iff.1 h with hdefaults | ⟨defaults, -, h⟩
  · obtain ⟨name, details, rfl, hmem⟩ := defaultHeaders_error hdefaults
    exact ⟨name, details, rfl, Or.inl (List.mem_append_left [c.versionHeader] hmem)⟩
  · rcases bind_eq_error_iff.1 h with hown | ⟨withOwn, -, h⟩
    · obtain ⟨name, details, rfl, hmem⟩ := ownHeaders_error hown
      exact ⟨name, details, rfl, Or.inr (Or.inl hmem)⟩
    · rcases bind_eq_error_iff.1 h with hversion | ⟨withVersion, -, h⟩
      · obtain ⟨details, rfl⟩ := putHeader_error hversion
        exact ⟨_, details, rfl, Or.inl (by simp)⟩
      · obtain ⟨name, details, rfl, hcredential⟩ := credentialHeaders_error h
        exact ⟨name, details, rfl, Or.inr (Or.inr hcredential)⟩

end Plan

end Courier
