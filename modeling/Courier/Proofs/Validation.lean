import Courier.Proofs.Influence
import Courier.Proofs.Layers
import Courier.Proofs.Origin

/-!
# Valid configurations

What a configuration puts into headers is checked once, when a transport is made of it, and sent
with every request.  The check and the merging of headers follow one rule, though neither refers to
the other.  So what is wrong with a request later is wrong under every valid configuration.

* `Config.validate_eq_ok_iff` — what a valid configuration is.
* `Plan.mergeHeaders_failAlike` — under any two configurations that can be sent, merging fails
  alike.
* `Config.validate_iff_mergeHeaders` — **the check agrees with merging**, and no request fails for
  a configuration that passed it.
* `Plan.version_stamped` — **the version of a request stands under its header**, unless that is one
  of the headers of its credential.
-/

namespace Courier

open Result (Agree ok_bind bind_eq_ok_iff bind_eq_error_iff)

/-! ## What is valid -/

namespace Config

/-- Whether the base of a configuration is a URL of the web. -/
def HasWebBase (c : Config) : Prop :=
  ∃ u, Url.parse c.baseUrl.toList = .ok u ∧ Url.isWebScheme u.scheme = true

/-- Whether all that a configuration puts into headers can stand there. -/
structure Sendable (c : Config) : Prop where
  versionHeader : Http.isName c.versionHeader = true
  userAgent : Http.isValue c.userAgent = true
  appVersion : ∀ v ∈ c.appVersion, Http.isValue v = true

theorem validateValue_eq_ok_iff {path value : String} :
    validateValue path value = .ok () ↔ Http.isValue value = true := by
  unfold validateValue
  by_cases hvalue : Http.isValue value = true
  · simp [hvalue]
  · simp [hvalue]

/-- The check of the headers, behind that of the base. -/
theorem validate_eq_of_web {c : Config} {u : Url} (hu : Url.parse c.baseUrl.toList = .ok u)
    (hweb : Url.isWebScheme u.scheme = true) (hname : Http.isName c.versionHeader = true) :
    c.validate =
      validateValue "config.user_agent" c.userAgent >>= fun _ =>
        c.appVersion.elim (.ok ()) (validateValue "config.app_version") := by
  unfold validate
  simp only [hu, hweb, hname]
  cases c.appVersion with
  | none => rfl
  | some v => rfl

/-- **A valid configuration** has a base on the web, and puts nothing into headers that cannot stand
there. -/
theorem validate_eq_ok_iff {c : Config} : c.validate = .ok () ↔ c.HasWebBase ∧ c.Sendable := by
  constructor
  · intro h
    obtain ⟨u, hu, hweb⟩ := exists_base_of_validate h
    have hname : Http.isName c.versionHeader = true := by
      by_contra hbad
      rw [Bool.not_eq_true] at hbad
      simp [validate, hu, hweb, hbad] at h
    rw [validate_eq_of_web hu hweb hname] at h
    obtain ⟨⟨⟩, hagent, happ⟩ := bind_eq_ok_iff.1 h
    refine ⟨⟨u, hu, hweb⟩, hname, validateValue_eq_ok_iff.1 hagent, ?_⟩
    intro v hv
    rw [Option.mem_def.1 hv] at happ
    exact validateValue_eq_ok_iff.1 happ
  · rintro ⟨⟨u, hu, hweb⟩, hname, hagent, happ⟩
    rw [validate_eq_of_web hu hweb hname, validateValue_eq_ok_iff.2 hagent]
    cases hversion : c.appVersion with
    | none => rfl
    | some v => exact validateValue_eq_ok_iff.2 (happ v hversion)

end Config

/-- Decimal digits can stand in a header. -/
theorem Http.isValue_decimal (n : Nat) : Http.isValue (Text.decimal n) = true := by
  have hplain : ∀ k, k < 58 → 48 ≤ k → Http.isValueByte (UInt8.ofNat k) = true := by decide
  simp only [Http.isValue, Text.Utf8.bytesOf, Text.decimal, String.toList_ofList,
    Text.Utf8.encode, List.all_eq_true, List.mem_flatMap]
  rintro b ⟨c, hc, hb⟩
  have hdigit : c.isDigit = true := Nat.isDigit_of_mem_toDigits (by decide) (by decide) hc
  obtain ⟨hlow, hhigh⟩ : 48 ≤ c.toNat ∧ c.toNat ≤ 57 := by
    simpa [Char.isDigit, UInt32.le_iff_toNat_le] using hdigit
  have hsmall : c.toNat < 0x80 := by omega
  simp only [Text.Utf8.encodeChar, hsmall, if_true, List.mem_singleton, Text.Utf8.byte] at hb
  rw [hb]
  exact hplain c.toNat (by omega) hlow

/-! ## Merging under valid configurations -/

/-- Two computations that fail alike, whatever they come to otherwise. -/
abbrev FailAlike {α β : Type} (x : Except Error α) (y : Except Error β) : Prop :=
  Agree (fun _ _ => True) x y

namespace Plan

theorem exists_putHeader_iff (headers : Http.Headers) {name value : String} :
    (∃ headers', putHeader headers name value = .ok headers') ↔
      Http.isName name = true ∧ Http.isValue value = true := by
  constructor
  · rintro ⟨headers', h⟩
    obtain ⟨hname, hvalue, -⟩ := putHeader_eq_ok_iff.1 h
    exact ⟨hname, hvalue⟩
  · rintro ⟨hname, hvalue⟩
    exact ⟨_, putHeader_eq_ok_iff.2 ⟨hname, hvalue, rfl⟩⟩

theorem exists_putOptional_iff (headers : Http.Headers) {name : String}
    (hname : Http.isName name = true) {value : Option String} :
    (∃ headers', putOptional headers name value = .ok headers') ↔
      ∀ v ∈ value, Http.isValue v = true := by
  cases value with
  | none => simp [putOptional]
  | some v => simp [putOptional, exists_putHeader_iff, hname]

theorem isName_userAgent : Http.isName "user-agent" = true := by decide

theorem isName_appVersionHeader : Http.isName appVersionHeader = true := by decide

theorem isName_requestIdHeader : Http.isName requestIdHeader = true := by decide

/-- The defaults can be set if the configuration has nothing in them that cannot be sent. -/
theorem exists_defaultHeaders_iff (c : Config) (hasBody : Bool) {requestId : String}
    (hid : Http.isValue requestId = true) :
    (∃ headers, defaultHeaders c hasBody requestId = .ok headers) ↔
      Http.isValue c.userAgent = true ∧ ∀ v ∈ c.appVersion, Http.isValue v = true := by
  rw [defaultHeaders_eq]
  constructor
  · rintro ⟨headers, h⟩
    obtain ⟨agent, hagent, h⟩ := bind_eq_ok_iff.1 h
    obtain ⟨app, happ, -⟩ := bind_eq_ok_iff.1 h
    exact ⟨((exists_putHeader_iff _).1 ⟨agent, hagent⟩).2,
      (exists_putOptional_iff agent isName_appVersionHeader).1 ⟨app, happ⟩⟩
  · rintro ⟨hvalue, hversion⟩
    obtain ⟨agent, hagent⟩ := (exists_putHeader_iff (Table.insert ∅ "accept" jsonType)).2
      ⟨isName_userAgent, hvalue⟩
    obtain ⟨app, happ⟩ := (exists_putOptional_iff agent isName_appVersionHeader).2 hversion
    obtain ⟨id, hid⟩ := (exists_putHeader_iff app).2 ⟨isName_requestIdHeader, hid⟩
    rw [hagent, ok_bind, happ, ok_bind, hid, ok_bind]
    exact ⟨_, rfl⟩

theorem exists_defaultHeaders {c : Config} (hc : c.Sendable) (hasBody : Bool) {requestId : String}
    (hid : Http.isValue requestId = true) :
    ∃ headers, defaultHeaders c hasBody requestId = .ok headers :=
  (exists_defaultHeaders_iff c hasBody hid).2 ⟨hc.userAgent, hc.appVersion⟩

/-- The version can be set under every name. -/
theorem exists_putVersion (headers : Http.Headers) {c : Config} (hc : c.Sendable)
    (version : UInt32) :
    ∃ headers', putHeader headers c.versionHeader (Text.decimal version.toNat) = .ok headers' :=
  (exists_putHeader_iff headers).2 ⟨hc.versionHeader, Http.isValue_decimal version.toNat⟩

/-- Without own headers and a credential, headers can be merged if the configuration can be sent. -/
theorem exists_mergeHeaders_iff {c : Config} {hasBody : Bool} {version : UInt32}
    {requestId : String} (hid : Http.isValue requestId = true) :
    (∃ headers, mergeHeaders c hasBody version ∅ none requestId = .ok headers) ↔ c.Sendable := by
  rw [mergeHeaders_eq]
  constructor
  · rintro ⟨headers, h⟩
    obtain ⟨defaults, hdefaults, h⟩ := bind_eq_ok_iff.1 h
    obtain ⟨merged, -, h⟩ := bind_eq_ok_iff.1 h
    obtain ⟨versioned, hversioned, -⟩ := bind_eq_ok_iff.1 h
    obtain ⟨hagent, happ⟩ := (exists_defaultHeaders_iff c hasBody hid).1 ⟨defaults, hdefaults⟩
    exact ⟨((exists_putHeader_iff merged).1 ⟨versioned, hversioned⟩).1, hagent, happ⟩
  · intro hc
    obtain ⟨defaults, hdefaults⟩ := exists_defaultHeaders hc hasBody hid
    obtain ⟨versioned, hversioned⟩ := exists_putVersion defaults hc version
    rw [hdefaults, ok_bind, Table.entries_empty, ownHeaders_nil, ok_bind, hversioned]
    exact ⟨versioned, rfl⟩

/-! ### Failures -/

theorem putHeader_failAlike (headers headers' : Http.Headers) (name value : String) :
    FailAlike (putHeader headers name value) (putHeader headers' name value) := by
  rw [putHeader, putHeader]
  apply Agree.bind_same
  intro n
  split
  · exact .ok trivial
  · exact .error _

theorem putOptional_failAlike (headers headers' : Http.Headers) (name : String)
    (value : Option String) :
    FailAlike (putOptional headers name value) (putOptional headers' name value) := by
  cases value with
  | none => exact .ok trivial
  | some v => exact putHeader_failAlike headers headers' name v

/-- Whether a request's own headers can be set does not depend on what they are laid over. -/
theorem ownHeaders_failAlike (seen : List (String × String)) (own : List (String × Json.Value))
    (headers headers' : Http.Headers) :
    FailAlike (ownHeaders seen own headers) (ownHeaders seen own headers') := by
  induction own generalizing seen headers headers' with
  | nil =>
    rw [ownHeaders_nil, ownHeaders_nil]
    exact .ok trivial
  | cons entry rest ih =>
    obtain ⟨name, value⟩ := entry
    rw [ownHeaders_cons, ownHeaders_cons]
    apply Agree.bind_same
    intro n
    cases seen.lookup n with
    | some other => exact .error _
    | none =>
      apply (putOptional_failAlike headers headers' name (render? value)).bind
      intro next next' _
      exact ih _ next next'

/-- **Under any two configurations that can be sent, merging fails alike**, with and without a body
and whatever the version is. -/
theorem mergeHeaders_failAlike {c c' : Config} (hc : c.Sendable) (hc' : c'.Sendable)
    (hasBody hasBody' : Bool) (version version' : UInt32) (own : Table Json.Value)
    (credential : Option Credential) {requestId : String}
    (hid : Http.isValue requestId = true) :
    FailAlike (mergeHeaders c hasBody version own credential requestId)
      (mergeHeaders c' hasBody' version' own credential requestId) := by
  obtain ⟨defaults, hdefaults⟩ := exists_defaultHeaders hc hasBody hid
  obtain ⟨defaults', hdefaults'⟩ := exists_defaultHeaders hc' hasBody' hid
  rw [mergeHeaders_eq, mergeHeaders_eq, hdefaults, hdefaults', ok_bind, ok_bind]
  apply (ownHeaders_failAlike [] own.entries defaults defaults').bind
  intro merged merged' _
  obtain ⟨versioned, hversioned⟩ := exists_putVersion merged hc version
  obtain ⟨versioned', hversioned'⟩ := exists_putVersion merged' hc' version'
  rw [hversioned, hversioned', ok_bind, ok_bind]
  apply (putOptional_failAlike versioned versioned' "authorization" _).bind
  intro headers headers' _
  exact putOptional_failAlike headers headers' sessionHeader _

/-- Under a configuration that can be sent, merging fails for one of the request's own headers or
for one of its credential. -/
theorem mergeHeaders_error_of_sendable {c : Config} (hc : c.Sendable) {hasBody : Bool}
    {version : UInt32} {own : Table Json.Value} {credential : Option Credential}
    {requestId : String} (hid : Http.isValue requestId = true) {e : Error}
    (h : mergeHeaders c hasBody version own credential requestId = .error e) :
    ∃ name details, e = headerError name details ∧
      (name ∈ own.names ∨
        credential.isSome = true ∧ name ∈ ["authorization", sessionHeader]) := by
  obtain ⟨defaults, hdefaults⟩ := exists_defaultHeaders hc hasBody hid
  rw [mergeHeaders_eq, hdefaults, ok_bind] at h
  rcases bind_eq_error_iff.1 h with hown | ⟨merged, -, h⟩
  · obtain ⟨name, details, rfl, hmem⟩ := ownHeaders_error hown
    exact ⟨name, details, rfl, Or.inl hmem⟩
  · obtain ⟨versioned, hversioned⟩ := exists_putVersion merged hc version
    rw [hversioned, ok_bind] at h
    obtain ⟨name, details, rfl, hcredential⟩ := credentialHeaders_error h
    exact ⟨name, details, rfl, Or.inr hcredential⟩

end Plan

/-! ## The check and the merging -/

variable {ρ : Type} [Request ρ]

/-- Under any two configurations that can be sent, a request is refused alike. -/
theorem Transport.prepare_failAlike (t : Transport) {c c' : Config} (hc : c.Sendable)
    (hc' : c'.Sendable) (r : ρ) (s : Surroundings) {requestId : String}
    (hid : Http.isValue requestId = true) :
    FailAlike (prepare { t with config := c } r s requestId)
      (prepare { t with config := c' } r s requestId) := by
  have hresolve : resolve { t with config := c } r s = resolve { t with config := c' } r s := rfl
  rw [prepare_eq_bind, prepare_eq_bind, hresolve]
  apply Agree.bind_same
  intro u
  apply Agree.bind_same
  intro credential
  rw [Plan.of_eq, Plan.of_eq]
  apply Agree.bind_same
  intro u
  apply (Plan.mergeHeaders_failAlike hc hc' _ _ _ _ _ credential hid).bind
  intro headers headers' _
  exact .ok trivial

namespace Config

/-- **The check agrees with merging.**  Let the base of a configuration be a URL of the web.  The
configuration is valid if and only if its headers can be merged, with or without a body and whatever
the version is.  Then merging fails only with an error that names one of the request's own headers,
or one of its credential; and a request is refused under this configuration exactly as it is refused
under any other valid one. -/
theorem validate_iff_mergeHeaders {c : Config} (hbase : c.HasWebBase) {requestId : String}
    (hid : Http.isValue requestId = true) :
    (∀ hasBody version, c.validate = .ok () ↔
        ∃ headers, Plan.mergeHeaders c hasBody version ∅ none requestId = .ok headers) ∧
      (c.validate = .ok () →
        (∀ hasBody version own credential e,
          Plan.mergeHeaders c hasBody version own credential requestId = .error e →
            ∃ name message context, e = .validation message context ∧
              context.fieldPath = some ("request.header." ++ name) ∧
              (name ∈ own.names ∨
                credential.isSome = true ∧ name ∈ ["authorization", Plan.sessionHeader])) ∧
        ∀ c', c'.validate = .ok () → ∀ (t : Transport) (r : ρ) (s : Surroundings) (e : Error),
          Transport.prepare { t with config := c } r s requestId = .error e ↔
            Transport.prepare { t with config := c' } r s requestId = .error e) := by
  refine ⟨?_, ?_⟩
  · intro hasBody version
    rw [validate_eq_ok_iff, Plan.exists_mergeHeaders_iff hid]
    exact and_iff_right hbase
  · intro hvalid
    have hc := (validate_eq_ok_iff.1 hvalid).2
    refine ⟨?_, ?_⟩
    · intro hasBody version own credential e he
      obtain ⟨name, details, rfl, hname⟩ := Plan.mergeHeaders_error_of_sendable hc hid he
      exact ⟨name, _, _, rfl, rfl, hname⟩
    · intro c' hvalid' t r s e
      have hc' := (validate_eq_ok_iff.1 hvalid').2
      exact (t.prepare_failAlike hc hc' r s hid).error_iff e

/-- A configuration with a tab and a letter outside ASCII in its agent, an empty version, and the
name of a default for its version. -/
def unusualConfig : Config :=
  { Config.new "http://127.0.0.1:18080" with
    userAgent := "ag\tent é", appVersion := some "", versionHeader := "ACCEPT" }

/-- The unusual configuration is valid since its headers can be merged, and an error under it is
about the request's own header or the credential. -/
theorem validate_iff_mergeHeaders_of_unusualConfig :
    unusualConfig.HasWebBase ∧ Http.isValue "id-1" = true ∧ unusualConfig.validate = .ok () ∧
      ∃ e name message context,
        Plan.mergeHeaders unusualConfig true 7 (.ofList [("no name", .null)]) (some ⟨"s\n1", "t"⟩)
            "id-1" = .error e ∧
          e = .validation message context ∧
          context.fieldPath = some ("request.header." ++ name) ∧
          name ∈ ["no name", "authorization", "x-session-id"] := by
  have hbase : unusualConfig.HasWebBase := by
    have hread : (Url.parse unusualConfig.baseUrl.toList).toOption.map
        (fun u => Url.isWebScheme u.scheme) = some true := by decide +kernel
    cases hu : Url.parse unusualConfig.baseUrl.toList with
    | error f =>
      rw [hu] at hread
      cases hread
    | ok u =>
      rw [hu] at hread
      exact ⟨u, hu, Option.some.inj hread⟩
  have hid : Http.isValue "id-1" = true := by decide
  obtain ⟨hiff, herrors⟩ := @validate_iff_mergeHeaders Descriptor _ unusualConfig hbase "id-1" hid
  have hvalid : unusualConfig.validate = .ok () :=
    (hiff true 7).2 (Result.exists_of_isOk (by decide +kernel))
  have hfails : (Plan.mergeHeaders unusualConfig true 7 (.ofList [("no name", .null)])
      (some ⟨"s\n1", "t"⟩) "id-1").isOk = false := by decide +kernel
  cases hmerge : Plan.mergeHeaders unusualConfig true 7 (.ofList [("no name", .null)])
      (some ⟨"s\n1", "t"⟩) "id-1" with
  | ok headers =>
    rw [hmerge] at hfails
    cases hfails
  | error e =>
    obtain ⟨name, message, context, he, hpath, hname⟩ := (herrors hvalid).1 _ _ _ _ e hmerge
    refine ⟨hbase, hid, hvalid, e, name, message, context, rfl, he, hpath, ?_⟩
    rcases hname with hname | ⟨-, hname⟩
    · rw [List.mem_singleton.1 hname]
      decide
    · exact List.mem_cons_of_mem _ hname

end Config

/-! ## The version -/

namespace Plan

/-- Whether headers carry a version under its name, and the two headers of a credential.  The
version gives way where both are to have one name. -/
structure Stamped (c : Config) (version : UInt32) (credential : Option Credential)
    (headers : Http.Headers) : Prop where
  version : credential = none ∨ Http.lower c.versionHeader ∉ ["authorization", sessionHeader] →
    ∀ v, (Http.lower c.versionHeader, v) ∈ headers ↔ v = Text.decimal version.toNat
  token : ∀ k ∈ credential, ∀ v, ("authorization", v) ∈ headers ↔ v = "Bearer " ++ k.accessToken
  session : ∀ k ∈ credential, ∀ v, (sessionHeader, v) ∈ headers ↔ v = k.sessionId

/-- A name that a credential has no header for is left to the version. -/
theorem credentialValue?_eq_none {credential : Option Credential} {key : String}
    (h : credential = none ∨ key ∉ ["authorization", sessionHeader]) :
    credentialValue? credential key = none := by
  rcases h with rfl | hkey
  · rfl
  · simp only [List.mem_cons, List.not_mem_nil, or_false, not_or] at hkey
    cases credential with
    | none => rfl
    | some k => simp [credentialValue?, hkey.1, hkey.2]

theorem stamped_mergeHeaders {c : Config} {hasBody : Bool} {version : UInt32}
    {own : Table Json.Value} {credential : Option Credential} {requestId : String}
    {headers : Http.Headers}
    (h : mergeHeaders c hasBody version own credential requestId = .ok headers) :
    Stamped c version credential headers := by
  have hne : "authorization" ≠ sessionHeader := by decide
  refine ⟨?_, ?_, ?_⟩
  · intro hfree
    apply Table.mem_iff_of_find?
    rw [find?_mergeHeaders h, credentialValue?_eq_none hfree, Option.none_or, versionValue?,
      if_pos rfl, Option.some_or]
  · rintro k rfl
    apply Table.mem_iff_of_find?
    rw [find?_mergeHeaders h, credentialValue?, if_neg hne, if_pos rfl, Option.some_or]
  · rintro k rfl
    apply Table.mem_iff_of_find?
    rw [find?_mergeHeaders h, credentialValue?, if_pos rfl, Option.some_or]

/-- **The version of a request stands under its header**, whatever headers the request has of its
own, unless that header is one of the two of the credential that is sent.  These two stand in every
plan that is made with a credential, whether it is handed over or resolved. -/
theorem version_stamped (c : Config) (r : ρ) (requestId : String) :
    (∀ credential p, Plan.of c r credential requestId = .ok p →
        Stamped c (Request.version r) credential p.headers) ∧
      ∀ (t : Transport) (s : Surroundings) (p : Plan), t.config = c →
        t.prepare r s requestId = .ok p →
          ∃ credential, t.Resolves r s credential ∧
            Stamped c (Request.version r) credential p.headers := by
  refine ⟨?_, ?_⟩
  · intro credential p hp
    exact stamped_mergeHeaders (headersOf_of_ok hp)
  · rintro t s p rfl hp
    cases Transport.prepare_eq_iff.1 hp with
    | planned hpath hresolves hmerge =>
      exact ⟨_, hresolves, stamped_mergeHeaders hmerge⟩

/-- A request that tries to set its version itself, with a token. -/
def insistentRequest : Descriptor :=
  ((Descriptor.new "/users").withHeader "X-API-version" (.string "9")).withCredential
    ⟨"s-1", "token"⟩

/-- The version of the request stands over its own header of that name. -/
theorem version_stamped_of_insistentRequest :
    ∃ p, Plan.of (Config.new "http://127.0.0.1:18080") insistentRequest (some ⟨"s-1", "token"⟩)
        "id-1" = .ok p ∧
      ∀ v, ("x-api-version", v) ∈ p.headers ↔ v = "3" := by
  have hlower : Http.lower (Config.new "http://127.0.0.1:18080").versionHeader =
      "x-api-version" := by decide
  obtain ⟨p, hp⟩ := Result.exists_of_isOk (x := Plan.of (Config.new "http://127.0.0.1:18080")
    insistentRequest (some ⟨"s-1", "token"⟩) "id-1") (by decide +kernel)
  have hstamped :=
    (version_stamped (Config.new "http://127.0.0.1:18080") insistentRequest "id-1").1 _ p hp
  have hversion := hstamped.version (Or.inr (by decide))
  rw [hlower] at hversion
  exact ⟨p, hp, hversion⟩

/-- A configuration whose version goes under a name of the credential. -/
def versionAsToken : Config :=
  { Config.new "http://127.0.0.1:18080" with versionHeader := "Authorization" }

/-- This configuration is valid, and yet the version of a request that is sent with a credential
stands nowhere in its plan. -/
theorem version_not_stamped_under_authorization :
    versionAsToken.validate = .ok () ∧
      ∃ p, Plan.of versionAsToken (Descriptor.new "/users") (some ⟨"s-1", "token"⟩) "id-1" =
          .ok p ∧
        (∀ v, (Http.lower versionAsToken.versionHeader, v) ∈ p.headers ↔ v = "Bearer token") ∧
        ∀ e ∈ p.headers, e.2 ≠ Text.decimal (Descriptor.new "/users").version.toNat := by
  have hvalid : versionAsToken.validate.isOk = true := by decide +kernel
  have hplan : ((Plan.of versionAsToken (Descriptor.new "/users") (some ⟨"s-1", "token"⟩)
      "id-1").toOption.map fun p => (p.headers.find? "authorization", p.headers.entries.all
        fun e => e.2 != Text.decimal (Descriptor.new "/users").version.toNat)) =
      some (some "Bearer token", true) := by decide +kernel
  have hlower : Http.lower versionAsToken.versionHeader = "authorization" := by decide
  obtain ⟨⟨⟩, hvalid⟩ := Result.exists_of_isOk hvalid
  cases hp : Plan.of versionAsToken (Descriptor.new "/users") (some ⟨"s-1", "token"⟩) "id-1" with
  | error e =>
    rw [hp] at hplan
    cases hplan
  | ok p =>
    rw [hp] at hplan
    obtain ⟨htoken, hothers⟩ := Prod.mk.inj (Option.some.inj hplan)
    refine ⟨hvalid, p, rfl, ?_, ?_⟩
    · rw [hlower]
      exact Table.mem_iff_of_find? htoken
    · intro e he
      simpa using List.all_eq_true.1 hothers e he

end Plan

end Courier
