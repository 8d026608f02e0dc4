import Courier.Proofs.Joined
import Courier.Proofs.Preparation
import Courier.Proofs.Sending

/-!
# Where requests go

A path cannot lead a request away from the configured server.  Whatever a path holds that has been
accepted, the URL that it makes of the base URL has the scheme, the user, the host and the port of
the base, and a message that is sent without a proxy comes to no other server.

* `Plan.authority_of_joinUrl` — a joined URL has the scheme and authority of the base.
* `Transport.path_keeps_origin` — **the path decides nothing about where a request goes**.
-/

namespace Courier

open Result (bind_eq_ok_iff)

/-! ## What the checks say -/

/-- The base URL of a valid configuration is a URL of the web. -/
theorem Config.exists_base_of_validate {c : Config} (h : c.validate = .ok ()) :
    ∃ u, Url.parse c.baseUrl.toList = .ok u ∧ Url.isWebScheme u.scheme = true := by
  unfold validate at h
  split at h
  · cases h
  · rename_i u hu
    split at h
    · cases h
    · rename_i hweb
      exact ⟨u, hu, by simpa using hweb⟩

namespace Plan

/-- An accepted path begins with a slash, and has no controls and blanks. -/
theorem of_validatePath {path : String} (h : validatePath path = .ok ()) :
    path.toList.head? = some '/' ∧ ∀ c ∈ path.toList, Url.isEdge c = false := by
  unfold validatePath at h
  simp only at h
  split at h
  · cases h
  · split at h
    · cases h
    · split at h
      · cases h
      · rename_i hslash
        split at h
        · cases h
        · rename_i hplain
          refine ⟨by simpa using hslash, ?_⟩
          intro c hc
          have hneither : ¬(Text.isBlank c || Text.isControl c) = true := fun hc' =>
            hplain (List.any_eq_true.2 ⟨c, hc, hc'⟩)
          have hlarge : ¬c.toNat ≤ 0x20 := by
            intro hsmall
            apply hneither
            simp only [Text.isBlank, Text.isControl, Bool.or_eq_true, Bool.and_eq_true,
              decide_eq_true_eq, beq_iff_eq]
            omega
          simpa [Url.isEdge] using hlarge

theorem toList_joinUrl (baseUrl path : String) :
    (joinUrl baseUrl path).toList =
      Text.dropTrailing (· == '/') baseUrl.toList ++ path.toList := by
  rw [joinUrl, String.toList_ofList]

/-- A joined URL has the scheme and authority of the base. -/
theorem authority_of_joinUrl {baseUrl path : String} {u v : Url}
    (hbase : Url.parse baseUrl.toList = .ok u) (hweb : Url.isWebScheme u.scheme = true)
    (hpath : validatePath path = .ok ())
    (hjoined : Url.parse (joinUrl baseUrl path).toList = .ok v) :
    v.scheme = u.scheme ∧ v.authority = u.authority := by
  obtain ⟨hslash, hplain⟩ := of_validatePath hpath
  rw [toList_joinUrl] at hjoined
  cases Url.joins hbase hweb hslash hplain with
  | slashes _ _ hu hv =>
    obtain rfl := Except.ok.inj (hv.symm.trans hjoined)
    rw [hu]
    simp [Url.behindAuthority]
  | edges _ _ hu hv =>
    obtain rfl := Except.ok.inj (hv.symm.trans hjoined)
    rw [hu]
    simp [Url.behindAuthority]
  | refused _ _ hnone => exact absurd hjoined (hnone v)

end Plan

/-! ## The first hop -/

namespace Url

variable (u : Url) (pairs : List (String × String))

@[simp] theorem scheme_anonymous : u.anonymous.scheme = u.scheme := rfl

@[simp] theorem host?_anonymous : u.anonymous.host? = u.host? := by
  cases hu : u.authority with
  | none => simp [host?, anonymous, hu]
  | some a => simp [host?, anonymous, hu]

@[simp] theorem port?_anonymous : u.anonymous.port? = u.port? := by
  cases hu : u.authority with
  | none => simp [port?, anonymous, hu]
  | some a => simp [port?, anonymous, hu]

@[simp] theorem scheme_withPairs : (u.withPairs pairs).scheme = u.scheme := rfl

@[simp] theorem host?_withPairs : (u.withPairs pairs).host? = u.host? := rfl

@[simp] theorem port?_withPairs : (u.withPairs pairs).port? = u.port? := rfl

end Url

namespace Client

/-- Two URLs with one scheme, host and port. -/
def SameOrigin (u v : Url) : Prop :=
  u.scheme = v.scheme ∧ u.host? = v.host? ∧ u.port? = v.port?

theorem sameOrigin_of_authority {u v : Url} (hscheme : u.scheme = v.scheme)
    (hauthority : u.authority = v.authority) : SameOrigin u v :=
  ⟨hscheme, by rw [Url.host?, Url.host?, hauthority],
    by rw [Url.port?, Url.port?, hauthority, hscheme]⟩

/-- The first hop of a plan goes where its URL says. -/
theorem sameOrigin_start (client : Client) (p : Plan) (u : Url) :
    SameOrigin (client.start p u).url u := by
  simp only [start]
  split
  · split
    · simp [SameOrigin]
    · simp [SameOrigin]
  · split
    · simp [SameOrigin]
    · simp [SameOrigin]

theorem exists_parse_of_begin? {client : Client} {p : Plan} {h : Hop}
    (hbegin : client.begin? p = some h) :
    ∃ v, Url.parse p.url.toList = .ok v ∧ SameOrigin h.url v := by
  obtain ⟨v, hv, rfl⟩ := exists_start_of_begin? hbegin
  exact ⟨v, hv, sameOrigin_start client p v⟩

/-- Without a proxy, what a hop sends goes to the server of its URL and to no other. -/
theorem listener_of_deliver {client : Client} (hproxy : client.proxy = none) {h : Hop}
    {n : Network} (hsent : (client.deliver h n).2 ≠ n) :
    ∃ host port, h.url.host? = some host ∧ h.url.port? = some port ∧
      n.listener = some (host, port) := by
  unfold deliver at hsent
  split at hsent
  · rename_i host port hhost hport
    refine ⟨host, port, hhost, hport, ?_⟩
    simp only [hproxy] at hsent
    unfold Network.exchange at hsent
    split at hsent
    · rename_i hconnects
      exact hconnects.1
    · exact absurd rfl hsent
  · exact absurd rfl hsent

end Client

/-! ## Requests -/

namespace Transport

variable {ρ : Type} [Request ρ]

theorem url_of_prepare {t : Transport} {r : ρ} {s : Surroundings} {requestId : String} {p : Plan}
    (h : t.prepare r s requestId = .ok p) :
    Plan.validatePath (Request.path r) = .ok () ∧
      p.url = Plan.joinUrl t.config.baseUrl (Request.path r) := by
  cases prepare_eq_iff.1 h with
  | planned hpath hresolves hmerge => exact ⟨hpath, rfl⟩

/-- **The path decides nothing about where a request goes.**  The base URL of a valid configuration
is a URL; whatever an accepted path makes of it has the same scheme and the same user, password,
host and port, if it is a URL at all; and the first message of any request comes to the server of
the base, or through a proxy asks for it. -/
theorem path_keeps_origin (t : Transport) (hvalid : t.config.validate = .ok ()) :
    ∃ u, Url.parse t.config.baseUrl.toList = .ok u ∧
      (∀ path, Plan.validatePath path = .ok () → ∀ v,
        Url.parse (Plan.joinUrl t.config.baseUrl path).toList = .ok v →
          v.scheme = u.scheme ∧ v.authority = u.authority ∧ Client.SameOrigin v u) ∧
      ∀ (r : ρ) (s : Surroundings) (requestId : String) (p : Plan) (h : Client.Hop),
        t.prepare r s requestId = .ok p → t.client.begin? p = some h →
          Client.SameOrigin h.url u ∧
            (t.client.proxy = none → ∀ n, (t.client.deliver h n).2 ≠ n →
              ∃ host port, u.host? = some host ∧ u.port? = some port ∧
                n.listener = some (host, port)) := by
  obtain ⟨u, hu, hweb⟩ := Config.exists_base_of_validate hvalid
  refine ⟨u, hu, ?_, ?_⟩
  · intro path hpath v hv
    obtain ⟨hscheme, hauthority⟩ := Plan.authority_of_joinUrl hu hweb hpath hv
    exact ⟨hscheme, hauthority, Client.sameOrigin_of_authority hscheme hauthority⟩
  · intro r s requestId p h hprepare hbegin
    obtain ⟨hpath, hurl⟩ := url_of_prepare hprepare
    obtain ⟨v, hv, hhop⟩ := Client.exists_parse_of_begin? hbegin
    rw [hurl] at hv
    obtain ⟨hscheme, hauthority⟩ := Plan.authority_of_joinUrl hu hweb hpath hv
    obtain ⟨hschemes, hhosts, hports⟩ := hhop
    obtain ⟨-, hhost, hport⟩ := Client.sameOrigin_of_authority hscheme hauthority
    refine ⟨⟨hschemes.trans hscheme, hhosts.trans hhost, hports.trans hport⟩, ?_⟩
    intro hproxy n hsent
    obtain ⟨host, port, hhop, hhopPort, hlistener⟩ := Client.listener_of_deliver hproxy hsent
    exact ⟨host, port, by rw [← hhost, ← hhosts, hhop], by rw [← hport, ← hports, hhopPort],
      hlistener⟩

/-- A server of its own name, with a user and a port. -/
def toNamedServer : Transport := ⟨.new "http://user:pw@Example.com:8080/api/", ⟨none⟩, .none⟩

/-- A request whose path looks like another server, with a user, a port and a slash of the other
kind. -/
def misleadingRequest : Descriptor :=
  (Descriptor.new "//evil.example/@x:99\\y%2F").withCredential ⟨"s-1", "token"⟩

/-- The first hop of the misleading request goes to the configured server, with its token. -/
theorem path_keeps_origin_of_misleadingRequest :
    toNamedServer.config.validate = .ok () ∧
      ∃ p h, toNamedServer.prepare misleadingRequest ⟨[], []⟩ "id-1" = .ok p ∧
        toNamedServer.client.begin? p = some h ∧
        h.headers.find? "authorization" = some "Bearer token" ∧
        h.url.host? = some (.domain "example.com".toList) ∧ h.url.port? = some 8080 := by
  obtain ⟨⟨⟩, hvalid⟩ :=
    Result.exists_of_isOk (x := toNamedServer.config.validate) (by decide +kernel)
  have hbase : ((Url.parse toNamedServer.config.baseUrl.toList).toOption.map fun u =>
      (u.host?, u.port?)) = some (some (.domain "example.com".toList), some 8080) := by
    decide +kernel
  have hfirst : ((toNamedServer.prepare misleadingRequest ⟨[], []⟩ "id-1").toOption.bind
      toNamedServer.client.begin?).map (·.headers.find? "authorization") =
        some (some "Bearer token") := by
    decide +kernel
  obtain ⟨u, hu, -, hhops⟩ := @path_keeps_origin Descriptor _ toNamedServer hvalid
  cases hprepare : toNamedServer.prepare misleadingRequest ⟨[], []⟩ "id-1" with
  | error e =>
    rw [hprepare] at hfirst
    cases hfirst
  | ok p =>
    rw [hprepare] at hfirst
    obtain ⟨h, hbegin, htoken⟩ := Option.map_eq_some_iff.1 hfirst
    obtain ⟨⟨-, hhost, hport⟩, -⟩ := hhops _ _ _ p h hprepare hbegin
    rw [hu] at hbase
    obtain ⟨huHost, huPort⟩ := Prod.mk.inj (Option.some.inj hbase)
    exact ⟨hvalid, p, h, rfl, hbegin, htoken, hhost.trans huHost, hport.trans huPort⟩

end Transport

end Courier
