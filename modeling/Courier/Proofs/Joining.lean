import Courier.Proofs.Origin
import Courier.Proofs.Segments

/-!
# Paths behind base URLs

A path is put behind the text of a base URL, which is checked as a URL of its own.  The two agree if
the base has nothing behind its path and does not end in a control or blank: then every plain path
makes a URL, and stands escaped behind the directory of the base.

* `Plan.joinUrl_appends` — **a plain path is appended** to the path of such a base.
* `Plan.joinUrl_appends_not_behind_blank`, `Plan.path_of_joinUrl_behind_query` — behind other bases
  it is not.
-/

namespace Courier

/-! ## URLs without query and fragment -/

namespace Url

theorem behindAuthority_of_path {scheme rest : List Char} {a : Authority}
    (h : ∀ c ∈ rest, isPathChar c = true) :
    behindAuthority scheme a rest = ⟨scheme, some a, readPath true rest, none, none⟩ := by
  rw [behindAuthority, List.takeWhile_eq_self_iff.2 h, List.dropWhile_eq_nil_iff.2 h]
  rfl

/-- There is neither a query nor a fragment if all that follows an authority is a path. -/
theorem noTail_iff {u : Url} {scheme rest : List Char} {a : Authority}
    (hu : u = behindAuthority scheme a rest) :
    u.query = none ∧ u.fragment = none ↔ ∀ c ∈ rest, isPathChar c = true := by
  subst hu
  constructor
  · rintro ⟨hquery, hfragment⟩
    cases hbehind : rest.dropWhile isPathChar with
    | nil => exact List.dropWhile_eq_nil_iff.1 hbehind
    | cons d more =>
      exfalso
      have hstops := List.head?_dropWhile_not isPathChar rest
      rw [hbehind] at hstops
      by_cases hquestion : d = '?'
      · simp [behindAuthority, hbehind, withTail, hquestion] at hquery
      · obtain rfl : d = '#' := by simpa [isPathChar, hquestion] using hstops
        simp [behindAuthority, hbehind, withTail] at hfragment
  · intro h
    rw [behindAuthority_of_path h]
    exact ⟨rfl, rfl⟩

/-- A path behind an authority begins with a slash of either kind. -/
theorem isSlash_of_endsFirst {rest : List Char} (h : EndsFirst rest)
    (hchars : ∀ c ∈ rest, isPathChar c = true) :
    ∀ c, rest.head? = some c → isSlash c = true := by
  intro c hc
  have hpath := hchars c (List.mem_of_head? hc)
  rcases eq_of_endsAuthority (h c hc) with rfl | rfl | rfl | rfl
  · decide
  · cases hpath
  · cases hpath
  · decide

/-- A query or fragment in front of more keeps it out of the path. -/
theorem path_behindAuthority_append {scheme rest : List Char} {a : Authority}
    (h : ¬∀ c ∈ rest, isPathChar c = true) (more : List Char) :
    (behindAuthority scheme a (rest ++ more)).path = (behindAuthority scheme a rest).path := by
  cases hbehind : rest.dropWhile isPathChar with
  | nil => exact absurd (List.dropWhile_eq_nil_iff.1 hbehind) h
  | cons d tail =>
    rw [behindAuthority, behindAuthority, path_withTail, path_withTail,
      Text.takeWhile_append_of_dropWhile hbehind]

end Url

/-! ## Plain paths and bases -/

namespace Plan

/-- A path that is nothing but a path: no query, no fragment, and no segments of dots. -/
structure PlainPath (path : List Char) : Prop where
  noQuery : '?' ∉ path
  noFragment : '#' ∉ path
  segments : Url.PlainSegments path

theorem PlainPath.isPathChar {path : List Char} (h : PlainPath path) :
    ∀ c ∈ path, Url.isPathChar c = true := by
  intro c hc
  have hquestion : c ≠ '?' := fun heq => h.noQuery (heq ▸ hc)
  have hhash : c ≠ '#' := fun heq => h.noFragment (heq ▸ hc)
  simp [Url.isPathChar, hquestion, hhash]

/-- Behind the directory of a path, such a path follows with its escapes. -/
theorem PlainPath.text_readPath {path rest : List Char} (h : PlainPath path)
    (hslash : path.head? = some '/') (hrest : ∀ c, rest.head? = some c → Url.isSlash c = true) :
    (Url.readPath true (rest ++ path)).text =
      (Url.Path.segments (Url.directoryOf rest)).text ++ Url.escape Url.inPathSet path := by
  obtain ⟨tail, rfl⟩ := List.head?_eq_some_iff.1 hslash
  have hsegments : Url.PlainSegments ([] ++ '/' :: tail) := h.segments
  rw [Url.escape_slash_cons]
  exact Url.text_readPath_append hrest hsegments.of_append.2

/-- A base URL without controls and blanks, and without segments of dots. -/
structure PlainBase (base : List Char) : Prop where
  noEdges : ∀ c ∈ base, Url.isEdge c = false
  segments : Url.PlainSegments base

/-- What is read of such a base in front of a path is the base without its slashes at the end. -/
theorem PlainBase.stem_eq {base : List Char} (h : PlainBase base) :
    Url.stem base = Text.dropTrailing (· == '/') base := by
  obtain ⟨slashes, hbase, -⟩ := Text.exists_dropTrailing (· == '/') base
  have hedges : ∀ c ∈ Text.dropTrailing (· == '/') base, Url.isEdge c = false := by
    intro c hc
    apply h.noEdges
    rw [hbase]
    exact List.mem_append_left slashes hc
  have hfirst : (Text.dropTrailing (· == '/') base).dropWhile Url.isEdge =
      Text.dropTrailing (· == '/') base := by
    cases hfront : Text.dropTrailing (· == '/') base with
    | nil => rfl
    | cons c cs =>
      rw [hfront] at hedges
      exact List.dropWhile_cons_of_neg (by simp [hedges c List.mem_cons_self])
  rw [Url.stem, hfirst, Url.unskipped_of_no_edge hedges]

/-- What is read of such a base behind its authority is plain, too, and its directory does not end
in a slash. -/
theorem PlainBase.text_directoryOf {base rest : List Char} (h : PlainBase base)
    (hrest : rest <:+ Url.stem base) (hslash : ∀ c, rest.head? = some c → Url.isSlash c = true) :
    ((Url.Path.segments (Url.directoryOf rest)).text).getLast? ≠ some '/' := by
  obtain ⟨slashes, hbase, hall⟩ := Text.exists_dropTrailing (· == '/') base
  obtain ⟨front, hfront⟩ := hrest
  rw [h.stem_eq] at hfront
  cases rest with
  | nil => simp [Url.directoryOf, Url.Path.text]
  | cons c rest =>
    have hc : c = '/' := by
      rcases Url.eq_of_isSlash (hslash c rfl) with hc | rfl
      · exact hc
      · refine absurd ?_ h.segments.noBackslash
        rw [hbase, ← hfront]
        simp
    subst hc
    have hplain : Url.PlainSegments rest := by
      have hsegments := h.segments
      rw [hbase, ← hfront] at hsegments
      cases slashes with
      | nil =>
        rw [List.append_nil] at hsegments
        exact hsegments.of_append.2
      | cons d slashes =>
        obtain rfl : d = '/' := by simpa using hall d List.mem_cons_self
        exact hsegments.of_append.1.of_append.2
    rw [Url.text_directoryOf hplain]
    apply Url.getLast?_escape_ne
    intro hlast
    have hend : (Text.dropTrailing (· == '/') base).getLast? = some '/' := by
      rw [← hfront, List.getLast?_append, hlast, Option.some_or]
    exact absurd (Text.getLast?_dropTrailing hend) (by decide)

/-! ## Appending -/

/-- **A plain path is appended.**  Let the base URL of a valid configuration have neither a query
nor a fragment, and let its text not end in a control or blank.  Then every plain path makes a URL,
which differs from the base in its path only: the path is put with its escapes behind what the base
has in front of some of its slashes at the end.  These are all its slashes at the end if the text of
the base holds no controls, blanks and backslashes, and no segments of dots. -/
theorem joinUrl_appends {c : Config} {path : String} {u : Url} (hvalid : c.validate = .ok ())
    (hpath : validatePath path = .ok ()) (hplain : PlainPath path.toList)
    (hu : Url.parse c.baseUrl.toList = .ok u) (hquery : u.query = none)
    (hfragment : u.fragment = none)
    (hend : ∀ ch, (Url.unskipped c.baseUrl.toList).getLast? = some ch → Url.isEdge ch = false) :
    ∃ v, Url.parse (joinUrl c.baseUrl path).toList = .ok v ∧ Url.isWebScheme v.scheme = true ∧
      v = { u with path := v.path } ∧
      (∃ kept k, u.path.text = kept ++ List.replicate k '/' ∧
        v.path.text = kept ++ Url.escape Url.inPathSet path.toList) ∧
      (PlainBase c.baseUrl.toList →
        v.path.text = Text.dropTrailing (· == '/') u.path.text ++
          Url.escape Url.inPathSet path.toList) := by
  obtain ⟨w, hw, hweb⟩ := Config.exists_base_of_validate hvalid
  obtain rfl := Except.ok.inj (hw.symm.trans hu)
  obtain ⟨hslash, hedges⟩ := of_validatePath hpath
  cases Url.joins hu hweb hslash hedges with
  | edges hne htrailing _ _ => exact absurd (htrailing.eq_nil hend) hne
  | refused hne htrailing _ => exact absurd (htrailing.eq_nil hend) hne
  | slashes hrest hends hbase hv =>
    rename_i a rest k
    have hchars := (Url.noTail_iff hbase).1 ⟨hquery, hfragment⟩
    have hrestChars : ∀ ch ∈ rest, Url.isPathChar ch = true := fun ch hch =>
      hchars ch (List.mem_append_left _ hch)
    have hjoinedChars : ∀ ch ∈ rest ++ path.toList, Url.isPathChar ch = true := by
      intro ch hch
      rcases List.mem_append.1 hch with hch | hch
      · exact hrestChars ch hch
      · exact hplain.isPathChar ch hch
    have hslashes := Url.isSlash_of_endsFirst hends hrestChars
    rw [Url.behindAuthority_of_path hchars] at hbase
    rw [Url.behindAuthority_of_path hjoinedChars, ← toList_joinUrl] at hv
    have htext := hplain.text_readPath hslash hslashes
    obtain ⟨j, hj⟩ := Url.exists_text_readPath hslashes k
    have hpathOf : w.path = Url.readPath true (rest ++ List.replicate k '/') :=
      congrArg Url.path hbase
    have hauthority : w.authority = some a := congrArg Url.authority hbase
    refine ⟨_, hv, hweb, ?_, ⟨_, j, hpathOf ▸ hj, htext⟩, ?_⟩
    · simp [hauthority, hquery, hfragment]
    · intro hplainBase
      have hkept := hplainBase.text_directoryOf hrest hslashes
      rw [hpathOf, hj, Text.dropTrailing_append_replicate hkept]
      exact htext

/-- A path with braces behind a base with slashes at its end. -/
theorem joinUrl_appends_bracedPath :
    ∃ v, Url.parse (joinUrl "http://user@Example.com/api//" "/mail/\x7bid\x7d").toList = .ok v ∧
      v.path.text = "/api/mail/%7Bid%7D".toList := by
  have hvalid : (Config.new "http://user@Example.com/api//").validate.isOk = true := by
    decide +kernel
  have hpath : (validatePath "/mail/\x7bid\x7d").isOk = true := by decide +kernel
  have hplain : PlainPath "/mail/\x7bid\x7d".toList :=
    ⟨by decide, by decide, by decide, by decide +kernel⟩
  have hedges : ("http://user@Example.com/api//".toList).any Url.isEdge = false := by decide
  have hbase : PlainBase "http://user@Example.com/api//".toList :=
    ⟨fun ch hch => by simpa using List.any_eq_false.1 hedges ch hch, by decide, by decide +kernel⟩
  have hlast : (Url.unskipped "http://user@Example.com/api//".toList).getLast? = some '/' := by
    decide
  have hend : ∀ ch, (Url.unskipped "http://user@Example.com/api//".toList).getLast? = some ch →
      Url.isEdge ch = false := by
    intro ch hch
    obtain rfl := Option.some.inj (hlast.symm.trans hch)
    decide
  have hread : ((Url.parse "http://user@Example.com/api//".toList).toOption.map fun u =>
      (u.query, u.fragment, u.path.text)) = some (none, none, "/api//".toList) := by
    decide +kernel
  obtain ⟨⟨⟩, hvalid⟩ := Result.exists_of_isOk hvalid
  obtain ⟨⟨⟩, hpath⟩ := Result.exists_of_isOk hpath
  obtain ⟨u, hu, -⟩ := Config.exists_base_of_validate hvalid
  have hu' : Url.parse "http://user@Example.com/api//".toList = .ok u := hu
  rw [hu'] at hread
  simp only [Except.toOption, Option.map_some, Option.some.injEq, Prod.mk.injEq] at hread
  obtain ⟨hquery, hfragment, htext⟩ := hread
  obtain ⟨v, hv, -, -, -, happended⟩ :=
    joinUrl_appends hvalid hpath hplain hu hquery hfragment hend
  refine ⟨v, hv, ?_⟩
  rw [happended hbase, htext]
  decide +kernel

/-- The base URL of this configuration is valid, and yet no path makes a URL of it: what is dropped
behind the base alone falls into the port when a path follows. -/
theorem joinUrl_appends_not_behind_blank :
    (Config.new "http://127.0.0.1:18080 ").validate = .ok () ∧
      validatePath "/users" = .ok () ∧ PlainPath "/users".toList ∧
      ∀ v, Url.parse (joinUrl (Config.new "http://127.0.0.1:18080 ").baseUrl "/users").toList ≠
        .ok v := by
  have hvalid : (Config.new "http://127.0.0.1:18080 ").validate.isOk = true := by decide +kernel
  have hpath : (validatePath "/users").isOk = true := by decide +kernel
  have hjoined : (Url.parse (joinUrl (Config.new "http://127.0.0.1:18080 ").baseUrl
      "/users").toList).isOk = false := by
    decide +kernel
  obtain ⟨⟨⟩, hvalid⟩ := Result.exists_of_isOk hvalid
  obtain ⟨⟨⟩, hpath⟩ := Result.exists_of_isOk hpath
  refine ⟨hvalid, hpath, ⟨by decide, by decide, by decide, by decide +kernel⟩, ?_⟩
  intro v hv
  rw [hv] at hjoined
  cases hjoined

/-- **Behind a query or a fragment, a path is lost.**  If the base URL of a valid configuration has
one, and a path makes a URL of it, then this has the path of the base alone. -/
theorem path_of_joinUrl_behind_query {c : Config} {path : String} {u v : Url}
    (hvalid : c.validate = .ok ()) (hpath : validatePath path = .ok ())
    (hu : Url.parse c.baseUrl.toList = .ok u) (hbehind : ¬(u.query = none ∧ u.fragment = none))
    (hv : Url.parse (joinUrl c.baseUrl path).toList = .ok v) : v.path = u.path := by
  obtain ⟨w, hw, hweb⟩ := Config.exists_base_of_validate hvalid
  obtain rfl := Except.ok.inj (hw.symm.trans hu)
  obtain ⟨hslash, hedges⟩ := of_validatePath hpath
  rw [toList_joinUrl] at hv
  cases Url.joins hu hweb hslash hedges with
  | refused hne htrailing hrefused => exact absurd hv (hrefused v)
  | slashes hsuffix hends hbase hjoined =>
    rename_i a rest k
    obtain rfl := Except.ok.inj (hjoined.symm.trans hv)
    have hrest : ¬∀ ch ∈ rest, Url.isPathChar ch = true := by
      intro hchars
      apply hbehind
      have hall : ∀ ch ∈ rest ++ List.replicate k '/', Url.isPathChar ch = true := by
        intro ch hch
        rcases List.mem_append.1 hch with hch | hch
        · exact hchars ch hch
        · rw [List.eq_of_mem_replicate hch]
          decide
      exact (Url.noTail_iff hbase).2 hall
    calc (Url.behindAuthority w.scheme a (rest ++ path.toList)).path
        = (Url.behindAuthority w.scheme a rest).path := Url.path_behindAuthority_append hrest _
      _ = (Url.behindAuthority w.scheme a (rest ++ List.replicate k '/')).path :=
          (Url.path_behindAuthority_append hrest _).symm
      _ = w.path := by rw [← hbase]
  | edges hne htrailing hbase hjoined =>
    rename_i a rest edges
    obtain rfl := Except.ok.inj (hjoined.symm.trans hv)
    have hrest : ¬∀ ch ∈ rest, Url.isPathChar ch = true := fun hchars =>
      hbehind ((Url.noTail_iff hbase).2 hchars)
    rw [Url.path_behindAuthority_append hrest, ← hbase]

end Plan

end Courier
