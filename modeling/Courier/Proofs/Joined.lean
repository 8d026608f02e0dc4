import Courier.Plan
import Courier.Proofs.Authority

/-!
# A path behind a base URL, as it is read

A base URL loses its slashes at the end, and a path is put behind it; only then is the text read as
a URL, without the controls and blanks around it and without any tabs and line ends.

* `Url.clean_joined` — what is read is the stem of the base and the path.
* `Url.stem_cases` — how the stem compares with the base as it is read alone.
* `Url.joins` — **base and joined text** have one scheme and one authority, unless the joined text
  is no URL.
-/

namespace Courier

open Result (bind_eq_ok_iff map_eq_ok_iff)

/-! ## Trimming -/

namespace Text

variable {p : Char → Bool}

/-- What is dropped at the end of a text is of the class. -/
theorem exists_dropTrailing (p : Char → Bool) (cs : List Char) :
    ∃ tail, cs = dropTrailing p cs ++ tail ∧ ∀ c ∈ tail, p c = true := by
  refine ⟨(cs.reverse.takeWhile p).reverse, ?_, ?_⟩
  · rw [dropTrailing, ← List.reverse_append, List.takeWhile_append_dropWhile, List.reverse_reverse]
  · intro c hc
    exact List.mem_takeWhile_imp (List.mem_reverse.1 hc)

/-- What is left does not end in a character of the class. -/
theorem getLast?_dropTrailing {cs : List Char} {c : Char}
    (h : (dropTrailing p cs).getLast? = some c) : p c = false := by
  rw [dropTrailing, List.getLast?_reverse] at h
  have hstops := List.head?_dropWhile_not p cs.reverse
  rw [h] at hstops
  simpa using hstops

/-- A text that does not end in a character of the class keeps its end. -/
theorem dropTrailing_of_getLast? {cs : List Char} {c : Char} (h : cs.getLast? = some c)
    (hc : p c = false) : dropTrailing p cs = cs := by
  obtain ⟨front, rfl⟩ := List.getLast?_eq_some_iff.1 h
  simp [dropTrailing, hc]

/-- Separators that are put at the end of a text without any are dropped again. -/
theorem dropTrailing_append_replicate {sep : Char} {cs : List Char}
    (h : cs.getLast? ≠ some sep) (k : Nat) :
    dropTrailing (· == sep) (cs ++ List.replicate k sep) = cs := by
  have hfront : dropTrailing (· == sep) cs = cs := by
    cases hlast : cs.getLast? with
    | none =>
      rw [List.getLast?_eq_none_iff.1 hlast]
      rfl
    | some c =>
      refine dropTrailing_of_getLast? hlast ?_
      rw [hlast] at h
      simpa using h
  have hsep : ∀ c ∈ List.replicate k sep, (c == sep) = true := by
    intro c hc
    simp [List.eq_of_mem_replicate hc]
  rw [dropTrailing] at hfront ⊢
  rw [List.reverse_append, List.reverse_replicate, List.dropWhile_append_of_pos hsep, hfront]

/-- Trimming stops where a text goes on with characters that are not of the class. -/
theorem trimBy_append {front tail : List Char} {first last : Char}
    (hfirst : tail.head? = some first) (hf : p first = false)
    (hlast : tail.getLast? = some last) (hl : p last = false) :
    trimBy p (front ++ tail) = front.dropWhile p ++ tail := by
  obtain ⟨rest, rfl⟩ := List.head?_eq_some_iff.1 hfirst
  have hdrop : (front ++ first :: rest).dropWhile p = front.dropWhile p ++ first :: rest := by
    rw [List.dropWhile_append]
    split
    · rename_i hempty
      rw [List.isEmpty_iff.1 hempty]
      simp [hf]
    · rfl
  have hend : (front.dropWhile p ++ first :: rest).getLast? = some last := by
    rw [List.getLast?_append, hlast, Option.some_or]
  rw [trimBy, hdrop, dropTrailing_of_getLast? hend hl]

/-- Taking stops where dropping stops. -/
theorem takeWhile_append_of_dropWhile {cs rest : List Char} {c : Char}
    (h : cs.dropWhile p = c :: rest) (more : List Char) :
    (cs ++ more).takeWhile p = cs.takeWhile p := by
  induction cs with
  | nil => cases h
  | cons d cs ih =>
    cases hd : p d with
    | false => simp [hd]
    | true =>
      have htail : cs.dropWhile p = c :: rest := by simpa [hd] using h
      simp [hd, ih htail]

end Text

namespace Url

/-! ## Cleaning -/

/-- Tabs and line ends, which count for nothing in a URL. -/
def isSkipped (c : Char) : Bool := c == '\t' || c == '\n' || c == '\r'

/-- A text without its tabs and line ends. -/
def unskipped (cs : List Char) : List Char := cs.filter fun c => !isSkipped c

theorem clean_eq (cs : List Char) : clean cs = unskipped (Text.trimBy isEdge cs) := rfl

theorem unskipped_append (cs ds : List Char) :
    unskipped (cs ++ ds) = unskipped cs ++ unskipped ds := List.filter_append ..

theorem isEdge_of_isSkipped {c : Char} (h : isSkipped c = true) : isEdge c = true := by
  rcases (by simpa [isSkipped, or_assoc] using h : c = '\t' ∨ c = '\n' ∨ c = '\r') with
    rfl | rfl | rfl
  all_goals decide

/-- A text without controls and blanks loses nothing. -/
theorem unskipped_of_no_edge {cs : List Char} (h : ∀ c ∈ cs, isEdge c = false) :
    unskipped cs = cs := by
  refine List.filter_eq_self.2 ?_
  intro c hc
  cases hskipped : isSkipped c with
  | false => rfl
  | true =>
    have hedge := h c hc
    rw [isEdge_of_isSkipped hskipped] at hedge
    cases hedge

/-! ## The stem -/

/-- What is read of a base URL in front of a path. -/
def stem (base : List Char) : List Char :=
  unskipped ((Text.dropTrailing (· == '/') base).dropWhile isEdge)

/-- What is read of a base URL and a path is the stem and the path. -/
theorem clean_joined (base : List Char) {path : List Char} (hslash : path.head? = some '/')
    (hedges : ∀ c ∈ path, isEdge c = false) :
    clean (Text.dropTrailing (· == '/') base ++ path) = stem base ++ path := by
  obtain ⟨c, hc⟩ : ∃ c, path.getLast? = some c := by
    cases path with
    | nil => cases hslash
    | cons first rest => exact ⟨_, List.getLast?_cons⟩
  have hlast := hedges c (List.mem_of_getLast? hc)
  rw [clean_eq, Text.trimBy_append hslash (by decide) hc hlast, unskipped_append,
    unskipped_of_no_edge hedges, stem]

/-- Controls and blanks at the end of a base, without its tabs and line ends. -/
structure TrailingEdges (base edges : List Char) : Prop where
  stem_eq : stem base = clean base ++ edges
  suffix : edges <:+ unskipped base
  forall_isEdge : ∀ c ∈ edges, isEdge c = true

/-- Nothing trails a text that does not end in a control or blank. -/
theorem TrailingEdges.eq_nil {base edges : List Char} (h : TrailingEdges base edges)
    (hend : ∀ c, (unskipped base).getLast? = some c → isEdge c = false) : edges = [] := by
  cases hlast : edges.getLast? with
  | none => exact List.getLast?_eq_none_iff.1 hlast
  | some c =>
    obtain ⟨front, hfront⟩ := h.suffix
    have hbase : (unskipped base).getLast? = some c := by
      rw [← hfront, List.getLast?_append, hlast, Option.some_or]
    have hedge := h.forall_isEdge c (List.mem_of_getLast? hlast)
    rw [hend c hbase] at hedge
    cases hedge

/-- The base as it is read alone is the stem and the slashes that were dropped; or else no slash was
dropped, and the stem goes on with controls and blanks that are not read alone. -/
theorem stem_cases (base : List Char) :
    (∃ k, clean base = stem base ++ List.replicate k '/') ∨ ∃ edges, TrailingEdges base edges := by
  obtain ⟨slashes, hbase, hslashes⟩ := Text.exists_dropTrailing (· == '/') base
  obtain ⟨k, rfl⟩ : ∃ k, slashes = List.replicate k '/' :=
    ⟨slashes.length, List.eq_replicate_iff.2 ⟨rfl, fun c hc => by simpa using hslashes c hc⟩⟩
  cases k with
  | zero =>
    right
    rw [List.replicate_zero, List.append_nil] at hbase
    obtain ⟨edges, hedges, hall⟩ := Text.exists_dropTrailing isEdge (base.dropWhile isEdge)
    have hstem : stem base = clean base ++ unskipped edges := by
      rw [stem, ← hbase, clean_eq, Text.trimBy, ← unskipped_append, ← hedges]
    have hsuffix : stem base <:+ unskipped base := by
      rw [stem, ← hbase]
      exact (List.dropWhile_suffix isEdge).filter _
    refine ⟨unskipped edges, hstem, ?_, fun c hc => hall c (List.mem_filter.1 hc).1⟩
    exact (hstem ▸ List.suffix_append _ _).trans hsuffix
  | succ k =>
    left
    have hslash : isEdge '/' = false := by decide
    have hunskipped : unskipped (List.replicate (k + 1) '/') = List.replicate (k + 1) '/' :=
      List.filter_replicate_of_pos (by decide)
    have hlast : (List.replicate (k + 1) '/').getLast? = some '/' := by
      simp [List.getLast?_replicate]
    refine ⟨k + 1, ?_⟩
    unfold stem
    generalize Text.dropTrailing (· == '/') base = front at hbase ⊢
    subst hbase
    rw [clean_eq, Text.trimBy_append rfl hslash hlast hslash, unskipped_append, hunskipped]

/-! ## Schemes -/

/-- A scheme begins with a letter and ends in front of a colon. -/
theorem scheme?_eq_some_iff {cs scheme rest : List Char} :
    scheme? cs = some (scheme, rest) ↔
      cs.head?.any isLetter = true ∧ cs.dropWhile isSchemeChar = ':' :: rest ∧
        (cs.takeWhile isSchemeChar).map Text.smallLetter = scheme := by
  unfold scheme?
  split
  · rename_i hletter
    split
    · rename_i behind hbehind
      simp [hletter, hbehind, and_comm]
    · rename_i hnone
      simp only [reduceCtorEq, false_iff]
      rintro ⟨-, hbehind, -⟩
      exact hnone rest hbehind
  · rename_i hletter
    simp [hletter]

/-- A scheme that has been read may be followed by more. -/
theorem scheme?_append {cs scheme rest : List Char} (h : scheme? cs = some (scheme, rest))
    (more : List Char) : scheme? (cs ++ more) = some (scheme, rest ++ more) := by
  obtain ⟨hletter, hbehind, hscheme⟩ := scheme?_eq_some_iff.1 h
  refine scheme?_eq_some_iff.2 ⟨?_, ?_, ?_⟩
  · cases cs with
    | nil => simp at hletter
    | cons c cs => exact hletter
  · rw [List.dropWhile_append, hbehind]
    rfl
  · rw [Text.takeWhile_append_of_dropWhile hbehind, hscheme]

/-- Slashes at the end have no part in a scheme. -/
theorem scheme?_of_append_slashes {cs scheme rest : List Char} {k : Nat}
    (h : scheme? (cs ++ List.replicate k '/') = some (scheme, rest)) :
    ∃ behind, scheme? cs = some (scheme, behind) ∧ rest = behind ++ List.replicate k '/' := by
  obtain ⟨hletter, hbehind, hscheme⟩ := scheme?_eq_some_iff.1 h
  cases hcs : cs.dropWhile isSchemeChar with
  | nil =>
    -- the colon would have to be one of the slashes
    exfalso
    rw [List.dropWhile_append, hcs, List.isEmpty_nil, if_pos rfl] at hbehind
    have hcolon : ':' ∈ List.replicate k '/' :=
      List.dropWhile_subset _ (hbehind ▸ List.mem_cons_self)
    cases List.eq_of_mem_replicate hcolon
  | cons c behind =>
    rw [List.dropWhile_append, hcs, List.isEmpty_cons, if_neg (by simp),
      List.cons_append] at hbehind
    obtain ⟨rfl, rfl⟩ := List.cons.inj hbehind
    refine ⟨behind, scheme?_eq_some_iff.2 ⟨?_, hcs, ?_⟩, rfl⟩
    · cases cs with
      | nil => cases hcs
      | cons d cs => exact hletter
    · rw [← hscheme, Text.takeWhile_append_of_dropWhile hcs]

/-! ## URLs of the web -/

/-- The URL that an authority and the text behind it give. -/
def behindAuthority (scheme : List Char) (a : Authority) (rest : List Char) : Url :=
  withTail ⟨scheme, some a, readPath true (rest.takeWhile isPathChar), none, none⟩ true
    (rest.dropWhile isPathChar)

@[simp] theorem scheme_withTail (u : Url) (special : Bool) (cs : List Char) :
    (withTail u special cs).scheme = u.scheme := by
  unfold withTail
  split
  · rfl
  · rfl

@[simp] theorem authority_withTail (u : Url) (special : Bool) (cs : List Char) :
    (withTail u special cs).authority = u.authority := by
  unfold withTail
  split
  · rfl
  · rfl

@[simp] theorem path_withTail (u : Url) (special : Bool) (cs : List Char) :
    (withTail u special cs).path = u.path := by
  unfold withTail
  split
  · rfl
  · rfl

theorem schemeKind_of_isWebScheme {scheme : List Char} (h : isWebScheme scheme = true) :
    schemeKind scheme = .special := by
  rcases (by simpa [isWebScheme] using h :
    scheme = "http".toList ∨ scheme = "https".toList) with rfl | rfl
  · decide
  · decide

theorem readAfterSlashes_eq {scheme : List Char} (h : schemeKind scheme = .special)
    (cs : List Char) :
    readAfterSlashes scheme cs =
      (readAuthority scheme cs).map fun p => behindAuthority scheme p.1 p.2 := by
  have hspecial : (schemeKind scheme == SchemeKind.special) = true := by simp [h]
  unfold readAfterSlashes behindAuthority
  simp only [hspecial]
  cases readAuthority scheme cs with
  | error f => rfl
  | ok p => rfl

theorem scheme_of_readFile {cs : List Char} {u : Url} (h : readFile cs = .ok u) :
    u.scheme = "file".toList := by
  unfold readFile at h
  simp only at h
  split at h
  · split at h
    · split at h
      · cases h
        exact scheme_withTail ..
      · obtain ⟨host, -, h⟩ := bind_eq_ok_iff.1 h
        cases h
        exact scheme_withTail ..
    · cases h
      exact scheme_withTail ..
  · cases h
    exact scheme_withTail ..

/-- A URL has the scheme in front of its text. -/
theorem scheme_of_readWithScheme {scheme rest : List Char} {u : Url}
    (h : readWithScheme scheme rest = .ok u) : u.scheme = scheme := by
  have hafter : ∀ cs, readAfterSlashes scheme cs = .ok u → u.scheme = scheme := by
    intro cs h
    unfold readAfterSlashes at h
    obtain ⟨p, -, h⟩ := bind_eq_ok_iff.1 h
    cases h
    exact scheme_withTail ..
  unfold readWithScheme at h
  split at h
  · rename_i hfile
    rw [scheme_of_readFile h]
    unfold schemeKind at hfile
    split at hfile
    · rename_i hscheme
      exact hscheme.symm
    · split at hfile
      · cases hfile
      · cases hfile
  · exact hafter _ h
  · split at h
    · exact hafter _ h
    · cases h
      exact scheme_withTail ..

theorem exists_scheme?_of_parse {cs : List Char} {u : Url} (h : parse cs = .ok u) :
    ∃ rest, scheme? (clean cs) = some (u.scheme, rest) := by
  unfold parse at h
  split at h
  · rename_i scheme rest hscheme
    rw [scheme_of_readWithScheme h]
    exact ⟨rest, hscheme⟩
  · cases h

/-- A URL of the web has its scheme in front, then slashes of any number and kind, then its
authority. -/
theorem parse_of_web {cs scheme rest : List Char} (hweb : isWebScheme scheme = true)
    (h : scheme? (clean cs) = some (scheme, rest)) :
    parse cs = (readAuthority scheme (rest.dropWhile isSlash)).map
      fun p => behindAuthority scheme p.1 p.2 := by
  have hspecial := schemeKind_of_isWebScheme hweb
  rw [← readAfterSlashes_eq hspecial]
  unfold parse readWithScheme
  simp only [h, hspecial]

/-- What has been read of a URL of the web. -/
theorem exists_readAuthority_of_parse {cs : List Char} {u : Url} (h : parse cs = .ok u)
    (hweb : isWebScheme u.scheme = true) :
    ∃ rest a tail, scheme? (clean cs) = some (u.scheme, rest) ∧
      readAuthority u.scheme (rest.dropWhile isSlash) = .ok (a, tail) ∧
      u = behindAuthority u.scheme a tail := by
  obtain ⟨rest, hrest⟩ := exists_scheme?_of_parse h
  obtain ⟨⟨a, tail⟩, hread, hu⟩ := map_eq_ok_iff.1 ((parse_of_web hweb hrest).symm.trans h)
  exact ⟨rest, a, tail, hrest, hread, hu.symm⟩

/-! ## A base and what a path makes of it -/

/-- How a base URL is read, and how the text is read that a path makes of it. -/
inductive Joins (u : Url) (base path : List Char) : Prop where
  /-- Both are read alike up to slashes at the end of the base. -/
  | slashes {a : Authority} {rest : List Char} {k : Nat} (hrest : rest <:+ stem base)
      (hends : EndsFirst rest)
      (hbase : u = behindAuthority u.scheme a (rest ++ List.replicate k '/'))
      (hjoined : parse (Text.dropTrailing (· == '/') base ++ path) =
        .ok (behindAuthority u.scheme a (rest ++ path)))
  /-- The base goes on with controls and blanks behind its authority. -/
  | edges {a : Authority} {rest edges : List Char} (hne : edges ≠ [])
      (hedges : TrailingEdges base edges)
      (hbase : u = behindAuthority u.scheme a rest)
      (hjoined : parse (Text.dropTrailing (· == '/') base ++ path) =
        .ok (behindAuthority u.scheme a (rest ++ (edges ++ path))))
  /-- Controls and blanks fall into the authority. -/
  | refused {edges : List Char} (hne : edges ≠ []) (hedges : TrailingEdges base edges)
      (hjoined : ∀ v, parse (Text.dropTrailing (· == '/') base ++ path) ≠ .ok v)

theorem readAuthority_nil {scheme : List Char} (h : schemeKind scheme = .special)
    (result : Authority × List Char) : readAuthority scheme [] ≠ .ok result := by
  rw [readAuthority_eq h]
  nofun

theorem dropWhile_append_of_ne_nil {p : Char → Bool} {cs : List Char} (h : cs.dropWhile p ≠ [])
    (more : List Char) : (cs ++ more).dropWhile p = cs.dropWhile p ++ more := by
  rw [List.dropWhile_append, if_neg (by simpa using h)]

/-- A base whose stem differs from it in slashes only. -/
theorem joins_of_slashes {base path : List Char} {u : Url} {k : Nat}
    (h : parse base = .ok u) (hweb : isWebScheme u.scheme = true)
    (hslash : path.head? = some '/') (hpath : ∀ c ∈ path, isEdge c = false)
    (hstem : clean base = stem base ++ List.replicate k '/') : Joins u base path := by
  have hspecial := schemeKind_of_isWebScheme hweb
  obtain ⟨behind, a, tail, hbehind, hread, hu⟩ := exists_readAuthority_of_parse h hweb
  rw [hstem] at hbehind
  obtain ⟨first, hfirst, rfl⟩ := scheme?_of_append_slashes hbehind
  have hserver : first.dropWhile isSlash ≠ [] := by
    intro hempty
    have hslashes : (List.replicate k '/').dropWhile isSlash = [] := by
      simp [isSlash]
    rw [List.dropWhile_append, hempty, List.isEmpty_nil, if_pos rfl, hslashes] at hread
    exact readAuthority_nil hspecial _ hread
  have hends : EndsFirst (List.replicate k '/') := by
    intro c hc
    rw [List.eq_of_mem_replicate (List.mem_of_head? hc)]
    decide
  have hpathEnds := EndsFirst.of_slash hslash
  rw [dropWhile_append_of_ne_nil hserver] at hread
  obtain ⟨rest, rfl, hrestEnds, hrest, hexchange⟩ := readAuthority_exchange hspecial hends hread
  have hsuffix : first <:+ stem base := by
    obtain ⟨-, hdrop, -⟩ := scheme?_eq_some_iff.1 hfirst
    exact (List.suffix_cons ':' first).trans (hdrop ▸ List.dropWhile_suffix isSchemeChar)
  refine .slashes ((hrest.trans (List.dropWhile_suffix isSlash)).trans hsuffix) hrestEnds hu ?_
  have hjoined : scheme? (clean (Text.dropTrailing (· == '/') base ++ path)) =
      some (u.scheme, first ++ path) := by
    rw [clean_joined base hslash hpath]
    exact scheme?_append hfirst path
  rw [parse_of_web hweb hjoined, dropWhile_append_of_ne_nil hserver, hexchange path hpathEnds]
  rfl

/-- A base whose stem goes on with controls and blanks. -/
theorem joins_of_edges {base path edges : List Char} {u : Url}
    (h : parse base = .ok u) (hweb : isWebScheme u.scheme = true)
    (hslash : path.head? = some '/') (hpath : ∀ c ∈ path, isEdge c = false)
    (hne : edges ≠ []) (hedges : TrailingEdges base edges) : Joins u base path := by
  have hspecial := schemeKind_of_isWebScheme hweb
  obtain ⟨first, a, tail, hfirst, hread, hu⟩ := exists_readAuthority_of_parse h hweb
  have hserver : first.dropWhile isSlash ≠ [] := by
    intro hempty
    rw [hempty] at hread
    exact readAuthority_nil hspecial _ hread
  have hpathEnds := EndsFirst.of_slash hslash
  have hjoined : scheme? (clean (Text.dropTrailing (· == '/') base ++ path)) =
      some (u.scheme, first ++ (edges ++ path)) := by
    rw [clean_joined base hslash hpath, hedges.stem_eq, List.append_assoc]
    exact scheme?_append hfirst _
  have hparse := parse_of_web hweb hjoined
  rw [dropWhile_append_of_ne_nil hserver] at hparse
  obtain ⟨authority, rest, hsplit, hauthority, hrest⟩ := exists_unended (first.dropWhile isSlash)
  rw [hsplit] at hread hparse
  rw [readAuthority_append hspecial hauthority hrest] at hread
  obtain ⟨p, hp, hpair⟩ := map_eq_ok_iff.1 hread
  obtain ⟨rfl, rfl⟩ := Prod.mk.inj hpair
  cases rest with
  | nil =>
    refine .refused hne hedges ?_
    intro v hv
    obtain ⟨front, c, rfl⟩ : ∃ front c, edges = front ++ [c] :=
      ⟨_, _, (List.dropLast_concat_getLast hne).symm⟩
    have hc : c.toNat ≤ 0x20 := by simpa [isEdge] using hedges.forall_isEdge c (by simp)
    have hfront : Unended (authority ++ front) := by
      intro d hd
      rcases List.mem_append.1 hd with hd | hd
      · exact hauthority d hd
      · exact endsAuthority_of_edge (by simpa [isEdge] using hedges.forall_isEdge d (by simp [hd]))
    rw [hparse] at hv
    obtain ⟨result, hresult, -⟩ := map_eq_ok_iff.1 hv
    refine readAuthority_of_edge hspecial hc hfront hpathEnds result ?_
    simpa using hresult
  | cons c rest =>
    have hends : EndsFirst (c :: rest ++ (edges ++ path)) := EndsFirst.cons (hrest c rfl) _
    refine .edges hne hedges hu ?_
    rw [hparse, List.append_assoc, readAuthority_append hspecial hauthority hends, hp]
    rfl

/-- **How a base URL and a path are read.**  Both readings have one scheme and one authority, unless
controls and blanks at the end of the base fall into its authority. -/
theorem joins {base path : List Char} {u : Url} (h : parse base = .ok u)
    (hweb : isWebScheme u.scheme = true) (hslash : path.head? = some '/')
    (hpath : ∀ c ∈ path, isEdge c = false) : Joins u base path := by
  rcases stem_cases base with ⟨k, hstem⟩ | ⟨edges, hedges⟩
  · exact joins_of_slashes h hweb hslash hpath hstem
  · by_cases hne : edges = []
    · have hself : clean base = stem base ++ List.replicate 0 '/' := by
        simp [hedges.stem_eq, hne]
      exact joins_of_slashes h hweb hslash hpath hself
    · exact joins_of_edges h hweb hslash hpath hne hedges

end Url

end Courier
