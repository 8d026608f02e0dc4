import Courier.CommandLine.Command
import Courier.Proofs.Groups

/-!
# The file that a command line names

The configuration file of a request is found by a scan that looks for the first argument that reads
as its flag and takes the one behind it.  Groups are read by their boundaries, which the scan does
not know; still both see one file, because among accepted groups only that of the file has an
argument that reads as its flag.

* `valueBehind?_eq_idxOf` — the scan, told by positions.
* `eq_config_of_mem` — where the text of the flag stands in an accepted list.
* `eq_of_flatMap_arguments` — a list of arguments is a list of groups in one way.
* `run_withFiles` — a run knows nothing of any file but the one that the scan finds.
* `scan_agrees_with_groups` — **the file that is opened** is the one that the first group of its
  flag names.
-/

namespace Courier.CommandLine

/-! ## The scan -/

/-- The scan looks up the first place of the flag and takes the argument behind it. -/
theorem valueBehind?_eq_idxOf (flag : String) (arguments : List String) :
    valueBehind? flag arguments =
      (arguments.idxOf? flag).bind fun i => arguments[i + 1]? := by
  induction arguments with
  | nil => rfl
  | cons argument rest ih =>
    rw [valueBehind?, List.idxOf?_cons]
    by_cases h : argument = flag
    · simp [h, List.head?_eq_getElem?]
    · rw [if_neg h, ih, if_neg (by simpa using h)]
      cases rest.idxOf? flag <;> simp

theorem idxOf?_append_cons {flag : String} {front : List String} (h : flag ∉ front)
    (rest : List String) : (front ++ flag :: rest).idxOf? flag = some front.length := by
  induction front with
  | nil => simp [List.idxOf?_cons]
  | cons argument front ih =>
    obtain ⟨hne, hfront⟩ := not_or.1 (mt List.mem_cons.2 h)
    rw [List.cons_append, List.idxOf?_cons, if_neg (by simpa using Ne.symm hne), ih hfront]
    rfl

/-! ## Groups and their arguments -/

theorem ValueFlag.text_injective {flag flag' : ValueFlag} (h : flag.text = flag'.text) :
    flag = flag' := by
  have hflag := valueFlag?_text flag
  rw [h, valueFlag?_text] at hflag
  exact (Option.some.inj hflag).symm

/-- No flag that takes a value reads as one that stands alone. -/
theorem ValueFlag.text_ne {argument : String} (h : valueFlag? argument = none)
    (flag : ValueFlag) : flag.text ≠ argument := by
  rintro rfl
  rw [valueFlag?_text] at h
  cases h

/-- The first group of a list is seen from its arguments, and so are those behind it. -/
theorem WrittenGroup.eq_of_append {w w' : WrittenGroup} {rest rest' : List String}
    (h : w.arguments ++ rest = w'.arguments ++ rest') : w = w' ∧ rest = rest' := by
  have hauth : valueFlag? "--no-auth" = none := by decide
  have hretry : valueFlag? "--no-retry" = none := by decide
  have hdistinct : "--no-auth" ≠ "--no-retry" := by decide
  cases w with
  | valued flag value =>
    cases w' with
    | valued flag' value' =>
      obtain ⟨hflag, hvalue, hrest⟩ : flag.text = flag'.text ∧ value = value' ∧ rest = rest' := by
        simpa [arguments] using h
      rw [ValueFlag.text_injective hflag, hvalue]
      exact ⟨rfl, hrest⟩
    | noAuth => exact absurd (List.cons.inj h).1 (flag.text_ne hauth)
    | noRetry => exact absurd (List.cons.inj h).1 (flag.text_ne hretry)
  | noAuth =>
    cases w' with
    | valued flag' value' => exact absurd (List.cons.inj h).1.symm (flag'.text_ne hauth)
    | noAuth => exact ⟨rfl, (List.cons.inj h).2⟩
    | noRetry => exact absurd (List.cons.inj h).1 hdistinct
  | noRetry =>
    cases w' with
    | valued flag' value' => exact absurd (List.cons.inj h).1.symm (flag'.text_ne hretry)
    | noAuth => exact absurd (List.cons.inj h).1 hdistinct.symm
    | noRetry => exact ⟨rfl, (List.cons.inj h).2⟩

theorem WrittenGroup.arguments_ne_nil (w : WrittenGroup) : w.arguments ≠ [] := by
  cases w <;> exact List.cons_ne_nil _ _

/-- **A list of arguments is a list of groups in one way.** -/
theorem eq_of_flatMap_arguments {ws ws' : List WrittenGroup}
    (h : ws.flatMap WrittenGroup.arguments = ws'.flatMap WrittenGroup.arguments) : ws = ws' := by
  induction ws generalizing ws' with
  | nil =>
    cases ws' with
    | nil => rfl
    | cons w' ws' =>
      rw [List.flatMap_nil, List.flatMap_cons] at h
      exact absurd (List.append_eq_nil_iff.1 h.symm).1 w'.arguments_ne_nil
  | cons w ws ih =>
    cases ws' with
    | nil =>
      rw [List.flatMap_nil, List.flatMap_cons] at h
      exact absurd (List.append_eq_nil_iff.1 h).1 w.arguments_ne_nil
    | cons w' ws' =>
      rw [List.flatMap_cons, List.flatMap_cons] at h
      obtain ⟨hfirst, hrest⟩ := WrittenGroup.eq_of_append h
      rw [hfirst, ih hrest]

/-- **Where the text of the flag stands**: among groups that can be read, only that of the file has
an argument that reads as its flag. -/
theorem eq_config_of_mem {w : WrittenGroup} {group : Group} (hread : w.read = .ok group)
    (hmem : configFlag ∈ w.arguments) : ∃ path, w = .valued .config path := by
  cases w with
  | valued flag value =>
    by_cases hflag : flag = .config
    · exact ⟨value, by rw [hflag]⟩
    · rcases List.mem_cons.1 hmem with htext | hvalue
      · exact absurd (ValueFlag.text_injective htext.symm) hflag
      · exact absurd (List.mem_singleton.1 hvalue).symm (ne_configFlag_of_readGroup hread hflag)
  | noAuth => exact absurd hmem (by decide)
  | noRetry => exact absurd hmem (by decide)

theorem Reads.exists_of_mem {ws : List WrittenGroup} {groups : List Group} (h : Reads ws groups)
    {w : WrittenGroup} (hw : w ∈ ws) : ∃ group, w.read = .ok group := by
  induction h with
  | nil => cases hw
  | cons hread _ ih =>
    rcases List.mem_cons.1 hw with rfl | hw
    · exact ⟨_, hread⟩
    · exact ih hw

/-- Accepted groups that name no file have no argument that reads as the flag of one. -/
theorem configFlag_notMem {ws : List WrittenGroup} (hread : ∀ w ∈ ws, ∃ group, w.read = .ok group)
    (hnone : ∀ w ∈ ws, w.slot ≠ .config) : configFlag ∉ ws.flatMap WrittenGroup.arguments := by
  intro hmem
  obtain ⟨w, hw, hargument⟩ := List.mem_flatMap.1 hmem
  obtain ⟨group, hgroup⟩ := hread w hw
  obtain ⟨path, rfl⟩ := eq_config_of_mem hgroup hargument
  exact hnone _ hw rfl

/-! ## Files -/

/-- Loading looks at no file but the one that the scan finds. -/
theorem loadConfig_withFiles {s : Scene} {files : String → Config.FileContent}
    {options : List String}
    (h : ∀ path, valueBehind? configFlag options = some path → files path = s.files path) :
    loadConfig { s with files := files } options = loadConfig s options := by
  unfold loadConfig
  cases hpath : valueBehind? configFlag options with
  | none => rfl
  | some path => simp only [h path hpath]

/-- A run looks at no file but the one that the scan finds. -/
theorem run_withFiles {s : Scene} {files : String → Config.FileContent} {options : List String}
    (h : ∀ path, valueBehind? configFlag options = some path → files path = s.files path)
    (method target : String) :
    run { s with files := files } ("request" :: method :: target :: options) =
      run s ("request" :: method :: target :: options) := by
  have hopen : openTransport { s with files := files } options = openTransport s options := by
    rw [openTransport, openTransport, loadConfig_withFiles h]
  show runRequest { s with files := files } (method :: target :: options) =
    runRequest s (method :: target :: options)
  simp only [runRequest, List.drop_succ_cons, List.drop_zero, hopen]

/-- A request with these options opens one file: its settings are loaded, or else the failure is
reported under its name, and what other files hold does not matter. -/
structure Opens (s : Scene) (options : List String) (path : String) : Prop where
  loaded : ∀ c, Config.ofFile (s.files path) = .ok c →
    loadConfig s options = .ok (c.withOverrides s.environment)
  failed : ∀ e, Config.ofFile (s.files path) = .error e →
    loadConfig s options = .error (.configFile path e)
  others : ∀ files, files path = s.files path → ∀ method target,
    run { s with files := files } ("request" :: method :: target :: options) =
      run s ("request" :: method :: target :: options)

/-- A request with these options opens no file: it has the default settings, and what files hold
does not matter. -/
structure OpensNone (s : Scene) (options : List String) : Prop where
  loaded : loadConfig s options = .ok (Config.default.withOverrides s.environment)
  others : ∀ files method target,
    run { s with files := files } ("request" :: method :: target :: options) =
      run s ("request" :: method :: target :: options)

theorem opens_of_valueBehind? {options : List String} {path : String}
    (h : valueBehind? configFlag options = some path) (s : Scene) : Opens s options path where
  loaded c hc := by simp only [loadConfig, h, hc]
  failed e he := by simp only [loadConfig, h, he]
  others files hsame method target := by
    refine run_withFiles ?_ method target
    intro path' hpath'
    obtain rfl := Option.some.inj (h.symm.trans hpath')
    exact hsame

theorem opensNone_of_valueBehind? {options : List String}
    (h : valueBehind? configFlag options = none) (s : Scene) : OpensNone s options where
  loaded := by simp only [loadConfig, h]
  others files method target := by
    refine run_withFiles ?_ method target
    intro path hpath
    rw [h] at hpath
    cases hpath

/-- The first group of the flag stands where the flag is first met, and its value behind it. -/
theorem valueBehind?_of_first {front rest : List WrittenGroup} {path : String}
    {options : List String} (hfront : configFlag ∉ front.flatMap WrittenGroup.arguments)
    (hoptions : options =
      (front ++ .valued .config path :: rest).flatMap WrittenGroup.arguments) :
    options.idxOf? configFlag = some (front.flatMap WrittenGroup.arguments).length ∧
      valueBehind? configFlag options = some path := by
  have hsplit : options = front.flatMap WrittenGroup.arguments ++
      configFlag :: path :: rest.flatMap WrittenGroup.arguments := by
    rw [hoptions, List.flatMap_append, List.flatMap_cons]
    rfl
  have hplace := idxOf?_append_cons hfront (path :: rest.flatMap WrittenGroup.arguments)
  rw [← hsplit] at hplace
  refine ⟨hplace, ?_⟩
  rw [valueBehind?_eq_idxOf, hplace, Option.bind_some, hsplit,
    List.getElem?_append_right (Nat.le_add_right _ 1), Nat.add_sub_cancel_left]
  rfl

/-- **Both scans see one file.**  Accepted options are a list of groups in one way.  Of all their
arguments only the flags and values of the groups of the file read as its flag.  The first argument
that does is the flag of the first of these groups, so that what stands behind it is the value of
that group, and this file is opened and no other.  Without such a group no argument reads as the
flag, and no file is opened. -/
theorem scan_agrees_with_groups {options : List String} {groups : List Group}
    (h : readGroups options = .ok groups) :
    ∃ ws, (options = ws.flatMap WrittenGroup.arguments ∧ Reads ws groups) ∧
      (∀ ws', options = ws'.flatMap WrittenGroup.arguments → ws' = ws) ∧
      (∀ w ∈ ws, configFlag ∈ w.arguments → ∃ path, w = .valued .config path) ∧
      valueBehind? configFlag options = (groups.filterMap Group.config?).head? ∧
      (∀ front path rest, ws = front ++ .valued .config path :: rest →
        (∀ w ∈ front, w.slot ≠ .config) →
          options.idxOf? configFlag = some (front.flatMap WrittenGroup.arguments).length ∧
            valueBehind? configFlag options = some path ∧ ∀ s, Opens s options path) ∧
      ((∀ w ∈ ws, w.slot ≠ .config) →
        configFlag ∉ options ∧ valueBehind? configFlag options = none ∧
          ∀ s, OpensNone s options) := by
  obtain ⟨ws, rfl, hreads⟩ := readGroups_eq_ok_iff.1 h
  have hread : ∀ w ∈ ws, ∃ group, w.read = .ok group := fun w hw => hreads.exists_of_mem hw
  refine ⟨ws, ⟨rfl, hreads⟩, fun ws' hws' => (eq_of_flatMap_arguments hws').symm, ?_,
    valueBehind?_of_reads hreads, ?_, ?_⟩
  · intro w hw hmem
    obtain ⟨group, hgroup⟩ := hread w hw
    exact eq_config_of_mem hgroup hmem
  · rintro front path rest rfl hfront
    have hflag := configFlag_notMem
      (fun w hw => hread w (List.mem_append_left _ hw)) hfront
    obtain ⟨hplace, hvalue⟩ := valueBehind?_of_first hflag rfl
    exact ⟨hplace, hvalue, opens_of_valueBehind? hvalue⟩
  · intro hnone
    have hflag := configFlag_notMem hread hnone
    have hvalue : valueBehind? configFlag (ws.flatMap WrittenGroup.arguments) = none := by
      rw [valueBehind?_eq_idxOf, List.idxOf?_eq_none_iff.2 hflag, Option.bind_none]
    exact ⟨hflag, hvalue, opensNone_of_valueBehind? hvalue⟩

/-- Refused options are another matter: here the scan takes the text of the flag for a flag where it
is the value of a header. -/
example : (readGroups ["--header", "--config", "a.yaml"]).isOk = false ∧
    valueBehind? configFlag ["--header", "--config", "a.yaml"] = some "a.yaml" := by decide

/-- Groups of which two name a file, the first one under the name of the flag. -/
def doubledFlag : List WrittenGroup :=
  [.valued .param "a=--config", .noRetry, .valued .apiVersion "+7", .valued .config "--config",
    .valued .header "X-File=--config", .valued .config "b.yaml"]

/-- The file under the name of the flag is opened, and the other one is not. -/
theorem scan_agrees_with_groups_of_doubledFlag :
    (readGroups (doubledFlag.flatMap WrittenGroup.arguments)).isOk = true ∧
      (doubledFlag.flatMap WrittenGroup.arguments).idxOf? configFlag = some 5 ∧
      valueBehind? configFlag (doubledFlag.flatMap WrittenGroup.arguments) = some "--config" ∧
      ∀ s, Opens s (doubledFlag.flatMap WrittenGroup.arguments) "--config" := by
  have hok : (readGroups (doubledFlag.flatMap WrittenGroup.arguments)).isOk = true := by
    decide +kernel
  obtain ⟨groups, hgroups⟩ := Result.exists_of_isOk hok
  obtain ⟨ws, -, hunique, -, -, hfirst, -⟩ := scan_agrees_with_groups hgroups
  obtain rfl := hunique doubledFlag rfl
  obtain ⟨hplace, hvalue, hopens⟩ := hfirst
    [.valued .param "a=--config", .noRetry, .valued .apiVersion "+7"] "--config"
    [.valued .header "X-File=--config", .valued .config "b.yaml"] rfl (by decide)
  exact ⟨hok, hplace, hvalue, hopens⟩

end Courier.CommandLine
