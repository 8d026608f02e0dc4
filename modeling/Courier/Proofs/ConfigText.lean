import Courier.CommandLine.Command
import Courier.Proofs.Overrides
import Courier.Proofs.Transcoding
import Courier.Proofs.YamlReading

/-!
# Printed configurations reload

The record of a configuration names each of its fields once, and each value is read back as what it
was written for; so a configuration is read back from its YAML text.

* `ofYaml_toYaml` — a printed configuration is read back.
* `withOverrides_of_hasNoSettings` — an environment without settings changes nothing.
* `printed_config_reloads` — **a printed configuration reloads to itself**, and what the program
  prints of one is printed again when it is loaded as a file.
-/

namespace Courier.Config

open Yaml Yaml.Tree

/-! ## Fields -/

section Fields

variable {α β : Type} {fields : Tree.Fields α} {path seen : List String} {name : String}
  {rest : List (String × Value)} {a b : α}

/-- A field is set to what its reader gives. -/
theorem sets_field {read : List Item → Read β} {v : Value} {x : β}
    (hread : ReadsAs read v.pieces x) (set : α → β → α)
    (hfield : ∀ items, fields.field? name path a items =
      some ((read items).map fun r => (set a r.1, r.2)))
    (hnew : name ∉ seen) (hrest : Sets fields path (name :: seen) (set a x) rest b) :
    Sets fields path seen a ((name, v) :: rest) b := by
  refine .cons hnew (fun items behind hitems => ?_) hrest
  rw [hfield, hread items behind hitems]
  rfl

theorem sets_end (h : a = b) : Sets fields path seen a [] b := by
  rw [h]
  exact .nil _ _

end Fields

variable (t : Tree)

/-- A number of 32 bits is read back. -/
theorem readsAs_word32 (path : List String) (expected : String) (n : UInt32) :
    ReadsAs (t.number path limit32 expected) (Value.number n.toNat).pieces n.toNat :=
  readsAs_number t path expected (Nat.le_of_lt_succ n.toNat_lt) (by decide)

/-- A number of 64 bits is read back. -/
theorem readsAs_word64 (path : List String) (expected : String) (n : UInt64) :
    ReadsAs (t.number path limit64 expected) (Value.number n.toNat).pieces n.toNat :=
  readsAs_number t path expected (Nat.le_of_lt_succ n.toNat_lt) (Nat.le_refl _)

/-- What is written for a text that may be absent. -/
theorem readsAs_optional (path : List String) (expected : String) (o : Option String) (v : Value)
    (hv : v = match o with | some s => .text s | none => .null) :
    ReadsAs (t.optionalText path expected) v.pieces o := by
  cases o with
  | some s =>
    rw [hv]
    exact readsAs_optionalText_text t path expected s
  | none =>
    rw [hv]
    exact readsAs_optionalText_null t path expected

/-! ## Records -/

/-- The fields of a retry policy are read back. -/
theorem sets_retryRecord (path : List String) (p : RetryPolicy) :
    Sets (retryFields t) path [] .disabled (retryRecord p) p := by
  refine sets_field (readsAs_word32 t _ _ _) (fun p n => { p with maxRetries := .ofNat n })
    (fun _ => rfl) (by decide) ?_
  refine sets_field (readsAs_word32 t _ _ _) (fun p n => { p with minDelay := .ofNat n })
    (fun _ => rfl) (by decide) ?_
  refine sets_field (readsAs_word32 t _ _ _) (fun p n => { p with maxDelay := .ofNat n })
    (fun _ => rfl) (by decide) ?_
  refine sets_end ?_
  simp only [UInt32.ofNat_toNat]

/-- The fields of a configuration are read back. -/
theorem sets_record (c : Config) : Sets (fields t) [] [] default c.record c := by
  refine sets_field (readsAs_text t _ _ _ _) (fun c s => { c with baseUrl := s })
    (fun _ => rfl) (by decide) ?_
  refine sets_field (readsAs_word64 t _ _ _) (fun c n => { c with timeout := .ofNat n })
    (fun _ => rfl) (by decide) ?_
  refine sets_field (readsAs_word64 t _ _ _) (fun c n => { c with poolMaxIdlePerHost := .ofNat n })
    (fun _ => rfl) (by decide) ?_
  refine sets_field (readsAs_word64 t _ _ _) (fun c n => { c with poolIdleTimeout := .ofNat n })
    (fun _ => rfl) (by decide) ?_
  refine sets_field (readsAs_optional t _ _ c.proxyUrl _ rfl) (fun c o => { c with proxyUrl := o })
    (fun _ => rfl) (by decide) ?_
  refine sets_field (readsAs_text t _ _ _ _) (fun c s => { c with userAgent := s })
    (fun _ => rfl) (by decide) ?_
  refine sets_field (readsAs_optional t _ _ c.appVersion _ rfl)
    (fun c o => { c with appVersion := o }) (fun _ => rfl) (by decide) ?_
  refine sets_field (readsAs_text t _ _ _ _) (fun c s => { c with versionHeader := s })
    (fun _ => rfl) (by decide) ?_
  refine sets_field (readsAs_record (sets_retryRecord t _ c.retry))
    (fun c p => { c with retry := p }) (fun _ => rfl) (by decide) ?_
  refine sets_end ?_
  simp only [UInt64.ofNat_toNat]

/-- The names of a configuration's fields are written as they are. -/
theorem areNamed_record (c : Config) : Value.AreNamed c.record := by
  have hname {name : String} (h : name.toList ≠ [] ∧ name.toList.all isNameLetter = true ∧
      name.toList.length ≤ 1024) : Lexer.IsName name.toList :=
    ⟨h.1, List.all_eq_true.1 h.2.1, h.2.2⟩
  have hoptional (o : Option String) :
      Value.IsNamed (match o with | some s => .text s | none => .null) := by
    cases o <;> exact trivial
  exact ⟨hname (by decide), trivial, hname (by decide), trivial, hname (by decide), trivial,
    hname (by decide), trivial, hname (by decide), hoptional c.proxyUrl, hname (by decide), trivial,
    hname (by decide), hoptional c.appVersion, hname (by decide), trivial, hname (by decide),
    ⟨hname (by decide), trivial, hname (by decide), trivial, hname (by decide), trivial, trivial⟩,
    trivial⟩

/-- A configuration is read back from its YAML text. -/
theorem ofYaml_toYaml (c : Config) : ofYaml c.toYaml = .ok c := by
  have hread := whole_ofText_print (areNamed_record c) fun t => sets_record t c
  rw [ofYaml, toYaml, String.toList_ofList]
  exact congrArg (Except.mapError Error.yaml) hread

theorem ofFile_toYaml (c : Config) : ofFile (.ok (Text.Utf8.bytesOf c.toYaml)) = .ok c := by
  have htext : Text.Utf8.string? (Text.Utf8.bytesOf c.toYaml) = some c.toYaml := by
    rw [Text.Utf8.string?, Text.Utf8.bytesOf, Text.Utf8.decode?_encode, Option.map_some,
      String.ofList_toList]
  simp only [ofFile, htext, ofYaml_toYaml]

/-! ## Overrides -/

/-- An environment in which no variable of the program is set. -/
def HasNoSettings (env : Environment) : Prop :=
  ∀ name value, (name, value) ∈ env → ¬"MAIL_API_".toList <+: name.toList

theorem not_hasText_of_hasNoSettings {env : Environment} (h : HasNoSettings env) {name : String}
    (hname : "MAIL_API_".toList <+: name.toList) (s : String) : ¬env.HasText name s := by
  intro hlookup
  have hnone : env.lookup name = none := by
    rw [List.lookup_eq_none_iff]
    rintro ⟨name', value⟩ hmem
    rw [bne_iff_ne]
    rintro rfl
    exact h name value hmem hname
  rw [Environment.HasText, hnone] at hlookup
  cases hlookup

/-- An environment without settings changes nothing. -/
theorem withOverrides_of_hasNoSettings {env : Environment} (h : HasNoSettings env) (c : Config) :
    c.withOverrides env = c := by
  refine Setting.eq_of_valueIn (fun setting => ?_) rfl rfl
  refine Setting.valueIn_withOverrides_of_not_given ?_ c
  rintro v ⟨s, hs, -⟩
  have hname : "MAIL_API_".toList <+: setting.variableName.toList := by
    cases setting <;> decide
  exact not_hasText_of_hasNoSettings h hname s hs

end Courier.Config

namespace Courier.CommandLine

/-- The program ends well if it can load a configuration, and prints that one. -/
theorem runConfig_of_exitCode {s : Scene} {arguments : List String}
    (h : (run s ("config" :: arguments)).exitCode = 0) :
    ∃ c : Config, (run s ("config" :: arguments)).stdout =
      (c.withOverrides s.environment).toYaml := by
  have hrun : run s ("config" :: arguments) = runConfig s arguments := rfl
  rw [hrun, runConfig] at h ⊢
  cases hload : loadConfig s arguments with
  | error f =>
    rw [hload] at h
    cases h
  | ok c =>
    rw [loadConfig] at hload
    split at hload
    · cases hload
      exact ⟨Config.default, rfl⟩
    · split at hload
      · rename_i c' hfile
        cases hload
        exact ⟨c', rfl⟩
      · cases hload

/-- A printed configuration is loaded from a file with the overrides of the environment. -/
theorem runConfig_of_printed {s : Scene} {arguments : List String} {path : String}
    (hpath : valueBehind? configFlag arguments = some path) {c : Config}
    (hfile : s.files path = .ok (Text.Utf8.bytesOf c.toYaml)) :
    run s ("config" :: arguments) = ⟨0, (c.withOverrides s.environment).toYaml, "", s.network⟩ := by
  have hload : loadConfig s arguments = .ok (c.withOverrides s.environment) := by
    simp only [loadConfig, hpath, hfile, Config.ofFile_toYaml]
  show runConfig s arguments = _
  simp only [runConfig, hload]

/-- **A printed configuration reloads to itself.**  What the program prints of a configuration it
prints again when that text is loaded as a file, in the same environment or in one that sets none of
the program's variables. -/
theorem printed_config_reloads :
    (∀ c : Config, Config.ofYaml c.toYaml = .ok c) ∧
      ∀ (s : Scene) (arguments : List String), (run s ("config" :: arguments)).exitCode = 0 →
        ∀ (s' : Scene) (arguments' : List String) (path : String),
          valueBehind? configFlag arguments' = some path →
          s'.files path = .ok (Text.Utf8.bytesOf (run s ("config" :: arguments)).stdout) →
          (s'.environment = s.environment ∨ Config.HasNoSettings s'.environment) →
          (run s' ("config" :: arguments')).exitCode = 0 ∧
            (run s' ("config" :: arguments')).stdout = (run s ("config" :: arguments)).stdout := by
  refine ⟨Config.ofYaml_toYaml, ?_⟩
  intro s arguments hexit s' arguments' path hpath hfile henvironment
  obtain ⟨c, hprinted⟩ := runConfig_of_exitCode hexit
  have hsame : (c.withOverrides s.environment).withOverrides s'.environment =
      c.withOverrides s.environment := by
    rcases henvironment with hsame | hnone
    · rw [hsame, Config.withOverrides_twice]
    · exact Config.withOverrides_of_hasNoSettings hnone _
  rw [hprinted] at hfile ⊢
  rw [runConfig_of_printed hpath hfile, hsame]
  exact ⟨rfl, rfl⟩

/-- A file whose settings look like other kinds of values, or hold line ends and quotes. -/
def quirkyFile : String :=
  "base_url: 'null'\nproxy_url: \"\"\napp_version: '07'\nversion_header: \"it's\\L: |\"\n"

/-- A scene with that file and a variable that changes one of its settings. -/
def quirkyScene : Scene where
  environment := [("MAIL_API_TIMEOUT_SECS", Text.Utf8.bytesOf " +7 ")]
  files path :=
    if path = "quirky.yaml" then .ok (Text.Utf8.bytesOf quirkyFile) else .error .missing
  network := .unreachable
  requestId := "id-1"

/-- What is printed of it. -/
def quirkyText : String :=
  "base_url: 'null'\ntimeout_secs: 7\npool_max_idle_per_host: 32\npool_idle_timeout_secs: 90\n"
    ++ "proxy_url: ''\nuser_agent: mail-api-route/0.1.0\napp_version: '07'\n"
    ++ "version_header: 'it''s\u2028  : |'\n"
    ++ "retry:\n  max_retries: 0\n  min_delay_ms: 0\n  max_delay_ms: 0\n"

/-- A scene with what was printed as a file, where only a variable of another program is set. -/
def savedScene : Scene where
  environment := [("HOME", Text.Utf8.bytesOf "/root")]
  files path :=
    if path = "saved.yaml" then
      .ok (Text.Utf8.bytesOf (run quirkyScene ["config", "--config", "quirky.yaml"]).stdout)
    else .error .missing
  network := .unreachable
  requestId := "id-2"

/-- The settings of the file survive, with the variable applied, when they are saved and loaded. -/
theorem printed_config_reloads_of_quirkyFile :
    (run quirkyScene ["config", "--config", "quirky.yaml"]).exitCode = 0 ∧
      Config.HasNoSettings savedScene.environment ∧
      (run savedScene ["config", "--config", "saved.yaml"]).exitCode = 0 ∧
      (run savedScene ["config", "--config", "saved.yaml"]).stdout = quirkyText := by
  have hrun : (run quirkyScene ["config", "--config", "quirky.yaml"]).exitCode = 0 ∧
      (run quirkyScene ["config", "--config", "quirky.yaml"]).stdout = quirkyText := by
    decide +kernel
  obtain ⟨hexit, hprinted⟩ := hrun
  have hnone : Config.HasNoSettings savedScene.environment := by
    intro name value hmem
    rw [savedScene, List.mem_singleton, Prod.mk.injEq] at hmem
    rw [hmem.1]
    decide
  obtain ⟨hreloaded, hsame⟩ := printed_config_reloads.2 quirkyScene
    ["--config", "quirky.yaml"] hexit savedScene ["--config", "saved.yaml"]
    "saved.yaml" rfl rfl (Or.inr hnone)
  exact ⟨hexit, hnone, hreloaded, hsame.trans hprinted⟩

end Courier.CommandLine
