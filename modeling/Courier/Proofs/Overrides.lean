import Courier.Config
import Courier.Proofs.Delays

/-!
# Settings from the environment

Nine fields of a configuration can be overridden, each by a variable of its own.  Three of them take
the text of the variable as it is, six take a number of 32 or 64 bits that may stand between blanks.
A variable that is not set, is not text or is no such number leaves its field alone.

* `Environment.text?_eq_some_iff` — the text of a variable, told by its bytes.
* `Text.numeral_trim_eq_ok_iff` — the texts that are numbers, blanks around them apart.
* `Setting.given?_eq_some_iff` — **what an environment gives for a setting**.
* `Setting.valueIn_withOverrides` — a setting is what the environment gives, or else what it was.
* `Setting.eq_of_valueIn` — a configuration is its nine settings and two fields more.
* `overrides_fieldwise` — **each field follows its own variable**, and the last environment counts.
-/

namespace Courier

/-! ## Variables -/

namespace Environment

variable {env env' : Environment} {name s : String}

/-- A variable is set to a text. -/
def HasText (env : Environment) (name s : String) : Prop :=
  env.lookup name = some (Text.Utf8.bytesOf s)

/-- The text of a variable is the one whose bytes it holds. -/
theorem text?_eq_some_iff : env.text? name = some s ↔ env.HasText name s := by
  rw [text?, Option.bind_eq_some_iff, HasText]
  constructor
  · rintro ⟨bytes, hlookup, htext⟩
    rw [hlookup, Text.Utf8.string?_eq_some_iff.1 htext]
  · intro hlookup
    exact ⟨_, hlookup, Text.Utf8.string?_eq_some_iff.2 rfl⟩

/-- A variable that is set to something is set to a text that is not empty. -/
theorem filled?_eq_some_iff : env.filled? name = some s ↔ env.HasText name s ∧ s ≠ "" := by
  rw [filled?, Option.filter_eq_some_iff, text?_eq_some_iff]
  simp

theorem HasText.unique {s' : String} (h : env.HasText name s) (h' : env.HasText name s') :
    s = s' :=
  Option.some.inj ((text?_eq_some_iff.2 h).symm.trans (text?_eq_some_iff.2 h'))

theorem hasText_congr (h : env.lookup name = env'.lookup name) :
    env.HasText name s ↔ env'.HasText name s := by
  rw [HasText, HasText, h]

end Environment

/-! ## Numbers between blanks -/

namespace Text

/-- A numeral that may stand between blanks. -/
def IsPaddedNumeral (cs : List Char) (n : Nat) : Prop :=
  ∃ lead numeral trail, cs = lead ++ numeral ++ trail ∧
    (∀ c ∈ lead ++ trail, isBlank c = true) ∧ IsNumeral numeral n

/-- **The texts that are numbers**, blanks around them apart. -/
theorem numeral_trim_eq_ok_iff {limit n : Nat} {cs : List Char} :
    numeral 10 limit (trim cs) = .ok n ↔ IsPaddedNumeral cs n ∧ n ≤ limit := by
  rw [numeral_eq_ok_iff]
  refine and_congr_left fun _ => ?_
  constructor
  · intro h
    obtain ⟨lead, trail, hsplit, hblank⟩ := exists_trimBy isBlank cs
    exact ⟨lead, trim cs, trail, hsplit, hblank, h⟩
  · rintro ⟨lead, numeral, trail, rfl, hblank, hnumeral⟩
    have htrim : trim (lead ++ numeral ++ trail) = numeral :=
      trimBy_around hblank (Http.ne_nil_of_isNumeral hnumeral)
        fun c hc => Http.isBlank_numeral hnumeral hc
    rwa [htrim]

end Text

namespace Config

theorem numberIn?_eq_some_iff {env : Environment} {name : String} {limit n : Nat} :
    numberIn? env name limit = some n ↔
      ∃ s, env.HasText name s ∧ Text.IsPaddedNumeral s.toList n ∧ n ≤ limit := by
  unfold numberIn?
  cases htext : env.text? name with
  | none =>
    constructor
    · rintro ⟨⟩
    · rintro ⟨s, hs, -⟩
      rw [Environment.text?_eq_some_iff.2 hs] at htext
      cases htext
  | some s =>
    have hs := Environment.text?_eq_some_iff.1 htext
    constructor
    · intro h
      have hread : Text.numeral 10 limit (Text.trim s.toList) = .ok n := by
        cases hnumeral : Text.numeral 10 limit (Text.trim s.toList) with
        | error e => simp [hnumeral, Except.toOption] at h
        | ok m =>
          simp only [hnumeral, Except.toOption, Option.some.injEq] at h
          rw [h]
      obtain ⟨hpadded, hle⟩ := Text.numeral_trim_eq_ok_iff.1 hread
      exact ⟨s, hs, hpadded, hle⟩
    · rintro ⟨s', hs', hpadded, hle⟩
      obtain rfl := hs.unique hs'
      simp only [Text.numeral_trim_eq_ok_iff.2 ⟨hpadded, hle⟩, Except.toOption]

theorem toNat_getD_word64 (env : Environment) (name : String) (before : UInt64) :
    ((word64In? env name).getD before).toNat = (numberIn? env name limit64).getD before.toNat := by
  rw [word64In?]
  cases h : numberIn? env name limit64 with
  | none => rfl
  | some n =>
    obtain ⟨-, -, -, hle⟩ := numberIn?_eq_some_iff.1 h
    exact UInt64.toNat_ofNat_of_lt' (Nat.lt_succ_of_le hle)

theorem toNat_getD_word32 (env : Environment) (name : String) (before : UInt32) :
    ((word32In? env name).getD before).toNat = (numberIn? env name limit32).getD before.toNat := by
  rw [word32In?]
  cases h : numberIn? env name limit32 with
  | none => rfl
  | some n =>
    obtain ⟨-, -, -, hle⟩ := numberIn?_eq_some_iff.1 h
    exact UInt32.toNat_ofNat_of_lt' (Nat.lt_succ_of_le hle)

/-! ## Settings -/

/-- A field of a configuration that a variable may override. -/
inductive Setting where
  | baseUrl
  | timeout
  | poolMaxIdlePerHost
  | poolIdleTimeout
  | proxyUrl
  | appVersion
  | maxRetries
  | minDelay
  | maxDelay
  deriving DecidableEq

/-- What a setting can be: a text, which some may lack, or a number. -/
inductive SettingValue where
  | text (s : Option String)
  | number (n : Nat)
  deriving DecidableEq

/-- How the text of a variable is read: as it is, or as a number of so many bits. -/
inductive SettingForm where
  | text
  | number (bits : Nat)

/-- The values that texts stand for. -/
inductive SettingForm.Reads : SettingForm → String → SettingValue → Prop where
  | text (s : String) : Reads .text s (.text (some s))
  | number {bits n : Nat} {s : String} (hpadded : Text.IsPaddedNumeral s.toList n)
      (hlt : n < 2 ^ bits) : Reads (.number bits) s (.number n)

namespace Setting

/-- The variable of a setting. -/
def variableName : Setting → String
  | .baseUrl => "MAIL_API_BASE_URL"
  | .timeout => "MAIL_API_TIMEOUT_SECS"
  | .poolMaxIdlePerHost => "MAIL_API_POOL_MAX_IDLE_PER_HOST"
  | .poolIdleTimeout => "MAIL_API_POOL_IDLE_TIMEOUT_SECS"
  | .proxyUrl => "MAIL_API_PROXY_URL"
  | .appVersion => "MAIL_API_APP_VERSION"
  | .maxRetries => "MAIL_API_MAX_RETRIES"
  | .minDelay => "MAIL_API_MIN_DELAY_MS"
  | .maxDelay => "MAIL_API_MAX_DELAY_MS"

/-- How the variable of a setting is read. -/
def form : Setting → SettingForm
  | .baseUrl | .proxyUrl | .appVersion => .text
  | .timeout | .poolMaxIdlePerHost | .poolIdleTimeout => .number 64
  | .maxRetries | .minDelay | .maxDelay => .number 32

/-- What a setting is in a configuration. -/
def valueIn (c : Config) : Setting → SettingValue
  | .baseUrl => .text (some c.baseUrl)
  | .timeout => .number c.timeout.toNat
  | .poolMaxIdlePerHost => .number c.poolMaxIdlePerHost.toNat
  | .poolIdleTimeout => .number c.poolIdleTimeout.toNat
  | .proxyUrl => .text c.proxyUrl
  | .appVersion => .text c.appVersion
  | .maxRetries => .number c.retry.maxRetries.toNat
  | .minDelay => .number c.retry.minDelay.toNat
  | .maxDelay => .number c.retry.maxDelay.toNat

/-- An environment gives a value for a setting: its variable is a text that stands for it. -/
def GivenBy (setting : Setting) (env : Environment) (v : SettingValue) : Prop :=
  ∃ s, env.HasText setting.variableName s ∧ setting.form.Reads s v

/-- What an environment gives for a setting. -/
def given? (setting : Setting) (env : Environment) : Option SettingValue :=
  match setting.form with
  | .text => (env.text? setting.variableName).map fun s => .text (some s)
  | .number bits => (numberIn? env setting.variableName (2 ^ bits - 1)).map .number

/-- **What an environment gives for a setting.** -/
theorem given?_eq_some_iff {setting : Setting} {env : Environment} {v : SettingValue} :
    setting.given? env = some v ↔ setting.GivenBy env v := by
  unfold given? GivenBy
  cases setting.form with
  | text =>
    simp only [Option.map_eq_some_iff, Environment.text?_eq_some_iff]
    constructor
    · rintro ⟨s, hs, rfl⟩
      exact ⟨s, hs, .text s⟩
    · rintro ⟨s, hs, ⟨⟩⟩
      exact ⟨s, hs, rfl⟩
  | number bits =>
    have hpos : 0 < 2 ^ bits := Nat.two_pow_pos bits
    simp only [Option.map_eq_some_iff, numberIn?_eq_some_iff]
    constructor
    · rintro ⟨n, ⟨s, hs, hpadded, hle⟩, rfl⟩
      exact ⟨s, hs, .number hpadded (by omega)⟩
    · rintro ⟨s, hs, hreads⟩
      cases hreads with
      | number hpadded hlt => exact ⟨_, ⟨s, hs, hpadded, by omega⟩, rfl⟩

theorem given?_eq_none_iff {setting : Setting} {env : Environment} :
    setting.given? env = none ↔ ∀ v, ¬setting.GivenBy env v := by
  rw [Option.eq_none_iff_forall_ne_some]
  exact forall_congr' fun v => not_congr given?_eq_some_iff

/-- What is given for a setting depends on its own variable. -/
theorem given?_congr {setting : Setting} {env env' : Environment}
    (h : env.lookup setting.variableName = env'.lookup setting.variableName) :
    setting.given? env = setting.given? env' := by
  refine Option.ext fun v => ?_
  rw [given?_eq_some_iff, given?_eq_some_iff]
  exact exists_congr fun s => and_congr_left fun _ => Environment.hasText_congr h

/-- **A setting is what the environment gives**, or else what it was. -/
theorem valueIn_withOverrides (setting : Setting) (c : Config) (env : Environment) :
    setting.valueIn (c.withOverrides env) = (setting.given? env).getD (setting.valueIn c) := by
  have hnumber : ∀ (o : Option Nat) (n : Nat),
      SettingValue.number (o.getD n) = (o.map .number).getD (.number n) := by
    intro o n
    cases o <;> rfl
  have htext : ∀ (o : Option String) (before : Option String),
      SettingValue.text (o.or before) = (o.map fun s => .text (some s)).getD (.text before) := by
    intro o before
    cases o <;> rfl
  cases setting with
  | baseUrl =>
    show SettingValue.text (some ((env.text? _).getD _)) = _
    rw [← Option.or_some]
    exact htext _ _
  | proxyUrl => exact htext _ _
  | appVersion => exact htext _ _
  | timeout | poolMaxIdlePerHost | poolIdleTimeout =>
    exact (congrArg _ (toNat_getD_word64 env _ _)).trans (hnumber _ _)
  | maxRetries | minDelay | maxDelay =>
    exact (congrArg _ (toNat_getD_word32 env _ _)).trans (hnumber _ _)

/-- **A configuration is its nine settings and two fields more.** -/
theorem eq_of_valueIn {c c' : Config}
    (h : ∀ setting : Setting, setting.valueIn c = setting.valueIn c')
    (hagent : c.userAgent = c'.userAgent) (hheader : c.versionHeader = c'.versionHeader) :
    c = c' := by
  obtain ⟨baseUrl, timeout, idle, idleTime, proxy, agent, app, header, maxRetries, minDelay,
    maxDelay⟩ := c
  obtain ⟨baseUrl', timeout', idle', idleTime', proxy', agent', app', header', maxRetries',
    minDelay', maxDelay'⟩ := c'
  have hbase := h .baseUrl
  have htimeout := h .timeout
  have hidle := h .poolMaxIdlePerHost
  have hidleTime := h .poolIdleTimeout
  have hproxy := h .proxyUrl
  have happ := h .appVersion
  have hmax := h .maxRetries
  have hmin := h .minDelay
  have hdelay := h .maxDelay
  simp only [valueIn, SettingValue.text.injEq, SettingValue.number.injEq, Option.some.injEq,
    UInt64.toNat_inj, UInt32.toNat_inj]
    at hbase htimeout hidle hidleTime hproxy happ hmax hmin hdelay
  simp only at hagent hheader
  subst hbase htimeout hidle hidleTime hproxy happ hmax hmin hdelay hagent hheader
  rfl

/-- What an environment gives counts, whatever was given before. -/
theorem valueIn_withOverrides_of_given {setting : Setting} {env : Environment} {v : SettingValue}
    (h : setting.GivenBy env v) (c : Config) : setting.valueIn (c.withOverrides env) = v := by
  rw [valueIn_withOverrides, given?_eq_some_iff.2 h, Option.getD_some]

/-- A setting that an environment does not give is left alone. -/
theorem valueIn_withOverrides_of_not_given {setting : Setting} {env : Environment}
    (h : ∀ v, ¬setting.GivenBy env v) (c : Config) :
    setting.valueIn (c.withOverrides env) = setting.valueIn c := by
  rw [valueIn_withOverrides, given?_eq_none_iff.2 h, Option.getD_none]

end Setting

/-- What becomes of a configuration depends on the nine variables. -/
theorem withOverrides_congr {env env' : Environment}
    (h : ∀ setting : Setting, env.lookup setting.variableName = env'.lookup setting.variableName)
    (c : Config) : c.withOverrides env = c.withOverrides env' := by
  refine Setting.eq_of_valueIn (fun setting => ?_) rfl rfl
  rw [setting.valueIn_withOverrides, setting.valueIn_withOverrides,
    Setting.given?_congr (h setting)]

/-- Variables that were applied change nothing when they are applied again. -/
theorem withOverrides_twice (c : Config) (env : Environment) :
    (c.withOverrides env).withOverrides env = c.withOverrides env := by
  refine Setting.eq_of_valueIn (fun setting => ?_) rfl rfl
  rw [setting.valueIn_withOverrides, setting.valueIn_withOverrides]
  cases setting.given? env <;> rfl

/-- **Each field follows its own variable.**  A setting whose variable is set to a text that can be
used has the value of that text: the text itself, or the number of 32 or 64 bits that it is without
the blanks around it.  Otherwise it is what it was before.  So it depends on its own value before
and on its own variable; the last environment that gives a value counts, the same environment a
second time changes nothing, and the two fields of a configuration that are no settings never
change. -/
theorem overrides_fieldwise (c : Config) (env : Environment) :
    (∀ setting : Setting,
      (∀ v, setting.GivenBy env v → setting.valueIn (c.withOverrides env) = v) ∧
        ((∀ v, ¬setting.GivenBy env v) →
          setting.valueIn (c.withOverrides env) = setting.valueIn c) ∧
        (∀ c' env', setting.valueIn c = setting.valueIn c' →
          env.lookup setting.variableName = env'.lookup setting.variableName →
            setting.valueIn (c.withOverrides env) = setting.valueIn (c'.withOverrides env')) ∧
        ∀ env' v, setting.GivenBy env' v →
          setting.valueIn ((c.withOverrides env).withOverrides env') =
            setting.valueIn (c.withOverrides env')) ∧
      (c.withOverrides env).userAgent = c.userAgent ∧
      (c.withOverrides env).versionHeader = c.versionHeader ∧
      (c.withOverrides env).withOverrides env = c.withOverrides env ∧
      ∀ c', (∀ setting : Setting, setting.valueIn c = setting.valueIn c') →
        c.userAgent = c'.userAgent → c.versionHeader = c'.versionHeader → c = c' := by
  refine ⟨?_, rfl, rfl, withOverrides_twice c env, fun c' => Setting.eq_of_valueIn⟩
  intro setting
  refine ⟨fun v hv => Setting.valueIn_withOverrides_of_given hv c,
    fun hnone => Setting.valueIn_withOverrides_of_not_given hnone c, ?_, ?_⟩
  · intro c' env' hvalue hlookup
    rw [setting.valueIn_withOverrides, setting.valueIn_withOverrides,
      Setting.given?_congr hlookup, hvalue]
  · intro env' v hv
    rw [Setting.valueIn_withOverrides_of_given hv, Setting.valueIn_withOverrides_of_given hv]

/-- An environment with blanks of two kinds around a number, numbers at and above their limits, a
number with a minus sign, an empty text and bytes that are no text. -/
def mixedEnvironment : Environment :=
  [("MAIL_API_BASE_URL", []), ("MAIL_API_TIMEOUT_SECS", Text.Utf8.bytesOf "\u2003+007\n"),
    ("MAIL_API_POOL_MAX_IDLE_PER_HOST", Text.Utf8.bytesOf "18446744073709551615"),
    ("MAIL_API_POOL_IDLE_TIMEOUT_SECS", Text.Utf8.bytesOf "18446744073709551616"),
    ("MAIL_API_PROXY_URL", [0xFF]), ("MAIL_API_MAX_RETRIES", Text.Utf8.bytesOf "4294967296"),
    ("MAIL_API_MIN_DELAY_MS", Text.Utf8.bytesOf "-5")]

/-- Three of these variables can be used, and all other settings are left alone.  Of two
environments that give a base URL the last one counts, though it gives an empty one. -/
theorem overrides_fieldwise_of_mixedEnvironment :
    (∀ given ∈ [(Setting.baseUrl, SettingValue.text (some "")), (.timeout, .number 7),
        (.poolMaxIdlePerHost, .number 18446744073709551615)],
      given.1.GivenBy mixedEnvironment given.2 ∧
        given.1.valueIn ((Config.new "http://a/").withOverrides mixedEnvironment) = given.2) ∧
      (∀ setting ∈ [Setting.poolIdleTimeout, .proxyUrl, .appVersion, .maxRetries, .minDelay,
          .maxDelay],
        (∀ v, ¬setting.GivenBy mixedEnvironment v) ∧
          setting.valueIn ((Config.new "http://a/").withOverrides mixedEnvironment) =
            setting.valueIn (Config.new "http://a/")) ∧
      Setting.baseUrl.valueIn (((Config.new "http://a/").withOverrides
          [("MAIL_API_BASE_URL", Text.Utf8.bytesOf "http://b/")]).withOverrides mixedEnvironment) =
        .text (some "") := by
  obtain ⟨hsettings, -⟩ := overrides_fieldwise (Config.new "http://a/") mixedEnvironment
  have hgiven : ∀ given ∈ [(Setting.baseUrl, SettingValue.text (some "")), (.timeout, .number 7),
      (.poolMaxIdlePerHost, .number 18446744073709551615)],
      given.1.given? mixedEnvironment = some given.2 := by decide +kernel
  have hnone : ∀ setting ∈ [Setting.poolIdleTimeout, .proxyUrl, .appVersion, .maxRetries, .minDelay,
      .maxDelay], setting.given? mixedEnvironment = none := by decide +kernel
  refine ⟨?_, ?_, ?_⟩
  · intro given hmem
    have hby := Setting.given?_eq_some_iff.1 (hgiven given hmem)
    exact ⟨hby, (hsettings given.1).1 _ hby⟩
  · intro setting hmem
    have hby := Setting.given?_eq_none_iff.1 (hnone setting hmem)
    exact ⟨hby, (hsettings setting).2.1 hby⟩
  · have hby := Setting.given?_eq_some_iff.1 (hgiven _ List.mem_cons_self)
    obtain ⟨hearlier, -⟩ := overrides_fieldwise (Config.new "http://a/")
      [("MAIL_API_BASE_URL", Text.Utf8.bytesOf "http://b/")]
    exact ((hearlier .baseUrl).2.2.2 mixedEnvironment _ hby).trans ((hsettings .baseUrl).1 _ hby)

end Config

end Courier
