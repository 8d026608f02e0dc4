import Courier.Environment
import Courier.Http.Header
import Courier.Retry
import Courier.Text.Blank
import Courier.Url.Parser
import Courier.Yaml.Printer
import Courier.Yaml.Reader

/-!
# Configuration

The settings of a transport: defaults, a YAML file that may set some of them, and environment
variables that override them one by one.  `validate` checks what could otherwise fail with every
request.
-/

namespace Courier

/-- The settings of a transport; times are in seconds. -/
structure Config where
  /-- What every path is appended to. -/
  baseUrl : String
  timeout : UInt64
  poolMaxIdlePerHost : UInt64
  poolIdleTimeout : UInt64
  proxyUrl : Option String
  userAgent : String
  appVersion : Option String
  /-- The header that carries the version of each request. -/
  versionHeader : String
  retry : RetryPolicy
  deriving DecidableEq, Repr

namespace Config

/-- The settings where nothing is said. -/
def default : Config :=
  ⟨"", 30, 32, 90, none, "mail-api-route/0.1.0", none, "x-api-version", .disabled⟩

instance : Inhabited Config := ⟨default⟩

/-- The default settings for a base URL. -/
def new (baseUrl : String) : Config := { default with baseUrl := baseUrl }

/-- Sets the retry policy. -/
def withRetry (c : Config) (retry : RetryPolicy) : Config := { c with retry := retry }

/-- Sets the version of the application. -/
def withAppVersion (c : Config) (version : String) : Config := { c with appVersion := some version }

/-! ## YAML -/

/-- The greatest 32-bit number. -/
def limit32 : Nat := Text.maxU32

/-- The greatest 64-bit number. -/
def limit64 : Nat := Text.maxU64

/-- The fields of a retry policy. -/
def retryFields (t : Yaml.Tree) : Yaml.Tree.Fields RetryPolicy where
  expected := "struct RetryPolicy"
  initial := .disabled
  field? name path p items :=
    let word (set : UInt32 → RetryPolicy) : Option (Yaml.Read RetryPolicy) :=
      some ((t.number (path ++ [name]) limit32 "u32" items).map fun r => (set (.ofNat r.1), r.2))
    match name with
    | "max_retries" => word fun n => { p with maxRetries := n }
    | "min_delay_ms" => word fun n => { p with minDelay := n }
    | "max_delay_ms" => word fun n => { p with maxDelay := n }
    | _ => none

/-- The fields of a configuration. -/
def fields (t : Yaml.Tree) : Yaml.Tree.Fields Config where
  expected := "struct TransportConfig"
  initial := default
  field? name path c items :=
    let here := path ++ [name]
    let text (set : String → Config) : Option (Yaml.Read Config) :=
      some ((t.text here "a string" items).map fun r => (set r.1, r.2))
    let optional (set : Option String → Config) : Option (Yaml.Read Config) :=
      some ((t.optionalText here "a string" items).map fun r => (set r.1, r.2))
    let word (expected : String) (set : UInt64 → Config) : Option (Yaml.Read Config) :=
      some ((t.number here limit64 expected items).map fun r => (set (.ofNat r.1), r.2))
    match name with
    | "base_url" => text fun s => { c with baseUrl := s }
    | "timeout_secs" => word "u64" fun n => { c with timeout := n }
    | "pool_max_idle_per_host" => word "usize" fun n => { c with poolMaxIdlePerHost := n }
    | "pool_idle_timeout_secs" => word "u64" fun n => { c with poolIdleTimeout := n }
    | "proxy_url" => optional fun s => { c with proxyUrl := s }
    | "user_agent" => text fun s => { c with userAgent := s }
    | "app_version" => optional fun s => { c with appVersion := s }
    | "version_header" => text fun s => { c with versionHeader := s }
    | "retry" =>
      some ((t.record (retryFields t) here items).map fun r => ({ c with retry := r.1 }, r.2))
    | _ => none

/-- The configuration that a YAML text gives; what it does not set has its default. -/
def ofYaml (text : String) : Except Error Config :=
  let t := Yaml.Tree.ofText text.toList
  (t.whole (fields t)).mapError .yaml

/-- The fields of a retry policy with their values. -/
def retryRecord (p : RetryPolicy) : List (String × Yaml.Value) :=
  [("max_retries", .number p.maxRetries.toNat), ("min_delay_ms", .number p.minDelay.toNat),
    ("max_delay_ms", .number p.maxDelay.toNat)]

/-- The fields of a configuration with their values. -/
def record (c : Config) : List (String × Yaml.Value) :=
  let optional : Option String → Yaml.Value
    | some s => .text s
    | none => .null
  [("base_url", .text c.baseUrl), ("timeout_secs", .number c.timeout.toNat),
    ("pool_max_idle_per_host", .number c.poolMaxIdlePerHost.toNat),
    ("pool_idle_timeout_secs", .number c.poolIdleTimeout.toNat),
    ("proxy_url", optional c.proxyUrl), ("user_agent", .text c.userAgent),
    ("app_version", optional c.appVersion), ("version_header", .text c.versionHeader),
    ("retry", .record (retryRecord c.retry))]

/-- The YAML text of a configuration. -/
def toYaml (c : Config) : String := String.ofList (Yaml.print c.record)

/-! ## Files -/

/-- What reading a file gives. -/
abbrev FileContent := Except FileFault (List UInt8)

/-- The configuration in a file. -/
def ofFile (content : FileContent) : Except Error Config :=
  match content with
  | .error f => .error (.file f)
  | .ok bytes =>
    match Text.Utf8.string? bytes with
    | some text => ofYaml text
    | none => .error (.file .notText)

/-! ## Environment -/

/-- The number that a variable holds, blanks around it apart. -/
def numberIn? (env : Environment) (name : String) (limit : Nat) : Option Nat :=
  match env.text? name with
  | some s => (Text.numeral 10 limit (Text.trim s.toList)).toOption
  | none => none

/-- The 64-bit number that a variable holds. -/
def word64In? (env : Environment) (name : String) : Option UInt64 :=
  (numberIn? env name limit64).map UInt64.ofNat

/-- The 32-bit number that a variable holds. -/
def word32In? (env : Environment) (name : String) : Option UInt32 :=
  (numberIn? env name limit32).map UInt32.ofNat

/-- The retry policy with the variables that are usable in place of its parts. -/
def overrideRetry (p : RetryPolicy) (env : Environment) : RetryPolicy where
  maxRetries := (word32In? env "MAIL_API_MAX_RETRIES").getD p.maxRetries
  minDelay := (word32In? env "MAIL_API_MIN_DELAY_MS").getD p.minDelay
  maxDelay := (word32In? env "MAIL_API_MAX_DELAY_MS").getD p.maxDelay

/-- The configuration with the variables that are usable in place of its parts. -/
def withOverrides (c : Config) (env : Environment) : Config where
  baseUrl := (env.text? "MAIL_API_BASE_URL").getD c.baseUrl
  timeout := (word64In? env "MAIL_API_TIMEOUT_SECS").getD c.timeout
  poolMaxIdlePerHost := (word64In? env "MAIL_API_POOL_MAX_IDLE_PER_HOST").getD c.poolMaxIdlePerHost
  poolIdleTimeout := (word64In? env "MAIL_API_POOL_IDLE_TIMEOUT_SECS").getD c.poolIdleTimeout
  proxyUrl := (env.text? "MAIL_API_PROXY_URL").or c.proxyUrl
  userAgent := c.userAgent
  appVersion := (env.text? "MAIL_API_APP_VERSION").or c.appVersion
  versionHeader := c.versionHeader
  retry := overrideRetry c.retry env

/-- The default settings with the overrides of an environment. -/
def ofEnvironment (env : Environment) : Config := default.withOverrides env

/-! ## Validation -/

/-- The context of a field that validation finds at fault. -/
def fieldContext (path : String) : Context :=
  (Context.none.withFieldPath path).withSource "config_validator"

/-- The details of a text that is not a header value. -/
def badHeaderValue : String := "failed to parse header value"

/-- A field that is sent as a header must be a header value. -/
def validateValue (path : String) (value : String) : Except Error Unit :=
  if Http.isValue value then .ok ()
  else
    .error (.configuration (path ++ " is not a valid header value")
      ((fieldContext path).withDetails badHeaderValue))

/-- The base must be a URL of the web, and what is sent as a header must be one. -/
def validate (c : Config) : Except Error Unit := do
  match Url.parse c.baseUrl.toList with
  | .error f =>
    .error (.configuration ("invalid base_url " ++ Text.quoted c.baseUrl)
      ((fieldContext "config.base_url").withDetails f.message))
  | .ok url =>
    if !Url.isWebScheme url.scheme then
      .error (.configuration ("unsupported base_url scheme: " ++ String.ofList url.scheme)
        (fieldContext "config.base_url"))
    else if !Http.isName c.versionHeader then
      .error (.configuration ("invalid version_header " ++ Text.quoted c.versionHeader)
        (fieldContext "config.version_header"))
    else
      validateValue "config.user_agent" c.userAgent
      match c.appVersion with
      | some v => validateValue "config.app_version" v
      | none => .ok ()

end Config

end Courier
