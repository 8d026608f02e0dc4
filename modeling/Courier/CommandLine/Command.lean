import Courier.CommandLine.Options
import Courier.Transport

/-!
# Commands

Each command turns arguments, the environment, files and the network into what is printed, an exit
code and what is left of the network.
-/

namespace Courier.CommandLine

/-- What a command may look at. -/
structure Scene where
  environment : Environment
  files : String → Config.FileContent
  network : Network
  /-- The id for a request, should one be sent. -/
  requestId : String

/-- What a command leaves behind. -/
structure Outcome where
  exitCode : UInt32
  stdout : String
  stderr : String
  network : Network

/-- Why a command failed. -/
inductive Failure where
  | misuse (m : Misuse)
  /-- A configuration file could not be loaded. -/
  | configFile (path : String) (e : Error)
  | error (e : Error)

/-- The messages of a failure and of what caused it, outermost first. -/
def Failure.chain : Failure → List String
  | .misuse m => m.chain
  | .configFile path e => ("loading config from " ++ path) :: e.chain
  | .error e => e.chain

/-- What is printed about a failure. -/
def Failure.report (f : Failure) : String :=
  "Error: " ++ String.intercalate ": " f.chain ++ "\n"

/-- The name and version of the program. -/
def versionText : String := "mail-api-cli 0.1.0\n"

/-- How the program is used. -/
def usageText : String :=
  "mail-api-cli: dispatch mail API requests

USAGE:
    mail-api-cli <COMMAND> [OPTIONS]

COMMANDS:
    request <METHOD> <PATH>     Send one request (METHOD: GET, POST, PUT, DELETE)
        --param <key=value>     Add a parameter (value parsed as JSON, else string)
        --header <key=value>    Add a request header
        --api-version <n>       Override the API version (default 3)
        --no-auth               Send without credentials
        --no-retry              Disable automatic retry
        --config <file>         Load transport config from YAML
    config [--config <file>]    Print the effective transport configuration
    version                     Show version information
    help                        Show this help message

ENVIRONMENT:
    MAIL_API_BASE_URL           API base URL
    MAIL_API_SESSION_ID         Session id for authenticated requests
    MAIL_API_ACCESS_TOKEN       Access token for authenticated requests
    MAIL_API_MAX_RETRIES        Retry budget for transient failures
"

/-! ## Configuration -/

/-- The configuration of the file that the arguments name, or the default one, with the overrides of
the environment. -/
def loadConfig (s : Scene) (arguments : List String) : Except Failure Config :=
  match valueBehind? configFlag arguments with
  | none => .ok (Config.default.withOverrides s.environment)
  | some path =>
    match Config.ofFile (s.files path) with
    | .ok c => .ok (c.withOverrides s.environment)
    | .error e => .error (.configFile path e)

/-! ## Requests -/

/-- The request that the arguments describe. -/
def readRequest (arguments : List String) : Except Failure Descriptor :=
  match arguments with
  | method :: path :: options =>
    match Http.Method.ofToken? method with
    | none => .error (.error (.unsupportedMethod method))
    | some m =>
      match readGroups options with
      | .error misuse => .error (.misuse misuse)
      | .ok groups => .ok (descriptorOf m path groups)
  | _ => .error (.misuse .tooFew)

/-- The transport that the arguments and the environment give. -/
def openTransport (s : Scene) (options : List String) : Except Failure Transport := do
  let c ← loadConfig s options
  match Transport.new c with
  | .ok t => .ok (t.withProvider .environment)
  | .error e => .error (.error e)

/-- What is printed of a response: its JSON over several lines, or else its text. -/
def responseText (r : Response) : String :=
  match r.json with
  | .ok v => v.prettyText ++ "\n"
  | .error _ => r.text ++ "\n"

/-- What is reported about a response. -/
def statusLine (r : Response) : String :=
  "HTTP " ++ Text.decimal r.status ++ " (retries: " ++ Text.decimal r.retryCount.toNat ++ ")\n"

/-! ## Running -/

/-- The outcome of a failure. -/
def Failure.outcome (f : Failure) (n : Network) : Outcome := ⟨1, "", f.report, n⟩

/-- Sends one request. -/
def runRequest (s : Scene) (arguments : List String) : Outcome :=
  match readRequest arguments with
  | .error f => f.outcome s.network
  | .ok d =>
    match openTransport s (arguments.drop 2) with
    | .error f => f.outcome s.network
    | .ok t =>
      let run := t.dispatch d ⟨s.environment, []⟩ s.requestId s.network
      match run.result with
      | .error e => (Failure.error e).outcome run.rest
      | .ok r => ⟨0, responseText r, statusLine r, run.rest⟩

/-- Prints the configuration. -/
def runConfig (s : Scene) (arguments : List String) : Outcome :=
  match loadConfig s arguments with
  | .error f => f.outcome s.network
  | .ok c => ⟨0, c.toYaml, "", s.network⟩

/-- Runs the command that the arguments name. -/
def run (s : Scene) : List String → Outcome
  | [] => ⟨1, usageText, "", s.network⟩
  | command :: arguments =>
    if command = "request" then runRequest s arguments
    else if command = "config" then runConfig s arguments
    else if command ∈ ["version", "--version", "-V"] then ⟨0, versionText, "", s.network⟩
    else if command ∈ ["help", "--help", "-h"] then ⟨0, usageText, "", s.network⟩
    else ⟨1, usageText, "Unknown command: " ++ command ++ "\n\n", s.network⟩

/-- Arguments are text, or the program stops at once. -/
def runBytes (s : Scene) (arguments : List (List UInt8)) : Outcome :=
  match arguments.mapM Text.Utf8.string? with
  | some texts => run s texts
  | none => ⟨101, "", "an argument is not text\n", s.network⟩

end Courier.CommandLine
