import Courier.Descriptor
import Courier.Json.Printer
import Courier.Text.Quoted

/-!
# Options of a request

A list of arguments is read group by group: a flag, and its value if it takes one.  The first
malformed group decides.  Groups of one flag and, for parameters and headers, of one key override
one another; the order of all others leaves no trace.
-/

namespace Courier.CommandLine

/-- A flag with its value. -/
inductive Group where
  | param (key : String) (value : Json.Value)
  | header (key value : String)
  | apiVersion (version : UInt32)
  | config (path : String)
  | noAuth
  | noRetry

/-- What is wrong with a list of arguments. -/
inductive Misuse where
  | tooFew
  | unknownOption (argument : String)
  | missingValue (flag : String)
  | notPair (value : String)
  | notVersion (value : String) (cause : Text.NumeralError)
  deriving DecidableEq

namespace Misuse

/-- The wording of a misuse. -/
def message : Misuse → String
  | .tooFew => "usage: mail-api-cli request <METHOD> <PATH> [OPTIONS]"
  | .unknownOption argument => "unknown option " ++ argument
  | .missingValue flag => flag ++ " needs a value"
  | .notPair value => "expected key=value, got " ++ Text.quoted value
  | .notVersion value _ => "invalid api version " ++ Text.quoted value

/-- The messages of a misuse and of what caused it, outermost first. -/
def chain (m : Misuse) : List String :=
  m.message ::
    (match m with
      | .notVersion _ cause => [cause.message]
      | _ => [])

end Misuse

/-! ## Reading groups -/

/-- A key and a value around the first equals sign; the key is not empty. -/
def splitPair? (cs : List Char) : Option (List Char × List Char) :=
  match cs.dropWhile (· != '=') with
  | '=' :: value =>
    let key := cs.takeWhile (· != '=')
    if key = [] then none else some (key, value)
  | _ => none

/-- A key and a value, or the fault of a text that is none. -/
def readPair (text : String) : Except Misuse (String × String) :=
  match splitPair? text.toList with
  | some (key, value) => .ok (String.ofList key, String.ofList value)
  | none => .error (.notPair text)

/-- The value that a parameter's text stands for: a JSON document, or else the text itself. -/
def paramValue (text : String) : Json.Value :=
  match Json.parse text with
  | .ok v => v
  | .error _ => .string text

/-- Flags that take a value. -/
inductive ValueFlag where
  | param
  | header
  | apiVersion
  | config
  deriving DecidableEq

/-- The flag that names a configuration file. -/
def configFlag : String := "--config"

/-- The flag of an argument, if it is one that takes a value. -/
def valueFlag? (argument : String) : Option ValueFlag :=
  if argument = "--param" then some .param
  else if argument = "--header" then some .header
  else if argument = "--api-version" then some .apiVersion
  else if argument = configFlag then some .config
  else none

/-- The flag of an argument, if it is one that stands alone. -/
def bareFlag? (argument : String) : Option Group :=
  if argument = "--no-auth" then some .noAuth
  else if argument = "--no-retry" then some .noRetry
  else none

/-- The group of a flag and its value. -/
def readGroup (flag : ValueFlag) (value : String) : Except Misuse Group :=
  match flag with
  | .param => (readPair value).map fun p => .param p.1 (paramValue p.2)
  | .header => (readPair value).map fun p => .header p.1 p.2
  | .apiVersion =>
    match Text.numeral32 value.toList with
    | .ok n => .ok (.apiVersion (.ofNat n))
    | .error cause => .error (.notVersion value cause)
  | .config => .ok (.config value)

/-- The groups of a list of arguments. -/
def readGroups : List String → Except Misuse (List Group)
  | [] => .ok []
  | argument :: rest =>
    match valueFlag? argument with
    | some flag =>
      match rest with
      | [] => .error (.missingValue argument)
      | value :: rest => do
        let group ← readGroup flag value
        let groups ← readGroups rest
        .ok (group :: groups)
    | none =>
      match bareFlag? argument with
      | some group => (readGroups rest).map (group :: ·)
      | none => .error (.unknownOption argument)

/-! ## What groups mean -/

/-- The parameters that groups give. -/
def paramsOf (groups : List Group) : Parameters :=
  groups.foldl
    (fun params g =>
      match g with
      | .param key value => params.insert key value
      | _ => params)
    ∅

/-- A descriptor with what one group says. -/
def applyGroup (d : Descriptor) : Group → Descriptor
  | .param .. => d
  | .header key value => d.withHeader key (.string value)
  | .apiVersion version => d.withVersion version
  | .config _ => d
  | .noAuth => d.withAuthenticated false
  | .noRetry => d.withAutoRetry false

/-- The descriptor of a request; it has parameters only if a group gives one. -/
def descriptorOf (method : Http.Method) (path : String) (groups : List Group) : Descriptor :=
  let d := groups.foldl applyGroup ((Descriptor.new path).withMethod method)
  let params := paramsOf groups
  if params.isEmpty then d else d.withParameters params

/-- The argument behind the first one that equals a flag. -/
def valueBehind? (flag : String) : List String → Option String
  | [] => none
  | argument :: rest => if argument = flag then rest.head? else valueBehind? flag rest

end Courier.CommandLine
