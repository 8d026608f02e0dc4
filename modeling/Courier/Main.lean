import Courier.CommandLine.Command

/-!
# The program

Reads arguments, the environment and files, runs the command and prints its outcome.  This program
opens no connection: to it the network is one without servers.
-/

namespace Courier.Program

/-- The variables that a command looks at. -/
def watchedVariables : List String :=
  [Credential.sessionVariable, Credential.tokenVariable, "MAIL_API_BASE_URL",
    "MAIL_API_TIMEOUT_SECS", "MAIL_API_POOL_MAX_IDLE_PER_HOST", "MAIL_API_POOL_IDLE_TIMEOUT_SECS",
    "MAIL_API_PROXY_URL", "MAIL_API_APP_VERSION", "MAIL_API_MAX_RETRIES",
    "MAIL_API_MIN_DELAY_MS", "MAIL_API_MAX_DELAY_MS"]

/-- The variables that are set. -/
def readEnvironment : IO Environment := do
  let mut found : Environment := []
  for name in watchedVariables do
    if let some value ← IO.getEnv name then
      found := found ++ [(name, Text.Utf8.bytesOf value)]
  return found

/-- The content of a file. -/
def readFile (path : String) : IO Config.FileContent := do
  try
    let bytes ← IO.FS.readBinFile path
    return .ok bytes.toList
  catch
    | .permissionDenied .. => return .error .denied
    | .inappropriateType .. => return .error .directory
    | _ => return .error .missing

/-- An id that is not used again. -/
def freshId : IO String := do
  let bytes ← IO.getRandomBytes 16
  let digits := bytes.toList.flatMap fun b => [b.toNat / 16, b.toNat % 16].map Nat.digitChar
  let group (start length : Nat) := String.ofList ((digits.drop start).take length)
  return String.intercalate "-"
    [group 0 8, group 8 4, "4" ++ group 13 3, "8" ++ group 17 3, group 20 12]

/-- Runs the command of the arguments and prints its outcome. -/
def run (arguments : List String) : IO UInt32 := do
  let environment ← readEnvironment
  let content ←
    match CommandLine.valueBehind? CommandLine.configFlag arguments with
    | some path => readFile path
    | none => pure (.error .missing)
  let outcome :=
    CommandLine.run ⟨environment, fun _ => content, .unreachable, ← freshId⟩ arguments
  IO.print outcome.stdout
  IO.eprint outcome.stderr
  return outcome.exitCode

end Courier.Program

/-- Runs the command of the arguments. -/
def main (arguments : List String) : IO UInt32 := Courier.Program.run arguments
