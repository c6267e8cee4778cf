import SecretSync.Cli.Execution
import SecretSync.Json.Parser
import SecretSync.World.Reader

/-!
# The command line

The cluster and the vault are described by a JSON object on standard input; an empty input stands
for a world without objects.  The command line is executed in that world, what it prints goes to
standard output, and its exit code is that of the process.
-/

namespace SecretSync.Main

/-- The variables that the operator reads. -/
def variableNames : List String := [
  "BW_API_URL", "BW_IDENTITY_API_URL", "BW_SECRETS_MANAGER_STATE_PATH",
  "BW_SECRETS_MANAGER_REFRESH_INTERVAL", "BW_K8S_KUBECONFIG", "BW_K8S_CONTEXT", "BW_K8S_TIMEOUT",
  "BW_K8S_RETRY_ATTEMPTS", "WATCH_NAMESPACE", "BW_LOG_JSON", "BW_LOG_FILE"]

/-- The lines of a file; none if it cannot be read. -/
def readLines (path : String) : IO (List String) := do
  try
    return (← IO.FS.lines path).toList
  catch _ =>
    return []

/-- The accounts of the system: name, number and home directory. -/
def accounts : IO (List (String × String × String)) := do
  return (← readLines "/etc/passwd").filterMap (fun line =>
    match line.splitOn ":" with
    | name :: _ :: number :: _ :: _ :: home :: _ => some (name, number, home)
    | _ => none)

/-- The number of the account that the process runs under. -/
def accountNumber? : IO (Option String) := do
  return (← readLines "/proc/self/status").findSome? (fun line =>
    match line.splitOn "\t" with
    | "Uid:" :: number :: _ => some number
    | _ => none)

/-- The environment of the process.  Without a variable for it, the home directory is that of the
account. -/
def environment : IO Config.Environment := do
  let vars ← variableNames.filterMapM (fun name => do
    return (← IO.getEnv name).map (fun value => (name, value)))
  let accounts ← accounts
  let number ← accountNumber?
  let own := (accounts.find? (fun account => some account.2.1 = number)).map (·.2.2)
  let home := (← IO.getEnv "HOME").or own
  return ⟨vars, home, accounts.map (fun account => (account.1, account.2.2))⟩

/-- The content of a file, if it can be read. -/
def content? (path : String) : IO (Option (List UInt8)) := do
  try
    return some (← IO.FS.readBinFile path).toList
  catch _ =>
    return none

/-- The files that words of the command line lead to. -/
def folder (args : List String) : IO Files.Folder :=
  args.filterMapM (fun path => do
    return (← content? path).map (fun octets =>
      (String.ofList (FilePath.normalise path.toList), octets)))

/-- The lines that something printed takes. -/
def linesOf : Cli.Printed → List String
  | .text s => [s]
  | .table t => t.lines

end SecretSync.Main

/-- Execute a command line in the world that standard input describes. -/
def main (args : List String) : IO UInt32 := do
  let description ← (← IO.getStdin).readToEnd
  let view := (SecretSync.Json.parseKeepingHalves? description).getD .null
  let world := SecretSync.World.ofFullView SecretSync.Fault.ofView view
  let env ← SecretSync.Main.environment
  let folder ← SecretSync.Main.folder args
  let (outcome, _) := (SecretSync.Cli.execute .console env folder args).run world
  for item in outcome.printed do
    for line in SecretSync.Main.linesOf item do
      IO.println line
  return outcome.ending.code.toUInt32
