import SecretSync.Cli.Options
import SecretSync.Config.Environment
import SecretSync.Files.Folder
import SecretSync.Logging.Setup
import SecretSync.Text.Integer

/-!
# What a command line asks for

A command line has options for the log, the name of a command, and what belongs to the command.
The version and help come before everything else that is asked for.
-/

namespace SecretSync.Cli

/-- A command with what it needs. -/
inductive Command where
  /-- Watch declarations, of one namespace or of all, and keep their targets filled. -/
  | run (config : Option String) (ns : Option String) (watchTimeout : Option Int)
  /-- Reconcile one declaration. -/
  | reconcile (config : Option String) (ns name : String)
  deriving DecidableEq, Repr

/-- Why a command line leads to no command. -/
inductive Refusal where
  /-- Help is asked for. -/
  | help
  /-- The version is asked for. -/
  | version
  | usage (fault : UsageFault)
  /-- A path holds a NUL character. -/
  | embeddedNul
  deriving DecidableEq, Repr

/-- The options of all commands for help. -/
def helpForm : OptionForm := ⟨"--help", none, false⟩

/-- The options in front of the command. -/
def groupForms : List OptionForm := [
  ⟨"--version", some 'V', false⟩, ⟨"--verbose", some 'v', false⟩, ⟨"--debug", none, false⟩,
  ⟨"--json-logs", none, false⟩, ⟨"--log-file", none, true⟩, helpForm]

/-- The option for the file with the settings. -/
def configForm : OptionForm := ⟨"--config", some 'c', true⟩

/-- The options of the command that runs the operator. -/
def runForms : List OptionForm :=
  [configForm, ⟨"--namespace", some 'n', true⟩, ⟨"--watch-timeout", none, true⟩, helpForm]

/-- The options of the command that reconciles one declaration. -/
def reconcileForms : List OptionForm := [configForm, helpForm]

/-- The truth value that a word of a variable stands for. -/
def flagWord? (s : String) : Option Bool :=
  let word := (String.ofList (Text.trimBy Text.isBlank s.toList)).toLower
  if word.isEmpty then some false
  else if ["1", "true", "t", "yes", "y", "on"].contains word then some true
  else if ["0", "false", "f", "no", "n", "off"].contains word then some false
  else none

/-- A path as it is handed on. -/
def pathValue (s : String) : Except Refusal String :=
  if s.toList.contains '\x00' then .error .embeddedNul
  else .ok (String.ofList (FilePath.normalise s.toList))

/-- Whether records are to be written as JSON. -/
def jsonFlag (env : Config.Environment) (w : Words) : Except Refusal Bool :=
  if w.has "--json-logs" then .ok true
  else
    match env.get? "BW_LOG_JSON" with
    | none => .ok false
    | some s =>
      match flagWord? s with
      | some b => .ok b
      | none => .error (.usage (.badValue "--json-logs"))

/-- Command lines with usage faults. -/
def usage {α : Type} (result : Except UsageFault α) : Except Refusal α := result.mapError .usage

/-- Options for the log, and the words behind them. -/
def readFront (env : Config.Environment) (args : List String) :
    Except Refusal (Logging.Options × List String) := do
  if args.isEmpty then throw (.usage .noCommand)
  let w ← usage (readWords groupForms false args)
  match w.first? ["--version", "--help"] with
  | some "--version" => throw .version
  | some _ => throw .help
  | none => pure ()
  let json ← jsonFlag env w
  let file ← ((w.value? "--log-file").or (env.get? "BW_LOG_FILE")).mapM pathValue
  return (⟨w.has "--verbose", w.has "--debug", json, file⟩, w.others)

/-- Options for the log, the name of a command, and the words behind it.  Words in the place of a
command that look like options are read as such before they are refused. -/
def readGroup (env : Config.Environment) (args : List String) :
    Except Refusal (Logging.Options × String × List String) := do
  let (logging, words) ← readFront env args
  match words with
  | [] => throw (.usage .noCommand)
  | name :: rest =>
    if name == "run" || name == "reconcile" then return (logging, name, rest)
    if name.toList.head? = some '-' then discard (readFront env words)
    throw (.usage (.unknownCommand name))

/-- The file with the settings, which has to be there. -/
def configFile (folder : Files.Folder) (w : Words) : Except Refusal (Option String) :=
  match w.value? "--config" with
  | none => .ok none
  | some s =>
    if s.toList.contains '\x00' then .error .embeddedNul
    else if folder.hasFile s.toList then .ok (some (String.ofList (FilePath.normalise s.toList)))
    else .error (.usage (.badValue "--config"))

/-- The seconds that a watch stays open at most. -/
def watchTimeout (w : Words) : Except Refusal (Option Int) :=
  match w.value? "--watch-timeout" with
  | none => .ok none
  | some s =>
    match Text.Integer.ofField s with
    | .ok n => if 1 ≤ n then .ok (some n) else .error (.usage (.badValue "--watch-timeout"))
    | .error _ => .error (.usage (.badValue "--watch-timeout"))

/-- A command with the words behind its name. -/
def readCommand (folder : Files.Folder) (name : String) (args : List String) :
    Except Refusal Command := do
  if name == "run" then
    let w ← usage (readWords runForms true args)
    if w.has "--help" then throw .help
    let config ← configFile folder w
    let timeout ← watchTimeout w
    match w.others with
    | [] => return .run config (w.value? "--namespace") timeout
    | word :: _ => throw (.usage (.extraArgument word))
  else
    let w ← usage (readWords reconcileForms true args)
    if w.has "--help" then throw .help
    let config ← configFile folder w
    match w.others with
    | [ns, key] => return .reconcile config ns key
    | [] => throw (.usage (.missingArgument "NAMESPACE"))
    | [_] => throw (.usage (.missingArgument "NAME"))
    | _ :: _ :: word :: _ => throw (.usage (.extraArgument word))

end SecretSync.Cli
