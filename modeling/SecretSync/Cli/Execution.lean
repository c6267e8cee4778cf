import SecretSync.Cli.Invocation
import SecretSync.Cli.Terminal
import SecretSync.Cluster.Client
import SecretSync.Controller.Run

/-!
# Executing a command line

A command prints text and tables and ends with an exit code.  Settings that are refused and
failures of the cluster are printed; any other failure ends the command on the spot, and so does
what cannot be printed.  The client of the cluster is closed in either case.
-/

namespace SecretSync.Cli

/-- The version of the operator. -/
def version : String := "0.1.0"

/-- What ends a command on the spot. -/
inductive Crash where
  | load (error : Config.LoadError)
  | controller (escape : Cluster.Escape)
  /-- The refresh interval is no span of time. -/
  | refresh (fault : Time.Duration.RangeFault)
  | embeddedNul
  /-- Something cannot be printed. -/
  | print (fault : PrintFault)

/-- How a command ends. -/
inductive Ending where
  | exit (code : Nat)
  | crash (cause : Crash)

namespace Ending

/-- The exit code of an ending. -/
def code : Ending → Nat
  | exit code => code
  | crash _ => 1

end Ending

/-- What a command line has led to. -/
structure Outcome where
  printed : List Printed
  /-- The options that the log was set up with, if it came to that. -/
  logging : Option Logging.Options
  ending : Ending

/-- A computation that prints and may end the command. -/
abbrev Console := ExceptT Ending (StateT (List Printed) Act)

namespace Console

/-- Print something. -/
def print (terminal : Terminal) (p : Printed) : Console Unit :=
  match terminal.fault? p with
  | some fault => throw (.crash (.print fault))
  | none => ExceptT.lift (modify (· ++ [p]))

/-- Print a text. -/
def say (terminal : Terminal) (s : String) : Console Unit := print terminal (.text s)

/-- End the command. -/
def exit {α : Type} (code : Nat) : Console α := throw (.exit code)

/-- An action of the world as a step of a command. -/
def act {α : Type} (a : Act α) : Console α := ExceptT.lift (StateT.lift a)

/-- The result of an action, with what is done about a failure. -/
def result {ε α : Type} (onFailure : ε → Console α) : Except ε α → Console α
  | .ok x => return x
  | .error e => onFailure e

/-- An action that may fail, with what is done about a failure. -/
def attempt {ε α : Type} (a : ExceptT ε Act α) (onFailure : ε → Console α) : Console α := do
  result onFailure (← act a.run)

/-- A step with a client of the cluster, which is closed however the step ends. -/
def closing {α : Type} (client : Cluster.Client) (step : Console α) : Console α :=
  ExceptT.mk (do
    let ending ← step.run
    let _ ← StateT.lift client.close
    return ending)

end Console

open Console (say exit act attempt result closing)

/-- What a refusal of the cluster leaves to hint at. -/
def accessHint : String :=
  "\n[dim]Hint: The service account needs get/list/watch on bitwardensecrets, " ++
    "patch on bitwardensecrets/status and get/create/update on secrets.[/dim]"

/-- What a cluster that cannot be reached leaves to hint at. -/
def connectionHint : String :=
  "\n[dim]Hint: Check that your kubeconfig is valid and the cluster is reachable.[/dim]"

variable (terminal : Terminal)

/-- Print a failure of the cluster and end the command. -/
def failCluster {α : Type} (e : ClusterError) : Console α := do
  match e.kind with
  | .unreachable cause =>
    say terminal "[red]Error:[/red] Cannot connect to Kubernetes cluster"
    say terminal ("  " ++ e.summary)
    match cause with
    | some cause => say terminal ("  Cause: " ++ cause)
    | none => pure ()
    say terminal connectionHint
  | .denied _ =>
    say terminal "[red]Error:[/red] Authentication/authorization failed"
    say terminal ("  " ++ e.summary)
    say terminal accessHint
  | _ => say terminal ("[red]Error:[/red] " ++ e.message)
  exit 1

/-- Load the settings.  Settings that are refused are reported and end the command. -/
def loadSettings (env : Config.Environment) (folder : Files.Folder) (config : Option String) :
    Console Config.OperatorSettings :=
  attempt (Config.load env folder config) (fun e => do
    if e.isReported then
      say terminal ("[red]Error:[/red] Invalid configuration\n  " ++ e.message ++
        terminal.details e)
      exit 1
    else throw (.crash (.load e)))

/-- Build a client of the cluster. -/
def openCluster (settings : Config.OperatorSettings) : Console Cluster.Client :=
  attempt (Cluster.Client.build settings.cluster) (failCluster terminal)

/-- What reconciling works with under given settings. -/
def syncSettings (settings : Config.OperatorSettings) (client : Cluster.Client) :
    Except Time.Duration.RangeFault Sync.Settings := do
  let refresh ← Time.Duration.ofSeconds? settings.refreshInterval
  return ⟨client.access, settings.vault.endpoints, settings.vault.statePath, refresh,
    Sync.guardWindow⟩

/-- The same as a step of a command. -/
def setUp (settings : Config.OperatorSettings) (client : Cluster.Client) : Console Sync.Settings :=
  result (fun fault => throw (.crash (.refresh fault))) (syncSettings settings client)

/-- Reconcile one declaration and report the result; the exit code tells whether it succeeded. -/
def reconcileOnce (env : Config.Environment) (folder : Files.Folder) (config : Option String)
    (key : ObjectKey) : Console Unit := do
  let settings ← loadSettings terminal env folder config
  let client ← openCluster terminal settings
  let ending ← closing client (do
    let sync ← setUp settings client
    act (Sync.reconcile sync key).run)
  let found ← result (fun e => throw (.crash (.controller (Controller.escapeOf e)))) ending
  Console.print terminal (.table (report key found))
  if !found.outcome.succeeded then exit 1

/-- Run the controller until it is asked to stop. -/
def runController (c : Controller.Settings) : Act (Except Cluster.Escape Unit) := do
  let (ending, _) ← (Controller.run c).run.run .empty
  return ending

/-- What the end of the controller by an error leads to. -/
def endController : Cluster.Escape → Console Unit
  | .cluster e => failCluster terminal e
  | e => throw (.crash (.controller e))

/-- Run the operator until it is asked to stop. -/
def runOperator (env : Config.Environment) (folder : Files.Folder) (config ns : Option String)
    (watchTimeout : Option Int) : Console Unit := do
  let settings ← loadSettings terminal env folder config
  let cluster := { settings.cluster with ns := (Subject.part ns).or settings.cluster.ns }
  let settings := { settings with cluster := cluster }
  act (Act.log .info "operator_starting" [
    ("refresh_interval", .int settings.refreshInterval),
    ("api_url", .str settings.vault.apiUrl),
    ("identity_api_url", .str settings.vault.identityUrl),
    ("state_path", .str settings.vault.statePath)])
  let client ← openCluster terminal settings
  let ending ← closing client (do
    let sync ← setUp settings client
    act (modify (fun w => { w with stopAnnounced := true }))
    say terminal ("[green]Syncing BitwardenSecrets[/green] in " ++
      (Subject.part cluster.ns).getD "all namespaces" ++ " every " ++
      toString settings.refreshInterval ++ "s")
    act (runController ⟨client.access, cluster.ns,
      watchTimeout.getD Controller.defaultWatchTimeout, cluster.retryAttempts.toNat,
      Sync.reconcile sync⟩))
  result (endController terminal) ending

/-- Execute a command. -/
def Command.execute (env : Config.Environment) (folder : Files.Folder) : Command → Console Unit
  | .run config ns watchTimeout => runOperator terminal env folder config ns watchTimeout
  | .reconcile config ns name => reconcileOnce terminal env folder config ⟨ns, name⟩

/-- What a command line that leads to no command leads to. -/
def refused (logging : Option Logging.Options) : Refusal → Outcome
  | .help => ⟨[], logging, .exit 0⟩
  | .version => ⟨[.text ("bw-secrets-operator version " ++ version)], logging, .exit 0⟩
  | .usage _ => ⟨[], logging, .exit 2⟩
  | .embeddedNul => ⟨[], logging, .crash .embeddedNul⟩

/-- Execute a command line. -/
def execute (env : Config.Environment) (folder : Files.Folder) (args : List String) :
    Act Outcome := do
  match readGroup env args with
  | .error refusal => return refused none refusal
  | .ok (logging, name, rest) =>
    match readCommand folder name rest with
    | .error refusal => return refused (some logging) refusal
    | .ok command =>
      let (ending, printed) ← (command.execute terminal env folder).run.run []
      return match ending with
        | .ok () => ⟨printed, some logging, .exit 0⟩
        | .error ending => ⟨printed, some logging, ending⟩

end SecretSync.Cli
