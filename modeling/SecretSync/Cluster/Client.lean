import SecretSync.Cluster.Secrets
import SecretSync.Config.Basic

/-!
# The client of the cluster

A client is built with the credentials of a file or, if those cannot be loaded, with those of
the cluster it runs in.  It opens its handles on first use and drops them when it is closed.
-/

namespace SecretSync.Cluster

/-- A handle on a part of the cluster's interface. -/
inductive Handle where
  | secrets
  | declarations
  deriving DecidableEq, Repr

/-- A client of the cluster. -/
structure Client where
  settings : Config.ClusterSettings
  /-- Which credentials are in use. -/
  context : String
  /-- The handles that are open. -/
  handles : List Handle
  deriving DecidableEq, Repr

namespace Client

/-- Neither sort of credentials can be loaded. -/
def noCredentials (cause : String) : ClusterError :=
  .unreachable ("Cannot load Kubernetes configuration. " ++
    "Ensure kubeconfig exists or running inside a cluster.") (some cause)

/-- Load credentials; the name of what they come from. -/
def loadCredentials (settings : Config.ClusterSettings) : ExceptT ClusterError Act String := do
  Act.note (.loadKubeconfig settings.kubeconfig settings.context)
  match (← get).kubeconfigFailure with
  | none =>
    Act.log .debug "loaded_kubeconfig" [("context", Json.ofText? settings.context),
      ("kubeconfig", Json.ofText? settings.kubeconfig)]
    return (Subject.part settings.context).getD "current-context"
  | some _ =>
    Act.note .loadInCluster
    match (← get).inClusterFailure with
    | none =>
      Act.log .debug "loaded_incluster_config" []
      return "in-cluster"
    | some cause => throw (noCredentials cause)

/-- Build a client. -/
def build (settings : Config.ClusterSettings) : ExceptT ClusterError Act Client := do
  let context ← loadCredentials settings
  Act.log .info "Kubernetes client initialized"
    [("context", .str context), ("watch_namespace", .str ((Subject.part settings.ns).getD "*"))]
  return ⟨settings, context, []⟩

/-- Open a handle, unless it is open. -/
def use (handle : Handle) (c : Client) : Client :=
  if c.handles.contains handle then c else { c with handles := c.handles ++ [handle] }

/-- Drop all handles. -/
def close (c : Client) : Act Client := do
  Act.log .debug "Kubernetes client closed" []
  return { c with handles := [] }

/-- How requests are made with a client. -/
def access (c : Client) : Access := ⟨c.settings.timeout⟩

end Client
end SecretSync.Cluster
