import ClusterDns.Cluster.Error
import ClusterDns.PiHole.Error

/-! Errors that end a reconcile. The delay before the next try and the label depend on the cause
alone, never on the text. -/

namespace ClusterDns.Reconcile

/-- The step of the DNS store a reconcile was in. A replacement counts as creation throughout. -/
inductive StoreStep where
  | list
  | create
  | delete
  deriving DecidableEq

def StoreStep.name : StoreStep → String
  | list => "list"
  | create => "create"
  | delete => "delete"

inductive Error where
  | store (step : StoreStep) (source : PiHole.Error)
  /-- The object changed after it was read. -/
  | conflict (message : String)
  /-- The records are right but the object could not be told so. -/
  | managedHosts (source : Error)
  | cluster (source : Cluster.Error)
  deriving DecidableEq

namespace Error

/-- The server reports a write against an old version by its code. -/
def conflictCode : Nat := 409

def ofCluster : Cluster.Error → Error
  | .refused status =>
    if status.code == conflictCode then conflict status.message else cluster (.refused status)
  | e => cluster e

def message : Error → String
  | store step source => s!"Pi-hole {step.name} failed: {source.message}"
  | conflict message => s!"object was modified concurrently: {message}"
  | managedHosts source => s!"failed to persist managed hosts: {source.message}"
  | cluster source => s!"Kubernetes API error: {source.message}"

/-- Seconds until the next try, or nothing where another try cannot help. -/
def retrySecs? : Error → Option Nat
  | store _ source => if source.isRetryable then some 30 else none
  | cluster _ => some 30
  | conflict _ => some 1
  | managedHosts _ => some 10

def isRetryable (e : Error) : Bool := e.retrySecs?.isSome

def label : Error → String
  | store _ source => source.label
  | conflict _ => "KubernetesConflict"
  | managedHosts _ => "ManagedHostsUpdateFailed"
  | cluster _ => "KubernetesApiError"

end Error

end ClusterDns.Reconcile
