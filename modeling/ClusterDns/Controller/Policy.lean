import ClusterDns.Metrics.Registry
import ClusterDns.Reconcile.Error
import ClusterDns.Reconcile.Event

/-! What follows a reconcile: it is counted, and one that failed is tried again after a while,
unless no try can help until the object changes. -/

namespace ClusterDns.Controller

open Reconcile (Error Subject)

/-- Counts a reconcile and its outcome, a failure also by its cause. -/
def account (kind : Cluster.Kind) (outcome : Except Error Unit) (duration : Time.Duration)
    (registry : Metrics.Registry) : Metrics.Registry :=
  match outcome with
  | .ok () => registry.reconciled kind.name .success duration
  | .error e =>
    (registry.reconciled kind.name .error duration).increment (.errors kind.name e.label)

/-- Counts what is to be tried again. -/
def accountRetry (kind : Cluster.Kind) (e : Error) (registry : Metrics.Registry) :
    Metrics.Registry :=
  if e.isRetryable then registry.increment (.requeues kind.name e.label) else registry

/-- What is said about a failure. The delay is drawn when the time comes and is not told. -/
def failureEntry (subject : Subject) (e : Error) : Journal.Entry :=
  let fields := subject.fields ++ [("error", .text e.message)]
  if e.isRetryable then ⟨.warn, "Reconciliation failed, will retry", fields⟩
  else ⟨.error, "non-retryable api error", fields⟩

/-- What is said after each attempt that comes to nothing, also to find the object. -/
def attemptFailed (kind : Cluster.Kind) : Journal.Entry :=
  ⟨.debug, "Controller event", [("kind", .text kind.name)]⟩

/-- What is said at the start: the kind and the namespace that is watched, if not all are. -/
def started (kind : Cluster.Kind) : Option String → Journal.Entry
  | some watched =>
    ⟨.info, "Starting controller", [("kind", .text kind.name), ("namespace", .text watched)]⟩
  | none => ⟨.info, "Starting controller for all namespaces", [("kind", .text kind.name)]⟩

def stopped (kind : Cluster.Kind) : Journal.Entry :=
  ⟨.info, "Controller stopped", [("kind", .text kind.name)]⟩

end ClusterDns.Controller
