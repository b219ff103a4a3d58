import ClusterDns.Cluster.Object
import ClusterDns.Journal
import ClusterDns.PiHole.Record

/-! What a reconcile has to say about its progress. -/

namespace ClusterDns.Reconcile

/-- The object a reconcile is about. -/
structure Subject where
  kind : Cluster.Kind
  ref : Cluster.ObjectRef
  deriving DecidableEq

def Subject.fields (subject : Subject) : List (String × Journal.Value) :=
  [("kind", .text subject.kind.name), ("namespace", .text subject.ref.namespaceName),
    ("name", .text subject.ref.name)]

inductive Event where
  | objectMissing
  | objectDeleted
  | registrationRemoved
  | addingFinalizer (finalizer : String)
  | removingFinalizer (finalizer : String)
  | noHosts
  | invalidTarget (key value : String)
  | recordCreated (record : PiHole.Record)
  | recordUpdated (record : PiHole.Record) (previous : String)
  | recordDeleted (host : String)
  | objectVanished
  | reconciled (hosts : Nat)

namespace Event

def level : Event → Journal.Level
  | objectMissing | objectVanished | reconciled _ => .debug
  | noHosts | invalidTarget .. => .warn
  | _ => .info

def message : Event → String
  | objectMissing => "Object not found, nothing to do"
  | objectDeleted => "Object deleted, cleaning up DNS records"
  | registrationRemoved => "Registration removed, cleaning up DNS records"
  | addingFinalizer _ => "Adding finalizer"
  | removingFinalizer _ => "Removing finalizer"
  | noHosts => "skipped (no hosts)"
  | invalidTarget .. => "invalid annotation"
  | recordCreated _ => "dns record created"
  | recordUpdated .. => "dns record updated"
  | recordDeleted _ => "dns record deleted"
  | objectVanished => "Object vanished before managed hosts write"
  | reconciled _ => "Reconciled DNS records"

def fields : Event → List (String × Journal.Value)
  | addingFinalizer finalizer | removingFinalizer finalizer => [("finalizer", .text finalizer)]
  | invalidTarget key value => [("annotation", .text key), ("value", .text value)]
  | recordCreated record => [("host", .text record.domain), ("ip", .text record.address)]
  | recordUpdated record previous =>
    [("host", .text record.domain), ("ip", .text record.address),
      ("previous_ip", .text previous)]
  | recordDeleted host => [("host", .text host)]
  | reconciled hosts => [("hosts", .number hosts)]
  | _ => []

def entry (event : Event) (subject : Subject) : Journal.Entry :=
  ⟨event.level, event.message, subject.fields ++ event.fields⟩

end Event

end ClusterDns.Reconcile
