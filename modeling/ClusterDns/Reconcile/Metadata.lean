import ClusterDns.Reconcile.Desired
import ClusterDns.Reconcile.Surroundings

/-! Changes to an object's own account: the finalizer that holds it until its records are gone, and
the hostnames it was given records for. Every patch names the version it was made from, so a change
by another hand in between is refused instead of overwritten. -/

namespace ClusterDns.Reconcile

open Cluster (Object)

/-- The finalizer under which records are removed before their object goes. -/
def cleanupFinalizer : String := "pihole.io/dns-cleanup"

/-- A patch of the metadata of one version. -/
def metadataPatch (object : Object) (members : Json.Members) : Json :=
  .object [("metadata",
    .object (("resourceVersion", .ofOption .string object.resourceVersion?) :: members))]

def finalizersMember (finalizers : List String) : String × Json :=
  ("finalizers", .array (finalizers.map .string))

/-- Makes sure an object has a finalizer. The answer is the object as it is then, or nothing if it
is gone. -/
def ensureFinalizer (kind : Cluster.Kind) (object : Object) (finalizer : String) :
    Action (Option Object) := do
  if object.hasFinalizer finalizer then return some object
  note ⟨kind, object.ref⟩ (.addingFinalizer finalizer)
  patch object.ref (metadataPatch object [finalizersMember (object.finalizers ++ [finalizer])])

/-- Takes a finalizer away, and annotations with it. -/
def removeFinalizer (kind : Cluster.Kind) (object : Object) (finalizer : String)
    (dropped : List String) : Action Unit := do
  if object.hasFinalizer finalizer then
    note ⟨kind, object.ref⟩ (.removingFinalizer finalizer)
    let cleared := if dropped.isEmpty then []
      else [("annotations", Json.object ((distinct dropped).map (·, .null)))]
    let _ ← patch object.ref (metadataPatch object
      (finalizersMember (object.finalizers.filter (· ≠ finalizer)) :: cleared))

/-- The annotation that records hostnames as managed; no hostname, no annotation. -/
def managedText? (hosts : List String) : Option String :=
  if hosts.isEmpty then none else some (Text.CommaList.render hosts)

/-- Records hostnames as managed on the object as it is now. -/
def writeManaged (subject : Subject) (hosts : List String) : Action Unit := do
  match ← fetch subject.ref with
  | none => note subject .objectVanished
  | some latest =>
    let annotations : Annotations := latest.annotations
    if annotations.get? Key.managedHosts ≠ managedText? hosts then
      let _ ← patch subject.ref (metadataPatch latest
        [("annotations",
          .object [(Key.managedHosts, .ofOption .string (managedText? hosts))])])

end ClusterDns.Reconcile
