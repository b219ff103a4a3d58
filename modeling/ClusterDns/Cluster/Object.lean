import ClusterDns.Cluster.Schema

/-! Routing objects as they are read: what they say about themselves, and the hostnames their
specification declares. -/

namespace ClusterDns.Cluster

/-- Where an object is kept. -/
structure ObjectRef where
  namespaceName : String
  name : String
  deriving DecidableEq

structure Object where
  name? : Option String
  namespaceName? : Option String
  annotations? : Option (List (String × String))
  finalizers? : Option (List String)
  resourceVersion? : Option String
  isBeingDeleted : Bool
  /-- The hostnames of the specification, in order and as they stand there. -/
  hostnames? : Option (List String)

namespace Object

def annotations (object : Object) : List (String × String) := object.annotations?.getD []

def finalizers (object : Object) : List String := object.finalizers?.getD []

def ref (object : Object) : ObjectRef := ⟨object.namespaceName?.getD "", object.name?.getD ""⟩

/-- The hostnames the object declares; empty ones do not count. -/
def declaredHosts (object : Object) : List String := (object.hostnames?.getD []).filter (· ≠ "")

def hasFinalizer (object : Object) (finalizer : String) : Bool :=
  object.finalizers.contains finalizer

end Object

namespace Manifest

def texts (json : Json) : Option (List String) :=
  json.items?.map (List.filterMap Json.string?)

def textMap : Json → Option (List (String × String))
  | .object members => some (members.filterMap fun (name, value) => value.string?.map (name, ·))
  | _ => none

def metadata (manifest : Json) : Json := manifest.get "metadata"

def annotations? (manifest : Json) : Option (List (String × String)) :=
  textMap ((metadata manifest).get "annotations")

def finalizers? (manifest : Json) : Option (List String) :=
  texts ((metadata manifest).get "finalizers")

def resourceVersion? (manifest : Json) : Option String :=
  ((metadata manifest).get "resourceVersion").string?

def isBeingDeleted (manifest : Json) : Bool :=
  !((metadata manifest).get "deletionTimestamp").isNull

/-- The hosts of the rules that name one. -/
def ruleHosts? (spec : Json) : Option (List String) :=
  (spec.get "rules").items?.map (List.filterMap fun rule => (rule.get "host").string?)

def hostnames? (kind : Kind) (manifest : Json) : Option (List String) :=
  match kind with
  | .ingress => ruleHosts? (manifest.get "spec")
  | .httpRoute | .grpcRoute | .tlsRoute => texts ((manifest.get "spec").get "hostnames")
  | .tcpRoute => none

def view (kind : Kind) (manifest : Json) : Object where
  name? := ((metadata manifest).get "name").string?.or
    ((metadata manifest).get "generateName").string?
  namespaceName? := ((metadata manifest).get "namespace").string?
  annotations? := annotations? manifest
  finalizers? := finalizers? manifest
  resourceVersion? := resourceVersion? manifest
  isBeingDeleted := isBeingDeleted manifest
  hostnames? := hostnames? kind manifest

/-- A value written by names, where a list gives the values of the names in order. -/
def byName (names : List String) : Json → Json
  | .array items => if items.length ≤ names.length then .object (names.zip items) else .null
  | json => json

/-- Lets a gateway route and its specification be written as lists of their fields. -/
def spelledOut : Kind → Json → Json
  | .ingress, manifest => manifest
  | kind, manifest =>
    let specNames := if kind = .tcpRoute then [] else ["hostnames"]
    match byName ["metadata", "spec"] manifest with
    | .object members =>
      match Json.Members.get? members "spec" with
      | some spec => .object (Json.Members.set members "spec" (byName specNames spec))
      | none => .object members
    | json => json

/-- A gateway route has metadata and a specification; an ingress may lack either. -/
def isComplete (kind : Kind) (manifest : Json) : Bool :=
  kind = .ingress || ((manifest.get? "metadata").isSome && (manifest.get? "spec").isSome)

/-- Reads an object of a kind, or refuses what is no such object. -/
def read? (kind : Kind) (manifest : Json) : Option Object :=
  let manifest := spelledOut kind manifest
  if (Schema.ofKind kind).accepts manifest && isComplete kind manifest
  then some (view kind manifest) else none

end Manifest

end ClusterDns.Cluster
