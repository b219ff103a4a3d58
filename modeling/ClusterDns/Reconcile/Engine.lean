import ClusterDns.Reconcile.Metadata

/-! One reconcile. An object that takes part gets the finalizer first, then a record with its target
address for each hostname it asks for; records of hostnames it no longer asks for go, and the
hostnames it has now are written down on it. An object that is being deleted or takes part no more
loses the records of the hostnames written down, and only then the finalizer. -/

namespace ClusterDns.Reconcile

open Cluster (Object Kind)
open PiHole (Record)

/-- The address of each name. -/
abbrev Bindings := List (String × String)

namespace Bindings

/-- The first record of a name counts: it is the one a deletion would find. -/
def ofRecords (records : List Record) : Bindings := records.map fun r => (r.domain, r.address)

def get? (bindings : Bindings) (domain : String) : Option String := bindings.lookup domain

def set (bindings : Bindings) (domain address : String) : Bindings := (domain, address) :: bindings

end Bindings

/-- Says and counts what a binding has changed. -/
def noteBound (subject : Subject) (record : Record) : Option String → Action Unit
  | some previous => do
    note subject (.recordUpdated record previous)
    count (.records subject.kind.name "updated")
  | none => do
    note subject (.recordCreated record)
    count (.records subject.kind.name "created")

/-- Binds each host to the target, but for those that are bound to it already. -/
def bindHosts (subject : Subject) (target : String) : List String → Bindings → Action Unit
  | [], _ => pure ()
  | host :: rest, bindings =>
    let bound := bindings.get? host
    if bound = some target then bindHosts subject target rest bindings
    else do
      onStore .create (PiHole.Store.rebind ⟨host, target⟩ bound)
      noteBound subject ⟨host, target⟩ bound
      bindHosts subject target rest (bindings.set host target)

def syncHosts (subject : Subject) (target : String) (hosts : List String) : Action Unit := do
  let records ← onStore .list PiHole.Store.list
  bindHosts subject target hosts (.ofRecords records)

def deleteHost (subject : Subject) (host : String) : Action Unit := do
  onStore .delete (PiHole.Store.delete host)
  note subject (.recordDeleted host)
  count (.records subject.kind.name "deleted")

def deleteHosts (subject : Subject) : List String → Action Unit
  | [] => pure ()
  | host :: rest => do
    deleteHost subject host
    deleteHosts subject rest

/-- Deletes the records written down on an object, then lets go of it. -/
def cleanup (kind : Kind) (object : Object) : Action Unit := do
  deleteHosts ⟨kind, object.ref⟩ (Annotations.managed object.annotations)
  removeFinalizer kind object cleanupFinalizer [Key.managedHosts]

/-- Lets go of an object that is held. -/
def release (subject : Subject) (reason : Event) (object : Object) : Action Unit := do
  if object.hasFinalizer cleanupFinalizer then
    note subject reason
    cleanup subject.kind object

/-- The hostnames an object asks for, each once. -/
def desiredHosts (object : Object) : List String :=
  distinct (Annotations.hosts object.annotations object.declaredHosts)

/-- Makes the records of an object that takes part what it asks for. -/
def serve (subject : Subject) (defaultTarget : String) (object : Object) : Action Unit := do
  let annotations : Annotations := object.annotations
  let hosts := desiredHosts object
  if hosts.isEmpty then note subject .noHosts
  else
    match annotations.target? defaultTarget with
    | none =>
      note subject (.invalidTarget Key.targetIp
        ((annotations.get? Key.targetIp).getD ""))
    | some target =>
      syncHosts subject target hosts
      deleteHosts subject (annotations.managed.filter (!hosts.contains ·))
      (writeManaged subject hosts).rephrase .managedHosts
      note subject (.reconciled hosts.length)

def reconcile (subject : Subject) (defaultTarget : String) : Action Unit := do
  match ← fetch subject.ref with
  | none => note subject .objectMissing
  | some object =>
    if object.isBeingDeleted then release subject .objectDeleted object
    else if !Annotations.isRegistered object.annotations then
      release subject .registrationRemoved object
    else
      match ← ensureFinalizer subject.kind object cleanupFinalizer with
      | none => pure ()
      | some held => serve subject defaultTarget held

end ClusterDns.Reconcile
