import ClusterDns.Cluster.Api
import ClusterDns.Json.MergePatch
import ClusterDns.Rehearsal.Schedule
import ClusterDns.Text.Split

/-! A model of the API server. Every write gives an object a fresh version; a patch that names a
version other than the stored one is refused; an object that is being deleted goes with its last
finalizer. -/

namespace ClusterDns.Rehearsal

open Cluster (ObjectRef ApiRequest ApiAnswer)

structure ApiServer where
  /-- How many writes there have been. -/
  writes : Nat := 0
  objects : List (ObjectRef × Json) := []
  /-- The version each write gives, by its number. -/
  version : Nat → String := toString

/-- A change by somebody else. -/
inductive Edit where
  | put (manifest : Json)
  | remove (ref : ObjectRef)
  | merge (ref : ObjectRef) (patch : Json)

namespace ApiServer

def find? (server : ApiServer) (ref : ObjectRef) : Option Json := server.objects.lookup ref

def replace : List (ObjectRef × Json) → ObjectRef → Json → List (ObjectRef × Json)
  | [], ref, json => [(ref, json)]
  | (r, j) :: rest, ref, json =>
    if r = ref then (ref, json) :: rest else (r, j) :: replace rest ref json

def remove (server : ApiServer) (ref : ObjectRef) : ApiServer :=
  { server with objects := server.objects.filter (·.1 ≠ ref) }

/-- An object under a version. -/
def stamped (version : String) (manifest : Json) : Json :=
  manifest.mergePatch
    (.object [("metadata", .object [("resourceVersion", .string version)])])

/-- Stores an object under the next version. -/
def write (server : ApiServer) (ref : ObjectRef) (manifest : Json) : Json × ApiServer :=
  let written := stamped (server.version (server.writes + 1)) manifest
  (written, { server with
    writes := server.writes + 1
    objects := replace server.objects ref written })

def refOf (manifest : Json) : ObjectRef :=
  let metadata := Cluster.Manifest.metadata manifest
  ⟨(metadata.get "namespace").string?.getD "default", (metadata.get "name").string?.getD "web"⟩

def edit (server : ApiServer) : Edit → ApiServer
  | .put manifest => (server.write (refOf manifest) manifest).2
  | .remove ref => server.remove ref
  | .merge ref patch =>
    match server.find? ref with
    | none => server
    | some stored => (server.write ref (stored.mergePatch patch)).2

/-- The namespace and name a path asks for. -/
def requested (uri : String) : ObjectRef :=
  let segments := Text.splitOn (· == '/') (uri.toList.takeWhile (· != '?'))
  let afterNamespaces := (segments.dropWhile (· ≠ "namespaces".toList)).drop 1
  ⟨String.ofList (afterNamespaces.head?.getD []), String.ofList (segments.getLast?.getD [])⟩

def failure (code : Nat) (reason message : String) : ApiAnswer where
  status := code
  body := .json (.object [
    ("apiVersion", .string "v1"), ("kind", .string "Status"), ("status", .string "Failure"),
    ("message", .string message), ("reason", .string reason), ("code", .ofNat code)])

def notFound (ref : ObjectRef) : ApiAnswer := failure 404 "NotFound" s!"{ref.name} not found"

def hasNoFinalizer (manifest : Json) : Bool :=
  (((Cluster.Manifest.metadata manifest).get "finalizers").items?.getD []).isEmpty

/-- The version a patch names, if it is not the stored one. -/
def staleVersion? (stored patch : Json) : Option String :=
  (Cluster.Manifest.resourceVersion? patch).filter fun sent =>
    Cluster.Manifest.resourceVersion? stored ≠ some sent

/-- What comes of a patch. -/
inductive Patched where
  | missing
  /-- The patch names another version than the stored one. -/
  | stale (sent : String)
  | written (manifest : Json)

def applyPatch (server : ApiServer) (ref : ObjectRef) (patch : Json) : Patched × ApiServer :=
  match server.find? ref with
  | none => (.missing, server)
  | some stored =>
    match staleVersion? stored patch with
    | some sent => (.stale sent, server)
    | none =>
      let (written, server) := server.write ref (stored.mergePatch patch)
      let server :=
        if Cluster.Manifest.isBeingDeleted written && hasNoFinalizer written then server.remove ref
        else server
      (.written written, server)

def staleMessage (sent : String) : String := s!"resourceVersion {sent} is stale"

def patchObject (server : ApiServer) (ref : ObjectRef) (patch : Json) : ApiAnswer × ApiServer :=
  let (outcome, server) := server.applyPatch ref patch
  match outcome with
  | .missing => (notFound ref, server)
  | .stale sent => (failure 409 "Conflict" (staleMessage sent), server)
  | .written manifest => (⟨200, .json manifest⟩, server)

def handle (server : ApiServer) (request : ApiRequest) : ApiAnswer × ApiServer :=
  let ref := requested request.uri
  match request.verb with
  | .get =>
    match server.find? ref with
    | none => (notFound ref, server)
    | some stored => (⟨200, .json stored⟩, server)
  | .patch body => server.patchObject ref body

end ApiServer

/-- What may happen to a request on its way. -/
inductive Disturbance where
  /-- Others change objects before the request is handled. -/
  | edits (edits : List Edit)
  | noAnswer
  /-- Somebody answers in the server's place. -/
  | answered (answer : ApiAnswer)

/-- The server with the disturbances to come and the requests it has seen, the last one first. -/
structure ApiStage where
  server : ApiServer := {}
  schedule : Schedule String Disturbance := {}
  requests : List ApiRequest := []

namespace ApiStage

def send (request : ApiRequest) (stage : ApiStage) : Option ApiAnswer × ApiStage :=
  let (effect, schedule) := stage.schedule.meet request.verb.name
  let stage := { stage with schedule, requests := request :: stage.requests }
  match effect with
  | some .noAnswer => (none, stage)
  | some (.answered answer) => (some answer, stage)
  | some (.edits edits) =>
    let (answer, server) := (edits.foldl ApiServer.edit stage.server).handle request
    (some answer, { stage with server })
  | none =>
    let (answer, server) := stage.server.handle request
    (some answer, { stage with server })

/-- Runs over a stage and a journal, the last entry of which comes first. -/
def answer : Program.Surroundings Cluster.ApiInterface (ApiStage × List Journal.Entry)
  | .send request, (stage, journal) =>
    let (reply, stage) := stage.send request
    (reply, (stage, journal))
  | .note entry, (stage, journal) => ((), (stage, entry :: journal))

end ApiStage

end ClusterDns.Rehearsal
