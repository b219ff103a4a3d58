import ClusterDns.Reconcile.Engine
import ClusterDns.Rehearsal.ApiServer
import ClusterDns.Rehearsal.RecordStore

/-! A cluster and a keeper of DNS records with nothing between them and a reconcile but the calls
themselves. A call may fail in two ways: it never arrives, or its answer is lost on the way back. -/

namespace ClusterDns.Rehearsal

open Cluster (Kind Object ObjectRef Manifest.read?)
open PiHole (Record)
open Reconcile (Request Subject)

structure World where
  server : ApiServer := {}
  records : List Record := []

/-- A route to look at, and its manifest with some annotations and finalizers. -/
def route : Subject := ⟨.ingress, ⟨"default", "web"⟩⟩

def routeManifest (annotations : List (String × String)) (finalizers : List String) : Json :=
  .object [("metadata", .object [
    ("namespace", .string route.ref.namespaceName), ("name", .string route.ref.name),
    ("annotations", .object (annotations.map fun (key, text) => (key, .string text))),
    ("finalizers", .array (finalizers.map .string))])]

namespace World

/-- What a stored manifest is to those who ask for it as an object of a kind. -/
def read (kind : Kind) (manifest : Json) : Except Reconcile.Error (Option Object) :=
  match Manifest.read? kind manifest with
  | some object => .ok (some object)
  | none => .error (.cluster .unreadable)

def fetch (kind : Kind) (ref : ObjectRef) (world : World) :
    Except Reconcile.Error (Option Object) :=
  match world.server.find? ref with
  | none => .ok none
  | some stored => read kind stored

def patch (kind : Kind) (ref : ObjectRef) (body : Json) (world : World) :
    Except Reconcile.Error (Option Object) × World :=
  let (outcome, server) := world.server.applyPatch ref body
  (match outcome with
    | .missing => .ok none
    | .stale sent => .error (.conflict (ApiServer.staleMessage sent))
    | .written manifest => read kind manifest,
    { world with server })

/-- A cluster with one object in it, and a keeper of some records. -/
def holding (manifest : Json) (records : List Record) : World :=
  ⟨({} : ApiServer).edit (.put manifest), records⟩

/-- Answers every call, and takes no note of anything. -/
def answer (kind : Kind) : Program.Surroundings Reconcile.Surroundings World
  | .fetch ref, world => (world.fetch kind ref, world)
  | .patch ref body, world => world.patch kind ref body
  | .dns q, world =>
    let (reply, records) := RecordStage.perform q world.records
    (reply, { world with records })
  | .note _, world => ((), world)
  | .count _, world => ((), world)

end World

/-- What becomes of a call. -/
inductive Fate where
  | answered
  /-- It fails without any effect. -/
  | refused
  /-- It has its effect, but the caller is told that it failed. -/
  | lost
  deriving DecidableEq

/-- The answers that report a failure. Taking note of something cannot fail. -/
def IsFailure : (q : Request) → q.Answer → Prop
  | .fetch _, r => ∃ e, r = .error e
  | .patch .., r => ∃ e, r = .error e
  | .dns .list, r => ∃ e, r = .error e
  | .dns (.create _), r => ∃ e, r = .error e
  | .dns (.delete _), r => ∃ e, r = .error e
  | .note _, _ => False
  | .count _, _ => False

namespace World

/-- The ways a call may end, each with the answer and the world it leaves. -/
inductive Answers (kind : Kind) (world : World) (q : Request) : Fate → q.Answer → World → Prop
  | answered : Answers kind world q .answered (world.answer kind q).1 (world.answer kind q).2
  | refused {r : q.Answer} : IsFailure q r → Answers kind world q .refused r world
  | lost {r : q.Answer} : IsFailure q r → Answers kind world q .lost r (world.answer kind q).2

end World

end ClusterDns.Rehearsal
