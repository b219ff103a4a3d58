import ClusterDns.Controller.Policy
import ClusterDns.Controller.Queue
import ClusterDns.Rehearsal.Stage

/-! A controller at work on a stage, on a clock that jumps from one thing to do to the next. Time is
in milliseconds, and a reconcile takes none. Delays are taken as they are, without their spread. -/

namespace ClusterDns.Rehearsal

open Cluster (Kind ObjectRef)
open Controller (Queue)

structure Controlled (δ : Type) where
  kind : Kind
  /-- The namespace that is watched, if not all are. -/
  watched : Option String := none
  defaultTarget : String
  keeper : Keeper δ
  stage : Stage δ
  /-- The objects the controller knows of. -/
  known : List ObjectRef := []
  queue : Queue ObjectRef := []
  now : Nat := 0

namespace Controlled

variable {δ : Type}

def isWatched (c : Controlled δ) (ref : ObjectRef) : Bool :=
  match c.watched with
  | some watched => ref.namespaceName == watched
  | none => true

def note (c : Controlled δ) (entry : Journal.Entry) : Controlled δ :=
  { c with stage := { c.stage with journal := entry :: c.stage.journal } }

def countWith (c : Controlled δ) (f : Metrics.Registry → Metrics.Registry) : Controlled δ :=
  { c with stage := { c.stage with registry := f c.stage.registry } }

/-- The requests a controller starts with: for what there is, and for what will change. -/
def opening (kind : Kind) (watched : Option String) : List Cluster.ApiRequest :=
  List.replicate 2 ⟨.get, kind.collectionPath watched⟩

/-- Learns of all objects that are watched, and has each of them reconciled. -/
def start (c : Controlled δ) : Controlled δ :=
  let c := c.note (Controller.started c.kind c.watched)
  let api := { c.stage.api with requests := opening c.kind c.watched ++ c.stage.api.requests }
  let known := (api.server.objects.map (·.1)).filter c.isWatched
  { c with
    stage := { c.stage with api }
    known
    queue := known.foldl (fun queue ref => queue.schedule ref c.now) c.queue }

/-- No time at all, to the nanosecond. -/
def noTime : Time.Duration := .ofSecs 0

/-- Reconciles an object, and has it tried again if it is worth it. -/
def attempt (c : Controlled δ) (ref : ObjectRef) : Controlled δ :=
  if !c.known.contains ref then c.note (Controller.attemptFailed c.kind)
  else
    let (outcome, stage) :=
      c.stage.perform c.kind c.keeper (Reconcile.reconcile ⟨c.kind, ref⟩ c.defaultTarget)
    let c := { c with stage }.countWith (Controller.account c.kind outcome noTime)
    match outcome with
    | .ok () => c
    | .error e =>
      let c := (c.note (Controller.failureEntry ⟨c.kind, ref⟩ e)).countWith
        (Controller.accountRetry c.kind e)
      let c := match e.retrySecs? with
        | some secs => { c with queue := c.queue.schedule ref (c.now + secs * 1000) }
        | none => c
      c.note (Controller.attemptFailed c.kind)

/-- Does what comes up, at most so many times. -/
def work (latest : Nat) : Nat → Controlled δ → Controlled δ
  | 0, c => c
  | turns + 1, c =>
    match c.queue.take? latest with
    | none => c
    | some ((ref, time), queue) => work latest turns (attempt { c with queue, now := time } ref)

/-- Lets time pass. Each object comes up once, and after that no more than once a second. -/
def advance (c : Controlled δ) (latest : Nat) : Controlled δ :=
  let c := work latest (c.queue.length * ((latest - c.now) / 1000 + 2)) c
  { c with now := latest }

/-- Has an object reconciled that has come up or changed, and forgets one that is gone. -/
def observe (c : Controlled δ) (ref : ObjectRef) : Controlled δ :=
  if !c.isWatched ref then c
  else
    match c.stage.api.server.find? ref with
    | some _ =>
      { c with
        known := if c.known.contains ref then c.known else c.known ++ [ref]
        queue := c.queue.schedule ref c.now }
    | none => { c with known := c.known.filter (· ≠ ref) }

/-- A change by somebody else, and what the controller makes of it. -/
def edit (c : Controlled δ) (edit : Edit) : Controlled δ :=
  let server := c.stage.api.server
  let api := { c.stage.api with server := server.edit edit }
  let c := { c with stage := { c.stage with api } }
  match edit with
  | .put manifest => c.observe (ApiServer.refOf manifest)
  | .remove ref => c.observe ref
  | .merge ref _ => if (server.find? ref).isSome then c.observe ref else c

def stop (c : Controlled δ) : Controlled δ := c.note (Controller.stopped c.kind)

end Controlled

end ClusterDns.Rehearsal
