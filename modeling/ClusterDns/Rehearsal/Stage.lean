import ClusterDns.Reconcile.Engine
import ClusterDns.Rehearsal.ApiServer
import ClusterDns.Rehearsal.RecordStore

/-! A stage on which reconciles run: a cluster, a keeper of DNS records of any kind, a journal and
counters. -/

namespace ClusterDns.Rehearsal

open Cluster (Kind)

/-- A keeper of DNS records that writes a journal of its own, the last entry first. -/
abbrev Keeper (δ : Type) :=
  (q : PiHole.StoreRequest) → δ × List Journal.Entry → q.Answer × (δ × List Journal.Entry)

def quietKeeper {δ : Type} (answer : Program.Surroundings PiHole.Store δ) : Keeper δ
  | q, (dns, journal) => ((answer q dns).1, ((answer q dns).2, journal))

structure Stage (δ : Type) where
  api : ApiStage := {}
  dns : δ
  /-- The entries so far, the last one first. -/
  journal : List Journal.Entry := []
  registry : Metrics.Registry := {}

namespace Stage

variable {δ : Type}

/-- Works on the API server in place of the object store. -/
def onApi {α : Type} (work : Program Cluster.ApiInterface (Except Cluster.Error α))
    (stage : Stage δ) : Except Reconcile.Error α × Stage δ :=
  let (reply, api, journal) := work.run ApiStage.answer (stage.api, stage.journal)
  (reply.mapError .ofCluster, { stage with api, journal })

def answer (kind : Kind) (keeper : Keeper δ) : Program.Surroundings Reconcile.Surroundings (Stage δ)
  | .fetch ref, stage => stage.onApi (Cluster.Api.get kind ref)
  | .patch ref body, stage => stage.onApi (Cluster.Api.patch kind ref body)
  | .dns q, stage =>
    let (reply, dns, journal) := keeper q (stage.dns, stage.journal)
    (reply, { stage with dns, journal })
  | .note entry, stage => ((), { stage with journal := entry :: stage.journal })
  | .count series, stage => ((), { stage with registry := stage.registry.increment series })

/-- Runs an action of the reconciler. -/
def perform {α : Type} (kind : Kind) (keeper : Keeper δ) (action : Reconcile.Action α)
    (stage : Stage δ) : Except Reconcile.Error α × Stage δ :=
  action.run.run (answer kind keeper) stage

end Stage

end ClusterDns.Rehearsal
