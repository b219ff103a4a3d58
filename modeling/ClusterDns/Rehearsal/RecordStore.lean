import ClusterDns.PiHole.Store
import ClusterDns.Rehearsal.Schedule

/-! A model of a keeper of DNS records: a list to which additions append, and from which a deletion
takes the first record of a name. -/

namespace ClusterDns.Rehearsal

open PiHole (Record StoreRequest)

/-- Removes the first record of a name. -/
def removeFirst (domain : String) : List Record → List Record
  | [] => []
  | r :: rest => if r.domain = domain then rest else r :: removeFirst domain rest

structure RecordStage where
  records : List Record := []
  schedule : Schedule String PiHole.Error := {}
  /-- The calls so far, the last one first. -/
  calls : List StoreRequest := []

namespace RecordStage

def callName : StoreRequest → String
  | .list => "list"
  | .create _ => "create"
  | .delete _ => "delete"

/-- What a call does when nothing goes wrong. -/
def perform : (q : StoreRequest) → List Record → q.Answer × List Record
  | .list, records => (.ok records, records)
  | .create record, records => (.ok (), records ++ [record])
  | .delete domain, records => (.ok (), removeFirst domain records)

def refuse (e : PiHole.Error) : (q : StoreRequest) → q.Answer
  | .list => .error e
  | .create _ => .error e
  | .delete _ => .error e

/-- A call that fails has no effect. -/
def answer : Program.Surroundings PiHole.Store RecordStage
  | q, stage =>
    let (effect, schedule) := stage.schedule.meet (callName q)
    let stage := { stage with schedule, calls := q :: stage.calls }
    match effect with
    | some e => (refuse e q, stage)
    | none =>
      let (reply, records) := perform q stage.records
      (reply, { stage with records })

end RecordStage

end ClusterDns.Rehearsal
