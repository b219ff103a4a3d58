import ClusterDns.Metrics.Registry
import ClusterDns.PiHole.Store
import ClusterDns.Reconcile.Error
import ClusterDns.Reconcile.Event

/-! What a reconcile may ask of its surroundings: to fetch or patch an object, to list or change DNS
records, and to take note of what happened. -/

namespace ClusterDns.Reconcile

inductive Request where
  | fetch (ref : Cluster.ObjectRef)
  | patch (ref : Cluster.ObjectRef) (body : Json)
  | dns (request : PiHole.StoreRequest)
  | note (entry : Journal.Entry)
  | count (series : Metrics.Series)

abbrev Request.Answer : Request → Type
  | fetch _ => Except Error (Option Cluster.Object)
  | patch .. => Except Error (Option Cluster.Object)
  | dns request => request.Answer
  | note _ => Unit
  | count _ => Unit

def Surroundings : Interface := ⟨Request, Request.Answer⟩

abbrev Action (α : Type) := Attempt Surroundings Error α

def ask (q : Request) : Program Surroundings q.Answer := .ask (I := Surroundings) q .done

def fetch (ref : Cluster.ObjectRef) : Action (Option Cluster.Object) := .ofAnswer (ask (.fetch ref))

def patch (ref : Cluster.ObjectRef) (body : Json) : Action (Option Cluster.Object) :=
  .ofAnswer (ask (.patch ref body))

def note (subject : Subject) (event : Event) : Action Unit :=
  ExceptT.lift (ask (.note (event.entry subject)))

def count (series : Metrics.Series) : Action Unit := ExceptT.lift (ask (.count series))

/-- Works on the DNS store, and tells an error by the step it ends. -/
def onStore {α : Type} (step : StoreStep) (work : Attempt PiHole.Store PiHole.Error α) : Action α :=
  Attempt.rephrase (.store step)
    (ExceptT.mk (work.run.substitute fun q => ask (.dns q)))

end ClusterDns.Reconcile
