import ClusterDns.PiHole.Error
import ClusterDns.PiHole.Record
import ClusterDns.Program

/-! What a keeper of DNS records is asked: to list them, to add one, and to remove the one of a
name. There is no request that changes a record, so a change is a removal and an addition. -/

namespace ClusterDns.PiHole

inductive StoreRequest where
  | list
  | create (record : Record)
  | delete (domain : String)

abbrev StoreRequest.Answer : StoreRequest → Type
  | list => Except Error (List Record)
  | create _ => Except Error Unit
  | delete _ => Except Error Unit

def Store : Interface := ⟨StoreRequest, StoreRequest.Answer⟩

namespace Store

def ask (q : StoreRequest) : Program Store q.Answer := .ask (I := Store) q .done

def list : Attempt Store Error (List Record) := .ofAnswer (ask .list)

def create (record : Record) : Attempt Store Error Unit := .ofAnswer (ask (.create record))

def delete (domain : String) : Attempt Store Error Unit := .ofAnswer (ask (.delete domain))

/-- Binds a name to an address, given the address it has now. -/
def rebind (record : Record) : Option String → Attempt Store Error Unit
  | none => create record
  | some address =>
    if address = record.address then pure ()
    else do
      delete record.domain
      create record

end Store

end ClusterDns.PiHole
