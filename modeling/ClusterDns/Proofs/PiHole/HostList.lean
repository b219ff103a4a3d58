import ClusterDns.PiHole.Client

/-! The client request by request. Sessions aside, it asks three things of a Pi-hole: the entries of
its list of hosts, to add an entry, and to remove one. Listing records or making one takes a single
request; deleting one takes two, and others may come in between. -/

namespace ClusterDns

instance {I : Interface} : LawfulMonad (Program I) :=
  LawfulMonad.mk' (Program I) (fun p => Program.bind_done p) (fun _ _ => rfl)
    (fun p f g => Program.bind_assoc p f g)

namespace PiHole

inductive HostListRequest where
  | entries
  | add (entry : String)
  | remove (entry : String)
  | note (entry : Journal.Entry)

abbrev HostListRequest.Answer : HostListRequest → Type
  | entries => Except Error (List String)
  | add _ => Except Error Unit
  | remove _ => Except Error Unit
  | note _ => Unit

def HostList : Interface := ⟨HostListRequest, HostListRequest.Answer⟩

namespace HostList

abbrev Work (α : Type) := Attempt HostList Error α

def ask (q : HostListRequest) : Program HostList q.Answer := .ask (I := HostList) q .done

def list : Work (List Record) := do
  let entries ← Attempt.ofAnswer (ask .entries)
  return entries.filterMap Record.ofEntry?

def create (record : Record) : Work Unit := .ofAnswer (ask (.add record.toEntry))

/-- The end of a deletion, once it is known which record there is. -/
def remove (domain : String) : Option Record → Work Unit
  | none =>
    ExceptT.lift
      (ask (.note ⟨.debug, "No Pi-hole record to delete", [("domain", .text domain)]⟩))
  | some record => .ofAnswer (ask (.remove record.toEntry))

def delete (domain : String) : Work Unit := do
  let records ← list
  remove domain (records.find? (·.domain = domain))

/-- Serves as a keeper of DNS records. -/
def keeper : (q : StoreRequest) → Program HostList q.Answer
  | .list => list.run
  | .create record => (create record).run
  | .delete domain => (delete domain).run

end HostList

namespace Client

open HostList

/-- The client's requests, each with the session that is kept or with a new one. -/
def perform (endpoint : Endpoint) : (q : HostListRequest) → Program Wire q.Answer
  | .entries => ExceptT.run do
    let received ← sendWithSession endpoint .get endpoint.hostsUrl
    if received.response.status = 200 then
      match Answer.hosts? received.response.body with
      | some entries => return entries
      | none => throw (unreadable endpoint.hostsUrl received)
    else throw (apiError received.response)
  | .add entry => ExceptT.run do
    let received ← sendWithSession endpoint .put (endpoint.entryUrl entry)
    unless [200, 201, 204].contains received.response.status do throw (apiError received.response)
  | .remove entry => ExceptT.run do
    let received ← sendWithSession endpoint .delete (endpoint.entryUrl entry)
    unless [200, 204, 404].contains received.response.status do throw (apiError received.response)
  | .note entry => Wire.ask (.note entry)

variable {α β : Type}

/-- An attempt with other questions in place of its own. -/
def carriedOut (endpoint : Endpoint) (x : Work α) : Talk α :=
  ExceptT.mk (x.run.substitute (perform endpoint))

theorem carriedOut_bind (endpoint : Endpoint) (x : Work α) (f : α → Work β) :
    carriedOut endpoint (x >>= f) =
      carriedOut endpoint x >>= fun a => carriedOut endpoint (f a) := by
  show ExceptT.mk _ = ExceptT.mk _
  congr 1
  refine (Program.substitute_bind _ _ _).trans (congrArg _ ?_)
  funext r
  cases r <;> rfl

theorem carriedOut_list (endpoint : Endpoint) :
    carriedOut endpoint HostList.list = list endpoint := by
  have hentries : carriedOut endpoint (.ofAnswer (ask .entries)) =
      ExceptT.mk (perform endpoint .entries) := Program.bind_done _
  rw [HostList.list, carriedOut_bind, hentries, list]
  refine (bind_assoc _ _ _).trans ?_
  congr 1
  funext received
  by_cases hstatus : received.response.status = 200
  · simp only [hstatus, if_true]
    cases Answer.hosts? received.response.body <;> rfl
  · simp only [hstatus, if_false]
    rfl

/-- The client is a keeper of records that makes these requests. -/
theorem keeper_eq (endpoint : Endpoint) (q : StoreRequest) :
    keeper endpoint q = (HostList.keeper q).substitute (perform endpoint) := by
  cases q with
  | list => exact (carriedOut_list endpoint).symm
  | create record => exact (Program.bind_done _).symm
  | delete domain =>
    have hdelete : carriedOut endpoint (HostList.delete domain) = delete endpoint domain := by
      rw [HostList.delete, carriedOut_bind, carriedOut_list, delete]
      congr 1
      funext records
      cases records.find? (·.domain = domain) with
      | none => rfl
      | some record => exact Program.bind_done _
    exact hdelete.symm

end Client

end PiHole

end ClusterDns
