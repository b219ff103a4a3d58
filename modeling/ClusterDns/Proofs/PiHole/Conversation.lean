import ClusterDns.Proofs.PiHole.Entries
import ClusterDns.Proofs.PiHole.EntryUrl
import ClusterDns.Proofs.PiHole.HostList
import ClusterDns.Proofs.PiHole.Session

/-! A client's calls, one after another. Each of them ends as it would if the client worked on the
list of hosts itself, with no sessions in between. -/

namespace ClusterDns.PiHole

open Rehearsal.PiHoleServer (failure)
open Url (IsDotted visibleText)

/-! ## Without sessions -/

/-- The error about an entry whose name is taken. -/
def refusal : Error :=
  .api 400 "\x7b\"error\":\x7b\"key\":\"bad_request\",\"message\":\"Item already present\"\x7d\x7d"

theorem apiError_taken :
    Client.apiError (failure 400 "bad_request" "Item already present") = refusal := by
  rw [apiError_failure, refusal]
  simp [Json.render, Json.renderMembers, Json.renderMember, Json.renderString, Json.escape]

/-- The list of hosts itself. -/
def HostList.answer : Program.Surroundings HostList (List String)
  | .entries, hosts => (.ok hosts, hosts)
  | .add entry, hosts =>
    if isTaken (visibleText entry) hosts then (.error refusal, hosts)
    else (.ok (), hosts ++ [visibleText entry])
  | .remove entry, hosts => (.ok (), hosts.erase (visibleText entry))
  | .note _, hosts => ((), hosts)

/-- A request that names no entry but by its own segment. -/
def HostListRequest.IsPlain : HostListRequest → Prop
  | .add entry | .remove entry => ¬ IsDotted entry
  | .entries | .note _ => True

theorem only_isPlain_remove (domain : String) (found : Option Record) :
    Contract.Only HostListRequest.IsPlain (HostList.remove domain found).run := by
  cases found with
  | none => exact ⟨trivial, fun r => trivial⟩
  | some record => exact ⟨not_isDotted_toEntry record, fun r => trivial⟩

/-- A keeper of records asks for plain entries only. -/
theorem only_isPlain (q : StoreRequest) :
    Contract.Only HostListRequest.IsPlain (HostList.keeper q) := by
  cases q with
  | list =>
    refine ⟨trivial, fun r => ?_⟩
    cases r <;> trivial
  | create record => exact ⟨not_isDotted_toEntry record, fun r => trivial⟩
  | delete domain =>
    refine ⟨trivial, fun r => ?_⟩
    cases r with
    | error e => trivial
    | ok entries => exact only_isPlain_remove domain _

/-! ## With sessions -/

variable {endpoint : Endpoint} {hosts : List String}

theorem secures_perform (h : endpoint.Reaches) {q : HostListRequest} (plain : q.IsPlain) {s : Side}
    (hs : Ready endpoint hosts s.1) : wire.Secures (Client.perform endpoint q)
      (fun r t => r = (HostList.answer q hosts).1 ∧
        Ready endpoint (HostList.answer q hosts).2 t.1) s := by
  cases q with
  | entries =>
    refine (delivers_sendWithSession h (isServed_hosts h) hs).secures ?_
    rintro received s ⟨hreceived, hs⟩
    have hstatus : received.response.status = 200 := by
      rw [hreceived, Rehearsal.Network.arrived_status]
      rfl
    have hread : Answer.hosts? received.response.body = some hosts := by
      rw [hreceived]
      exact hosts?_hostsAnswer { hosts }
    simp only [hstatus, hread, if_true]
    exact ⟨rfl, hs⟩
  | add entry =>
    refine (delivers_sendWithSession h (isServed_put h plain) hs).secures ?_
    rintro received s ⟨hreceived, hs⟩
    by_cases htaken : isTaken (visibleText entry) hosts = true
    · have hanswer : HostList.answer (.add entry) hosts = (.error refusal, hosts) := by
        simp [HostList.answer, htaken]
      simp only [htaken, if_true] at hreceived hs
      have hrefused : [200, 201, 204].contains received.response.status = false := by
        rw [hreceived]
        rfl
      have herror : Client.apiError received.response = refusal := by
        rw [hreceived, ← apiError_taken]
        rfl
      simp only [hrefused, herror, hanswer]
      exact ⟨rfl, hs⟩
    · have hanswer : HostList.answer (.add entry) hosts =
          (.ok (), hosts ++ [visibleText entry]) := by
        simp [HostList.answer, htaken]
      simp only [htaken] at hreceived hs
      have haccepted : [200, 201, 204].contains received.response.status = true := by
        rw [hreceived]
        rfl
      simp only [haccepted, hanswer]
      exact ⟨rfl, hs⟩
  | remove entry =>
    refine (delivers_sendWithSession h (isServed_delete h plain) hs).secures ?_
    rintro received s ⟨hreceived, hs⟩
    have hstatus : [200, 204, 404].contains received.response.status = true := by
      rw [hreceived]
      split <;> rfl
    simp only [hstatus]
    exact ⟨rfl, hs⟩
  | note entry => exact secures_ask fun _ ht => ⟨rfl, lasting_ready.drift ht hs⟩

/-! ## Calls -/

/-- What a client can be called for. -/
inductive Call where
  | list
  | create (record : Record)
  | delete (domain : String)
  /-- Binds a name to an address, given the address it is said to have now. -/
  | rebind (record : Record) (current : Option String)

/-- How a call ends: with an error or not, and a listing with its records. -/
abbrev Ending := Except Error (Option (List Record))

namespace Call

def work : Call → Attempt Store Error (Option (List Record))
  | list => do return some (← Store.list)
  | create record => do
    Store.create record
    return none
  | delete domain => do
    Store.delete domain
    return none
  | rebind record current => do
    Store.rebind record current
    return none

/-- The call as a client carries it out. -/
def program (endpoint : Endpoint) (call : Call) : Program Wire Ending :=
  call.work.run.substitute (Client.keeper endpoint)

/-- The list of hosts as a keeper of records that asks nobody. -/
def keepHosts : Program.Surroundings Store (List String) :=
  fun q hosts => (HostList.keeper q).run HostList.answer hosts

/-- The call as it ends on the list of hosts itself. -/
def outright (call : Call) (hosts : List String) : Ending × List String :=
  call.work.run.run keepHosts hosts

/-- How some calls end on the list of hosts itself, and the list after each of them. -/
def transcript : List Call → List String → List (Ending × List String)
  | [], _ => []
  | call :: rest, hosts => call.outright hosts :: transcript rest (call.outright hosts).2

end Call

/-- Calls of one client, one after another, with how each of them ends and the list of hosts after
it. Anything that may happen by itself happens before each step of the client. -/
inductive Conversation (endpoint : Endpoint) :
    Side → List Call → List (Ending × List String) → Side → Prop
  | done (s : Side) : Conversation endpoint s [] [] s
  | call {s t u : Side} {call : Call} {rest : List Call} {ending : Ending}
    {log : List (Ending × List String)} (ends : wire.Ends (call.program endpoint) s ending t)
    (further : Conversation endpoint t rest log u) :
    Conversation endpoint s (call :: rest) ((ending, t.1.network.responder.hosts) :: log) u

section

variable (h : endpoint.Reaches) {s : Side} (hs : Ready endpoint hosts s.1)

include hs

theorem Ready.hosts_eq : s.1.network.responder.hosts = hosts := by
  obtain ⟨server, hserves, -, rfl⟩ := hs.served
  exact hserves.hosts_eq

include h

theorem secures_keeper (q : StoreRequest) : wire.Secures (Client.keeper endpoint q)
    (fun r t => r = (Call.keepHosts q hosts).1 ∧
      Ready endpoint (Call.keepHosts q hosts).2 t.1) s := by
  rw [Client.keeper_eq]
  exact Contract.secures_simulated (R := fun (s : Side) hosts => Ready endpoint hosts s.1)
    (fun _ _ _ plain hs => secures_perform h plain hs) (only_isPlain q) hs

/-- Whatever happens on the way, a call ends as on the list of hosts itself. -/
theorem secures_call (call : Call) : wire.Secures (call.program endpoint)
    (fun ending t => ending = (call.outright hosts).1 ∧
      Ready endpoint (call.outright hosts).2 t.1) s :=
  Contract.secures_simulated (R := fun (s : Side) hosts => Ready endpoint hosts s.1)
    (fun q _ _ _ hs => secures_keeper h hs q) (Contract.only_of_forall (fun _ => trivial) _) hs

/-- There is always a way for the calls to go on. -/
theorem exists_conversation (calls : List Call) :
    ∃ last, Conversation endpoint s calls (Call.transcript calls hosts) last := by
  induction calls generalizing s hosts with
  | nil => exact ⟨s, .done s⟩
  | cons call rest ih =>
    have ends := Contract.ends_run (c := wire) (fun _ => ⟨.refl, rfl⟩) (fun _ _ => rfl)
      (call.program endpoint) s
    obtain ⟨hending, ht⟩ := (secures_call h hs call).ends (fun _ => trivial) ends
    obtain ⟨last, further⟩ := ih ht
    have hlog := Conversation.call ends further
    rw [ht.hosts_eq, hending] at hlog
    exact ⟨last, hlog⟩

end

/-- Calls end as on the list of hosts itself, and leave the same lists behind. -/
theorem Conversation.log_eq (h : endpoint.Reaches) {s last : Side} {calls : List Call}
    {log : List (Ending × List String)} (hs : Ready endpoint hosts s.1)
    (conversation : Conversation endpoint s calls log last) :
    log = Call.transcript calls hosts := by
  induction conversation generalizing hosts with
  | done s => rfl
  | @call _ _ _ call _ _ _ ends _ ih =>
    obtain ⟨hending, ht⟩ := (secures_call h hs call).ends (fun _ => trivial) ends
    rw [ht.hosts_eq, ih ht, hending]
    rfl

/-- Sessions are invisible. Whatever validity the Pi-hole tells, however the clock moves, and
whenever all sessions are forgotten, except between one that was granted and the request it was
asked for: each call ends as it does on the list of hosts itself, and leaves the same list. -/
theorem sessions_invisible {endpoint : Endpoint} (h : endpoint.Reaches) {hosts : List String}
    {s : Side} (ready : Ready endpoint hosts s.1) (calls : List Call) :
    (∃ last, Conversation endpoint s calls (Call.transcript calls hosts) last) ∧
      ∀ log last, Conversation endpoint s calls log last → log = Call.transcript calls hosts :=
  ⟨exists_conversation h ready calls, fun _ _ conversation => conversation.log_eq h ready⟩

/-- The endpoint of `http://pihole.lan` with everything else as it is by default. -/
def atHome : Endpoint where
  base := { scheme := "http", host? := some (.name "pihole.lan"), path := .segments ["api"] }
  password := "secret"
  sessionHeader := "X-FTL-SID"
  passwordField := "password"

theorem reaches_atHome : atHome.Reaches := ⟨by decide, by decide +kernel⟩

/-- A client with a session that a Pi-hole with these hosts does not know any more. -/
def forgotten (hosts : List String) : Side :=
  ({ cache := some ⟨"sid-9", ⟨1⟩⟩, network := { responder := .server { hosts } {} } }, [])

theorem ready_forgotten (hosts : List String) : Ready atHome hosts (forgotten hosts).1 := by
  have hheader : "x-ftl-sid" = atHome.sessionHeader.toLower := by decide +kernel
  have hvalidity : 300 < Time.secsBound := by decide
  refine ⟨⟨{ hosts }, ⟨rfl, {}, rfl, rfl⟩, ⟨rfl, rfl, hheader, hvalidity⟩, rfl⟩, ?_⟩
  intro session hsession
  cases hsession
  decide +kernel

/-- A name that is taken, given up and taken again. -/
def moving : List Call :=
  [.create ⟨"a.lan", "10.0.0.9"⟩, .delete "a.lan", .create ⟨"a.lan", "10.0.0.9"⟩, .list]

theorem sessions_invisible_of_forgotten :
    Call.transcript moving ["10.0.0.1 a.lan", "10.0.0.2  b.lan # spare"] =
      [(.error refusal, ["10.0.0.1 a.lan", "10.0.0.2  b.lan # spare"]),
        (.ok none, ["10.0.0.2  b.lan # spare"]),
        (.ok none, ["10.0.0.2  b.lan # spare", "10.0.0.9 a.lan"]),
        (.ok (some [⟨"b.lan", "10.0.0.2"⟩, ⟨"a.lan", "10.0.0.9"⟩]),
          ["10.0.0.2  b.lan # spare", "10.0.0.9 a.lan"])] ∧
    ∃ last, Conversation atHome (forgotten ["10.0.0.1 a.lan", "10.0.0.2  b.lan # spare"]) moving
      (Call.transcript moving ["10.0.0.1 a.lan", "10.0.0.2  b.lan # spare"]) last :=
  ⟨by decide +kernel, (sessions_invisible reaches_atHome (ready_forgotten _) moving).1⟩

end ClusterDns.PiHole
