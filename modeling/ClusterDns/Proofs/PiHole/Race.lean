import ClusterDns.Proofs.PiHole.Removal
import ClusterDns.Proofs.Program.Dialogue

/-! Deleting a record while others write to the list of hosts. The client looks the record up in one
list, and its request to delete the entry may find quite another. Requests may be lost on the way and
answers on the way back, sessions may end, and somebody else may answer in the Pi-hole's place.
Whatever happens, no entry goes but one that is spelt as the client spells the record it has read. -/

namespace ClusterDns.PiHole

open Http (Received)
open Rehearsal (PiHoleServer WireStage)
open Rehearsal.Network (arrived arrived_status)

/-! ## Requests of a call -/

/-- A request of a client and what came of it. -/
structure Message where
  request : Http.Request
  reply : Except Http.Failure Received

/-- The requests of a dialogue, in its order. -/
def messages (log : List (Exchange Wire)) : List Message :=
  log.filterMap fun
    | ⟨.exchange request, reply⟩ => some ⟨request, reply⟩
    | _ => none

@[simp] theorem messages_append (first rest : List (Exchange Wire)) :
    messages (first ++ rest) = messages first ++ messages rest := List.filterMap_append

namespace Message

/-- The request was turned away for its session. -/
def IsRefused (message : Message) : Prop :=
  ∃ received, message.reply = .ok received ∧ received.response.status = 401

/-- The entries of the list of hosts, if this is what came. -/
def entries? (message : Message) : Option (List String) :=
  match message.reply with
  | .ok received =>
    if received.response.status = 200 then Answer.hosts? received.response.body else none
  | .error _ => none

/-- The list of hosts was asked for, and these are the entries that came. -/
def Reads (endpoint : Endpoint) (message : Message) (entries : List String) : Prop :=
  (∃ id, message.request = sessionRequest endpoint .get endpoint.hostsUrl id) ∧
    message.entries? = some entries

end Message

section

variable {endpoint : Endpoint} {method : Http.Method} {url : Url} {log : List (Exchange Wire)}
  {found : List Message} {id : String}

/-- A request for a session, or one that was refused with the session it had. -/
def IsPreliminary (endpoint : Endpoint) (method : Http.Method) (url : Url) (message : Message) :
    Prop :=
  message.request = authRequest endpoint ∨
    message.IsRefused ∧ ∃ id, message.request = sessionRequest endpoint method url id

/-- The requests of a call that sends one with a session. -/
inductive Sends (endpoint : Endpoint) (method : Http.Method) (url : Url) :
    List Message → Except Error Received → Prop
  /-- The last one counts. -/
  | sent {first : List Message} {last : Message} {outcome : Except Error Received}
    (before : ∀ message ∈ first, IsPreliminary endpoint method url message)
    (request : ∃ id, last.request = sessionRequest endpoint method url id)
    (reply : ∀ received, outcome = .ok received → last.reply = .ok received) :
    Sends endpoint method url (first ++ [last]) outcome
  /-- There was no session to send it with. -/
  | unsent {first : List Message} {e : Error}
    (before : ∀ message ∈ first, IsPreliminary endpoint method url message) :
    Sends endpoint method url first (.error e)

theorem Sends.after {outcome : Except Error Received} (h : Sends endpoint method url found outcome)
    {earlier : List Message}
    (before : ∀ message ∈ earlier, IsPreliminary endpoint method url message) :
    Sends endpoint method url (earlier ++ found) outcome := by
  cases h with
  | sent hfirst request reply =>
    rw [← List.append_assoc]
    exact .sent (List.forall_mem_append.mpr ⟨before, hfirst⟩) request reply
  | unsent hfirst => exact .unsent (List.forall_mem_append.mpr ⟨before, hfirst⟩)

/-! ## Parts that send nothing -/

/-- A part of a call without requests. -/
def IsSilent {α : Type} (x : Talk α) : Prop :=
  ∀ log outcome, Dialogue x.run log outcome → messages log = []

theorem isSilent_pure {α : Type} (a : α) : IsSilent (pure a) := by
  intro log outcome run
  rw [(Dialogue.of_pure run).1]
  rfl

theorem isSilent_throw {α : Type} (e : Error) : IsSilent (throw e : Talk α) := by
  intro log outcome run
  rw [(Dialogue.of_throw run).1]
  rfl

theorem isSilent_ask {q : WireRequest} (hq : ∀ r, messages [⟨q, r⟩] = []) :
    IsSilent (ExceptT.lift (Wire.ask q)) := by
  intro log outcome run
  obtain ⟨r, rfl, -⟩ := Dialogue.of_lift run
  exact hq r

theorem isSilent_note (level : Journal.Level) (text : String) (fields : List (String × String)) :
    IsSilent (Wire.note level text fields) := isSilent_ask fun _ => rfl

theorem IsSilent.bind {α β : Type} {x : Talk α} {f : α → Talk β} (h : IsSilent x)
    (hf : ∀ a, IsSilent (f a)) : IsSilent (x >>= f) := by
  intro log outcome run
  rcases Dialogue.of_attempt run with ⟨e, hx, -⟩ | ⟨first, a, rest, rfl, hx, hrest⟩
  · exact h _ _ hx
  · rw [messages_append, h _ _ hx, hf a _ _ hrest]
    rfl

/-- What is sent after a question that is no request. -/
theorem messages_ask_bind {β : Type} {q : WireRequest} {f : q.Answer → Talk β}
    (hq : ∀ r, messages [⟨q, r⟩] = []) {outcome : Except Error β}
    (run : Dialogue (ExceptT.lift (Wire.ask q) >>= f).run log outcome) :
    ∃ r rest, Dialogue (f r).run rest outcome ∧ messages log = messages rest := by
  rcases Dialogue.of_attempt run with ⟨e, hx, -⟩ | ⟨first, r, rest, rfl, hx, hrest⟩
  · obtain ⟨_, -, hr⟩ := Dialogue.of_lift hx
    cases hr
  · obtain ⟨r, rfl, -⟩ := Dialogue.of_lift hx
    refine ⟨_, rest, hrest, ?_⟩
    rw [messages_append, hq, List.nil_append]

/-! ## Parts that send -/

theorem messages_exchange {request : Http.Request} {outcome : Except Error Received}
    (run : Dialogue (Wire.exchange url request).run log outcome) :
    ∃ reply, messages log = [⟨request, reply⟩] ∧
      ∀ received, outcome = .ok received → reply = .ok received := by
  obtain ⟨reply, hrun, rfl⟩ := Dialogue.of_rephrase run
  obtain ⟨_, rest, rfl, hended⟩ := Dialogue.of_ask hrun
  obtain ⟨rfl, rfl⟩ := Dialogue.of_done hended
  refine ⟨reply, rfl, fun received hr => ?_⟩
  cases reply with
  | ok other => exact congrArg Except.ok (Except.ok.inj hr)
  | error failure => cases hr

/-- Asking for a session is one request at the most. -/
theorem messages_authenticate {outcome : Except Error String}
    (run : Dialogue (Client.authenticate endpoint).run log outcome) :
    ∀ message ∈ messages log, message.request = authRequest endpoint := by
  unfold Client.authenticate at run
  obtain ⟨_, rest, hrest, hmessages⟩ := messages_ask_bind (q := .note _) (fun _ => rfl) run
  rw [hmessages]
  rcases Dialogue.of_attempt hrest with ⟨e, hsent, -⟩ | ⟨first, received, last, rfl, hsent, hlast⟩
  · obtain ⟨reply, hreply, -⟩ := messages_exchange hsent
    simp [hreply, authRequest]
  · obtain ⟨reply, hreply, -⟩ := messages_exchange hsent
    have hsilent : messages last = [] := by
      split at hlast
      · exact ((isSilent_ask (q := .forget) fun _ => rfl).bind fun _ =>
          (isSilent_note _ _ _).bind fun _ => isSilent_throw _) _ _ hlast
      · split at hlast
        · exact isSilent_throw _ _ _ hlast
        · split at hlast
          · exact isSilent_throw _ _ _ hlast
          · exact ((isSilent_ask (q := .note _) fun _ => rfl).bind fun _ =>
              (isSilent_ask (q := .keep _ _) fun _ => rfl).bind fun _ => isSilent_pure _) _ _ hlast
    simp [hreply, hsilent, authRequest]

theorem messages_send {outcome : Except Error Received}
    (run : Dialogue (Client.send endpoint method url id).run log outcome) :
    ∃ reply, messages log = [⟨sessionRequest endpoint method url id, reply⟩] ∧
      ∀ received, outcome = .ok received → reply = .ok received := by
  unfold Client.send at run
  obtain ⟨_, rest, hrest, hmessages⟩ := messages_ask_bind (q := .note _) (fun _ => rfl) run
  rw [hmessages]
  exact messages_exchange hrest

/-- A request with a new session. -/
theorem sends_authenticated {outcome : Except Error Received}
    (run : Dialogue (Client.authenticate endpoint >>= Client.send endpoint method url).run log
      outcome) : Sends endpoint method url (messages log) outcome := by
  have hauth : ∀ {log outcome}, Dialogue (Client.authenticate endpoint).run log outcome →
      ∀ message ∈ messages log, IsPreliminary endpoint method url message :=
    fun run message hm => .inl (messages_authenticate run message hm)
  rcases Dialogue.of_attempt run with ⟨e, hx, rfl⟩ | ⟨first, id, rest, rfl, hx, hrest⟩
  · exact .unsent (hauth hx)
  · obtain ⟨reply, hreply, hok⟩ := messages_send hrest
    rw [messages_append, hreply]
    exact .sent (hauth hx) ⟨id, rfl⟩ hok

/-- A request is sent once more where it was refused with a session that was kept. -/
theorem sends_sendWithSession {outcome : Except Error Received}
    (run : Dialogue (Client.sendWithSession endpoint method url).run log outcome) :
    Sends endpoint method url (messages log) outcome := by
  unfold Client.sendWithSession at run
  have hnothing : ∀ message ∈ ([] : List Message), IsPreliminary endpoint method url message := by
    simp
  obtain ⟨id?, rest, hrest, hmessages⟩ := messages_ask_bind (q := .cachedId) (fun _ => rfl) run
  rw [hmessages]
  cases id? with
  | none => exact sends_authenticated hrest
  | some id =>
    rcases Dialogue.of_attempt hrest with ⟨e, hx, rfl⟩ | ⟨first, received, last, rfl, hx, hlast⟩
    · obtain ⟨reply, hreply, -⟩ := messages_send hx
      rw [hreply]
      exact .sent hnothing ⟨id, rfl⟩ fun _ h => nomatch h
    · obtain ⟨reply, hreply, hok⟩ := messages_send hx
      obtain rfl := hok received rfl
      rw [messages_append, hreply]
      split at hlast
      · rename_i hrefused
        have hfirst : ∀ message ∈ [(⟨sessionRequest endpoint method url id, .ok received⟩ :
            Message)], IsPreliminary endpoint method url message := by
          intro message hm
          rw [List.mem_singleton.mp hm]
          exact .inr ⟨⟨received, rfl, hrefused⟩, id, rfl⟩
        obtain ⟨_, rest, hrest, hmessages⟩ := messages_ask_bind (q := .note _) (fun _ => rfl) hlast
        rw [hmessages]
        exact (sends_authenticated hrest).after hfirst
      · obtain ⟨rfl, rfl⟩ := Dialogue.of_pure hlast
        exact .sent hnothing ⟨id, rfl⟩ fun _ h => by rw [Except.ok.inj h]

/-- The records that are listed are those in the last answer. -/
theorem sends_list {outcome : Except Error (List Record)}
    (run : Dialogue (Client.list endpoint).run log outcome) :
    ∃ received, Sends endpoint .get endpoint.hostsUrl (messages log) received ∧
      ∀ records, outcome = .ok records → ∃ last entries, records = recordsIn entries ∧
        (messages log).getLast? = some last ∧ last.Reads endpoint entries := by
  unfold Client.list at run
  rcases Dialogue.of_attempt run with ⟨e, hx, rfl⟩ | ⟨first, received, last, rfl, hx, hlast⟩
  · exact ⟨_, sends_sendWithSession hx, fun _ h => nomatch h⟩
  · have hsends := sends_sendWithSession hx
    have hread : messages last = [] ∧ ∀ records, outcome = .ok records →
        ∃ entries, records = recordsIn entries ∧ received.response.status = 200 ∧
          Answer.hosts? received.response.body = some entries := by
      split at hlast
      · rename_i hstatus
        split at hlast
        · rename_i entries hentries
          obtain ⟨rfl, rfl⟩ := Dialogue.of_pure hlast
          exact ⟨rfl, fun records hr => ⟨entries, (Except.ok.inj hr).symm, hstatus, hentries⟩⟩
        · obtain ⟨rfl, rfl⟩ := Dialogue.of_throw hlast
          exact ⟨rfl, fun _ h => nomatch h⟩
      · obtain ⟨rfl, rfl⟩ := Dialogue.of_throw hlast
        exact ⟨rfl, fun _ h => nomatch h⟩
    rw [messages_append, hread.1, List.append_nil]
    refine ⟨_, hsends, fun records hr => ?_⟩
    obtain ⟨entries, hrecords, hstatus, hentries⟩ := hread.2 records hr
    generalize messages first = found at hsends
    cases hsends with
    | @sent _ message _ _ request reply =>
      refine ⟨message, entries, hrecords, by simp, request, ?_⟩
      simp [Message.entries?, reply received rfl, hstatus, hentries]

/-- A lookup, and a request for the first record that was found. -/
theorem messages_delete {domain : String} {outcome : Except Error Unit}
    (run : Dialogue (Client.delete endpoint domain).run log outcome) :
    ∃ lookup deletion, messages log = lookup ++ deletion ∧
      (∃ received, Sends endpoint .get endpoint.hostsUrl lookup received) ∧
      (deletion = [] ∨ ∃ last entries record received,
        lookup.getLast? = some last ∧ last.Reads endpoint entries ∧
        (recordsIn entries).find? (·.domain = domain) = some record ∧
        Sends endpoint .delete (endpoint.entryUrl record.toEntry) deletion received) := by
  unfold Client.delete at run
  rcases Dialogue.of_attempt run with ⟨e, hx, rfl⟩ | ⟨first, records, last, rfl, hx, hlast⟩
  · obtain ⟨received, hsends, -⟩ := sends_list hx
    exact ⟨messages log, [], (List.append_nil _).symm, ⟨received, hsends⟩, .inl rfl⟩
  · obtain ⟨received, hsends, hread⟩ := sends_list hx
    obtain ⟨message, entries, rfl, hlast?, hentries⟩ := hread records rfl
    refine ⟨messages first, messages last, messages_append .., ⟨received, hsends⟩, ?_⟩
    split at hlast
    · exact .inl (isSilent_note _ _ _ _ _ hlast)
    · rename_i record hrecord
      refine .inr ⟨message, entries, record, ?_⟩
      rcases Dialogue.of_attempt hlast with ⟨e, hx, -⟩ | ⟨second, answer, rest, rfl, hx, hrest⟩
      · exact ⟨_, hlast?, hentries, hrecord, sends_sendWithSession hx⟩
      · have hsilent : messages rest = [] := by
          split at hrest
          · exact isSilent_pure _ _ _ hrest
          · exact isSilent_throw _ _ _ hrest
        rw [messages_append, hsilent, List.append_nil]
        exact ⟨_, hlast?, hentries, hrecord, sends_sendWithSession hx⟩

end

/-! ## What becomes of the list of hosts -/

/-- A request at the moment it comes to the Pi-hole, or would, with the list of hosts before and
after it. -/
structure Arrival extends Message where
  before : List String
  after : List String

namespace Arrival

/-- The Pi-hole does what it is asked, and its answer comes back. -/
def IsAnswered (a : Arrival) : Prop :=
  ∃ server : PiHoleServer, server.hosts = a.before ∧ a.after = (server.handle a.request).2.hosts ∧
    a.reply = .ok ⟨a.request.url, arrived (server.handle a.request).1⟩

/-- What may come of a request, in whatever state the Pi-hole is. -/
inductive Happens (a : Arrival) : Prop
  | answered (h : a.IsAnswered)
  /-- The answer is lost. -/
  | unheard (server : PiHoleServer) (before : server.hosts = a.before)
    (after : a.after = (server.handle a.request).2.hosts) (failure : Http.Failure)
    (reply : a.reply = .error failure)
  /-- The request is lost, or somebody else answers it. -/
  | diverted (same : a.after = a.before)

end Arrival

/-- Over a network on which a Pi-hole answers, every request is answered. -/
theorem Arrival.isAnswered_of_serves {stage : WireStage} {server : PiHoleServer}
    (h : stage.network.Serves server) {request : Http.Request}
    (supported : Http.isSupported request.url = true) (writable : request.IsWritable)
    (journal : List Journal.Entry) :
    let ended := WireStage.answer (.exchange request) (stage, journal)
    IsAnswered ⟨⟨request, ended.1⟩, stage.network.responder.hosts,
      ended.2.1.network.responder.hosts⟩ := by
  obtain ⟨next, hrun, hnext, -⟩ :=
    h.exchange supported writable (PiHoleServer.isRedirect_handle server request)
  have hended : WireStage.answer (.exchange request) (stage, journal) =
      (.ok ⟨request.url, arrived (server.handle request).1⟩,
        ({ stage with network := next }, journal)) := by
    simp only [WireStage.answer, hrun]
  rw [hended]
  exact ⟨server, h.hosts_eq.symm, hnext.hosts_eq, rfl⟩

/-- A call, and its requests as they come to the Pi-hole. Others may do anything to the list of hosts
before each of them. -/
structure Race {α : Type} (p : Program Wire α) (arrivals : List Arrival) (outcome : α) : Prop where
  dialogue : ∃ log, Dialogue p log outcome ∧ messages log = arrivals.map Arrival.toMessage
  happens : ∀ a ∈ arrivals, a.Happens

section

variable {endpoint : Endpoint} {method : Http.Method} {url : Url} {a : Arrival}
  {response : List String → Http.Response} {change : List String → List String}

/-- Only the request itself changes the list, and only for who has a session. -/
theorem hosts_handle_sessionRequest (served : IsServed method url response change)
    (server : PiHoleServer) (id : String) :
    (server.handle (sessionRequest endpoint method url id)).2.hosts = server.hosts ∧
        (server.handle (sessionRequest endpoint method url id)).1.status = 401 ∨
      (server.handle (sessionRequest endpoint method url id)).2.hosts = change server.hosts ∧
        (server.handle (sessionRequest endpoint method url id)).1 = response server.hosts := by
  cases hadmitted : server.isAdmitted (sessionRequest endpoint method url id) with
  | true =>
    rw [served.handle (sessionRequest_method ..) (place_sessionRequest ..) hadmitted]
    exact .inr ⟨rfl, rfl⟩
  | false =>
    rw [PiHoleServer.handle_of_not_admitted (by simpa using served.admitted) hadmitted]
    exact .inl ⟨rfl, rfl⟩

@[simp] theorem method_authRequest (endpoint : Endpoint) : (authRequest endpoint).method = .post :=
  Http.Request.ofUrl_method ..

/-- Asking for a session changes no list. -/
theorem hosts_handle_authRequest (server : PiHoleServer) :
    (server.handle (authRequest endpoint)).2.hosts = server.hosts := by
  unfold PiHoleServer.handle
  rw [method_authRequest]
  split
  · split <;> rfl
  · split
    · rfl
    · split
      · contradiction
      · contradiction
      · contradiction
      · rfl

theorem Arrival.Happens.after_of_request (served : IsServed method url response change)
    (h : a.Happens) {id : String} (hr : a.request = sessionRequest endpoint method url id) :
    a.after = a.before ∨ a.after = change a.before := by
  have hhandled : ∀ server : PiHoleServer, server.hosts = a.before →
      a.after = (server.handle a.request).2.hosts → a.after = a.before ∨ a.after = change a.before := by
    intro server hbefore hafter
    rw [hafter, hr, ← hbefore]
    exact (hosts_handle_sessionRequest served server id).imp And.left And.left
  cases h with
  | answered h =>
    obtain ⟨server, hbefore, hafter, -⟩ := h
    exact hhandled server hbefore hafter
  | unheard server hbefore hafter => exact hhandled server hbefore hafter
  | diverted same => exact .inl same

/-- A request that is refused has changed nothing, and neither has one for a session. -/
theorem Arrival.Happens.after_of_preliminary (served : IsServed method url response change)
    (h : a.Happens) (hp : IsPreliminary endpoint method url a.toMessage) : a.after = a.before := by
  rcases hp with hauth | ⟨⟨received, hreply, hstatus⟩, id, hr⟩
  · have hhandled : ∀ server : PiHoleServer, server.hosts = a.before →
        a.after = (server.handle a.request).2.hosts → a.after = a.before := by
      intro server hbefore hafter
      rw [hafter, hauth, hosts_handle_authRequest, hbefore]
    cases h with
    | answered h =>
      obtain ⟨server, hbefore, hafter, -⟩ := h
      exact hhandled server hbefore hafter
    | unheard server hbefore hafter => exact hhandled server hbefore hafter
    | diverted same => exact same
  · cases h with
    | answered h =>
      obtain ⟨server, hbefore, hafter, hanswer⟩ := h
      rw [hreply, Except.ok.injEq] at hanswer
      rw [hanswer, arrived_status, hr] at hstatus
      rcases hosts_handle_sessionRequest served server id with ⟨hsame, -⟩ | ⟨-, hresponse⟩
      · rw [hafter, hr, hsame, hbefore]
      · rw [hresponse] at hstatus
        exact absurd hstatus (served.status server.hosts)
    | unheard _ _ _ failure hlost =>
      rw [hlost] at hreply
      cases hreply
    | diverted same => exact same

variable {arrivals : List Arrival} {outcome : Except Error Received}

theorem Sends.request {found : List Message} (h : Sends endpoint method url found outcome) :
    ∀ message ∈ found, message.request = authRequest endpoint ∨
      ∃ id, message.request = sessionRequest endpoint method url id := by
  have hfirst : ∀ first : List Message,
      (∀ message ∈ first, IsPreliminary endpoint method url message) → ∀ message ∈ first,
        message.request = authRequest endpoint ∨
          ∃ id, message.request = sessionRequest endpoint method url id := by
    intro first before message hm
    exact (before message hm).imp_right And.right
  cases h with
  | unsent before => exact hfirst _ before
  | sent before request _ =>
    refine List.forall_mem_append.mpr ⟨hfirst _ before, ?_⟩
    intro message hm
    rw [List.mem_singleton.mp hm]
    exact .inr request

/-- Of the requests of a call none changes the list but the last. -/
theorem Sends.effect (served : IsServed method url response change)
    (happens : ∀ a ∈ arrivals, a.Happens)
    (h : Sends endpoint method url (arrivals.map Arrival.toMessage) outcome) :
    (∀ a ∈ arrivals, a.after = a.before) ∨ ∃ first last, arrivals = first ++ [last] ∧
      (∀ a ∈ first, a.after = a.before) ∧ last.after = change last.before := by
  have hquiet : ∀ first : List Arrival, (∀ a ∈ first, a.Happens) →
      (∀ message ∈ first.map Arrival.toMessage, IsPreliminary endpoint method url message) →
        ∀ a ∈ first, a.after = a.before := by
    intro first hfirst before a ha
    exact (hfirst a ha).after_of_preliminary served (before _ (List.mem_map_of_mem ha))
  generalize hmessages : arrivals.map Arrival.toMessage = found at h
  cases h with
  | unsent before => exact .inl (hquiet _ happens (hmessages ▸ before))
  | sent before request _ =>
    obtain ⟨first, ending, rfl, rfl, hending⟩ := List.map_eq_append_iff.mp hmessages
    obtain ⟨last, rfl, rfl⟩ := List.map_eq_singleton_iff.mp hending
    obtain ⟨hfirst, hlast⟩ := List.forall_mem_append.mp happens
    obtain ⟨id, hr⟩ := request
    have hsame := hquiet _ hfirst before
    rcases (hlast last (by simp)).after_of_request served hr with hspared | hchanged
    · refine .inl (List.forall_mem_append.mpr ⟨hsame, ?_⟩)
      intro a ha
      rw [List.mem_singleton.mp ha]
      exact hspared
    · exact .inr ⟨first, last, rfl, hsame, hchanged⟩

end

/-! ## Deleting -/

/-- Requests of which at most one takes an entry out of the list, and takes out nothing else. -/
inductive TakesOut (entry : String) : List Arrival → Prop
  | spared {arrivals : List Arrival} (all : ∀ a ∈ arrivals, a.after = a.before) :
    TakesOut entry arrivals
  | removed {first : List Arrival} {last : Arrival} {front back : List String}
    (others : ∀ a ∈ first, a.after = a.before) (before : last.before = front ++ entry :: back)
    (after : last.after = front ++ back) : TakesOut entry (first ++ [last])

/-- What a call that deletes the record of a name does once it has found one. -/
structure Removes (endpoint : Endpoint) (domain : String) (lookup deletion : List Arrival)
    (entries : List String) (record : Record) : Prop where
  /-- The entries are those of the list at the lookup, unless somebody else has answered it. -/
  read : ∃ last, lookup.getLast? = some last ∧ last.Reads endpoint entries ∧
    (last.IsAnswered → entries = last.before)
  found : (recordsIn entries).find? (·.domain = domain) = some record
  /-- The entry that goes is the address and the name, and there is nothing else in it. -/
  fields : Text.fields record.toEntry.toList = [record.address.toList, domain.toList]
  request : ∀ a ∈ deletion, a.request.method = .delete → ∃ id,
    a.request = sessionRequest endpoint .delete (endpoint.entryUrl record.toEntry) id
  effect : TakesOut record.toEntry deletion
  /-- Entries of other names or addresses, with further fields or with too few, all stay. -/
  others : ∀ a ∈ deletion, ∀ entry : String,
    Text.fields entry.toList ≠ [record.address.toList, domain.toList] →
      a.after.count entry = a.before.count entry

theorem TakesOut.count_eq {entry other : String} {arrivals : List Arrival}
    (h : TakesOut entry arrivals) (hne : other ≠ entry) :
    ∀ a ∈ arrivals, a.after.count other = a.before.count other := by
  cases h with
  | spared all =>
    intro a ha
    rw [all a ha]
  | removed others before after =>
    refine List.forall_mem_append.mpr ⟨fun a ha => by rw [others a ha], ?_⟩
    intro a ha
    rw [List.mem_singleton.mp ha, before, after]
    simp [List.count_append, Ne.symm hne]

theorem Sends.takesOut {endpoint : Endpoint} (h : endpoint.Reaches) {record : Record}
    (solid : record.IsSolid) {arrivals : List Arrival} (happens : ∀ a ∈ arrivals, a.Happens)
    {outcome : Except Error Received}
    (sends : Sends endpoint .delete (endpoint.entryUrl record.toEntry)
      (arrivals.map Arrival.toMessage) outcome) : TakesOut record.toEntry arrivals := by
  have served := isServed_delete h (not_isDotted_toEntry record)
  rw [visibleText_toEntry solid] at served
  rcases sends.effect served happens with hall | ⟨first, last, rfl, hfirst, hlast⟩
  · exact .spared hall
  · by_cases hmem : record.toEntry ∈ last.before
    · obtain ⟨front, back, -, hbefore, herased⟩ := List.exists_erase_eq hmem
      exact .removed hfirst hbefore (hlast.trans herased)
    · rw [List.erase_of_not_mem hmem] at hlast
      refine .spared (List.forall_mem_append.mpr ⟨hfirst, ?_⟩)
      intro a ha
      rw [List.mem_singleton.mp ha]
      exact hlast

/-- What a lookup reads is the list of hosts, if it is the Pi-hole that answers. -/
theorem Arrival.IsAnswered.entries_eq {endpoint : Endpoint} (h : endpoint.Reaches) {a : Arrival}
    (answered : a.IsAnswered) {entries : List String} (reads : a.Reads endpoint entries) :
    entries = a.before := by
  obtain ⟨server, hbefore, -, hreply⟩ := answered
  obtain ⟨⟨id, hr⟩, hentries⟩ := reads
  unfold Message.entries? at hentries
  rw [hreply] at hentries
  dsimp only at hentries
  split at hentries
  · rename_i hstatus
    rw [arrived_status, hr] at hstatus
    rcases hosts_handle_sessionRequest (isServed_hosts h) server id with
      ⟨-, hrefused⟩ | ⟨-, hresponse⟩
    · rw [hrefused] at hstatus
      contradiction
    · rw [hr, hresponse] at hentries
      have hhosts : Answer.hosts? (arrived ({ hosts := server.hosts : PiHoleServer }.hostsAnswer)).body
          = some server.hosts := hosts?_hostsAnswer { hosts := server.hosts }
      rw [hhosts] at hentries
      rw [← Option.some.inj hentries, hbefore]
  · cases hentries

/-- Deleting a name takes out one entry at the most, and it is the entry of the first record of the
name in the list that was looked up, spelt as an address, one space and the name. Whatever others
have made of the list in the meantime, every other entry stays. Where the list that was looked up has
no record of the name, nothing is asked to be deleted. -/
theorem delete_exact {endpoint : Endpoint} (h : endpoint.Reaches) {domain : String}
    {arrivals : List Arrival} {outcome : Except Error Unit}
    (race : Race (Client.delete endpoint domain).run arrivals outcome) :
    ∃ lookup deletion, arrivals = lookup ++ deletion ∧
      (∀ a ∈ lookup, a.request.method ≠ .delete ∧ a.after = a.before) ∧
      (deletion = [] ∨ ∃ entries record, Removes endpoint domain lookup deletion entries record) := by
  obtain ⟨log, run, hmessages⟩ := race.dialogue
  obtain ⟨first, last, hsplit, ⟨received, hlookup⟩, hdeletion⟩ := messages_delete run
  rw [hsplit] at hmessages
  obtain ⟨lookup, deletion, rfl, rfl, rfl⟩ := List.append_eq_map_iff.mp hmessages
  obtain ⟨hhappens, hthen⟩ := List.forall_mem_append.mp race.happens
  refine ⟨lookup, deletion, rfl, ?_, ?_⟩
  · intro a ha
    constructor
    · rcases hlookup.request _ (List.mem_map_of_mem ha) with hr | ⟨id, hr⟩
      · simp [hr]
      · simp [hr]
    · rcases hlookup.effect (isServed_hosts h) hhappens with hall | ⟨front, final, rfl, hfront, hfinal⟩
      · exact hall a ha
      · rcases List.mem_append.mp ha with ha | ha
        · exact hfront a ha
        · rw [List.mem_singleton.mp ha]
          exact hfinal
  · rcases hdeletion with hnone | ⟨message, entries, record, answer, hlast, hreads, hfound, hsends⟩
    · exact .inl (List.map_eq_nil_iff.mp hnone)
    · right
      obtain ⟨seen, hseen, rfl⟩ : ∃ seen, lookup.getLast? = some seen ∧ seen.toMessage = message := by
        simpa [List.getLast?_map] using hlast
      have hdomain : record.domain = domain := by simpa using List.find?_some hfound
      obtain ⟨entry, -, hentry⟩ := List.mem_filterMap.mp (List.mem_of_find?_eq_some hfound)
      have solid := Record.isSolid_of_entry hentry
      have hfields := Record.fields_toEntry solid
      have heffect := hsends.takesOut h solid hthen
      rw [hdomain] at hfields
      refine ⟨entries, record, ?_⟩
      constructor
      case read => exact ⟨seen, hseen, hreads, fun answered => answered.entries_eq h hreads⟩
      case found => exact hfound
      case fields => exact hfields
      case effect => exact heffect
      case request =>
        intro a ha hmethod
        rcases hsends.request _ (List.mem_map_of_mem ha) with hr | hr
        · rw [hr, method_authRequest] at hmethod
          contradiction
        · exact hr
      case others =>
        intro a ha other hother
        refine heffect.count_eq ?_ a ha
        intro he
        exact hother (he ▸ hfields)

/-- A list of hosts in which the name is bound to another address before the request to delete it
comes, and in which it has an entry with a further name. -/
def rebound (request : Http.Request) : PiHoleServer where
  hosts := if request.method = .delete then
      ["10.0.0.2 a.lan", "10.0.0.1 a.lan www.a.lan", "10.0.0.1 a.lan"]
    else ["10.0.0.1 a.lan", "# by hand"]
  sessions := ["sid-9"]

/-- A client whose session is good, and that Pi-hole. -/
def rebinding : Program.Surroundings Wire Unit
  | .cachedId, _ => (some "sid-9", ())
  | .keep .., _ => ((), ())
  | .forget, _ => ((), ())
  | .note _, _ => ((), ())
  | .exchange request, _ => (.ok ⟨request.url, arrived ((rebound request).handle request).1⟩, ())

/-- The requests as they come to that Pi-hole. -/
def reboundArrivals : List Arrival :=
  (messages (Dialogue.transcript rebinding (Client.delete atHome "a.lan").run ())).map
    fun message => { message with
      before := (rebound message.request).hosts
      after := ((rebound message.request).handle message.request).2.hosts }

theorem race_rebinding : Race (Client.delete atHome "a.lan").run reboundArrivals
    ((Client.delete atHome "a.lan").run.run rebinding ()).1 where
  dialogue := by
    refine ⟨_, Dialogue.dialogue_transcript rebinding _ (), ?_⟩
    simp [reboundArrivals, Function.comp_def]
  happens := by
    intro a ha
    obtain ⟨message, hm, rfl⟩ := List.mem_map.mp ha
    obtain ⟨⟨q, r⟩, hmem, hq⟩ := List.mem_filterMap.mp hm
    obtain ⟨_, hr⟩ := Dialogue.exists_answer_of_mem_transcript hmem
    cases q with
    | exchange request =>
      cases hq
      exact .answered ⟨rebound request, rfl, rfl, hr⟩
    | cachedId | keep | forget | note => cases hq

theorem delete_exact_of_rebinding :
    reboundArrivals.map (fun a => (a.request.method, a.before, a.after)) =
      [(.get, ["10.0.0.1 a.lan", "# by hand"], ["10.0.0.1 a.lan", "# by hand"]),
        (.delete, ["10.0.0.2 a.lan", "10.0.0.1 a.lan www.a.lan", "10.0.0.1 a.lan"],
          ["10.0.0.2 a.lan", "10.0.0.1 a.lan www.a.lan"])] ∧
    ∃ lookup deletion, reboundArrivals = lookup ++ deletion ∧
      (∀ a ∈ lookup, a.request.method ≠ .delete ∧ a.after = a.before) ∧
      (deletion = [] ∨ ∃ entries record,
        Removes atHome "a.lan" lookup deletion entries record) :=
  ⟨by decide +kernel, delete_exact reaches_atHome race_rebinding⟩

end ClusterDns.PiHole
