import ClusterDns.Proofs.PiHole.Answer
import ClusterDns.Proofs.PiHole.Service
import ClusterDns.Proofs.Program.Contract

/-! A client's requests with sessions that may end at any time. The clock may move, the Pi-hole may
tell another validity, and it may forget all its sessions, but not between granting one and the
request it was asked for. Whatever of this happens, a request is served once. -/

namespace ClusterDns.PiHole

open Rehearsal (Network PiHoleServer WireStage)
open Rehearsal.Network (arrived)

/-! ## What may happen by itself -/

/-- A session was granted, and the request it was asked for has not come yet. -/
def IsAwaited (network : Network) : Prop :=
  network.requests.head?.map (·.method) = some .post

def onServer (f : PiHoleServer → PiHoleServer) (stage : WireStage) : WireStage :=
  { stage with network :=
    { stage.network with responder := stage.network.responder.update f } }

/-- What may happen while a client does nothing. -/
inductive Upset (stage : WireStage) : WireStage → Prop
  /-- The clock moves, and sessions may end by it. -/
  | clock (now : Time.Instant) : Upset stage { stage with now }
  /-- The Pi-hole tells another validity from now on, which is a number of 64 bits. -/
  | validity (secs : Nat) (h : secs < Time.secsBound) :
    Upset stage (onServer (fun server => { server with validitySecs := secs }) stage)
  /-- The Pi-hole forgets all its sessions. -/
  | forgotten (h : ¬ IsAwaited stage.network) :
    Upset stage (onServer (fun server => { server with sessions := [] }) stage)

/-- A client's side of the network, and its journal. -/
abbrev Side := WireStage × List Journal.Entry

def wire : Contract Wire Side where
  drift s t := Relation.ReflTransGen Upset s.1 t.1 ∧ t.2 = s.2
  answers q s r t := (r, t) = WireStage.answer q s
  allowed _ _ := True
  invariant _ := True

/-! ## What holds all the time -/

/-- The server grants sessions for the password of the endpoint, of a length that can be told. -/
structure Accepts (server : PiHoleServer) (endpoint : Endpoint) : Prop where
  password : server.password = endpoint.password
  field : server.passwordField = endpoint.passwordField
  header : server.sessionHeader = endpoint.sessionHeader.toLower
  validity : server.validitySecs < Time.secsBound

/-- A client of the endpoint talks to a Pi-hole that accepts it, with this list of hosts. The session
it keeps may be any that can be named in a header. -/
structure Ready (endpoint : Endpoint) (hosts : List String) (stage : WireStage) : Prop where
  served : ∃ server, stage.network.Serves server ∧ Accepts server endpoint ∧ server.hosts = hosts
  cached : ∀ session ∈ stage.cache, Http.isHeaderValue session.id = true

/-- The client has just been granted a session. -/
structure Granted (endpoint : Endpoint) (hosts : List String) (id : String) (stage : WireStage) :
    Prop where
  served : ∃ server, stage.network.Serves server ∧ Accepts server endpoint ∧
    server.hosts = hosts ∧ id ∈ server.sessions
  cached : ∀ session ∈ stage.cache, Http.isHeaderValue session.id = true
  awaited : IsAwaited stage.network
  written : Http.isHeaderValue id = true

/-- What nothing that happens by itself undoes. -/
def Lasting (P : WireStage → Prop) : Prop := ∀ s t, Upset s t → P s → P t

theorem Lasting.drift {P : WireStage → Prop} (h : Lasting P) {s t : WireStage}
    (hd : Relation.ReflTransGen Upset s t) (hs : P s) : P t := by
  induction hd with
  | refl => exact hs
  | tail _ hu ih => exact h _ _ hu ih

variable {endpoint : Endpoint} {hosts : List String} {id : String}

theorem serves_onServer {stage : WireStage} {server : PiHoleServer}
    (h : stage.network.Serves server) (f : PiHoleServer → PiHoleServer) :
    (onServer f stage).network.Serves (f server) := by
  obtain ⟨schedule, hresponder, hplanned⟩ := h.responder
  refine ⟨h.up, schedule, ?_, hplanned⟩
  simp [onServer, hresponder, Rehearsal.Responder.update]

theorem lasting_ready : Lasting (Ready endpoint hosts) := by
  intro s t hu h
  obtain ⟨server, hserves, haccepts, hhosts⟩ := h.served
  cases hu with
  | clock now => exact ⟨h.served, h.cached⟩
  | validity secs hsecs =>
    exact ⟨⟨_, serves_onServer hserves _, { haccepts with validity := hsecs }, hhosts⟩, h.cached⟩
  | forgotten hf =>
    exact ⟨⟨_, serves_onServer hserves _, { haccepts with }, hhosts⟩, h.cached⟩

/-- A session is not forgotten before the request it was asked for. -/
theorem lasting_granted : Lasting (Granted endpoint hosts id) := by
  intro s t hu h
  obtain ⟨server, hserves, haccepts, hhosts, hid⟩ := h.served
  cases hu with
  | clock now => exact ⟨h.served, h.cached, h.awaited, h.written⟩
  | validity secs hsecs =>
    exact ⟨⟨_, serves_onServer hserves _, { haccepts with validity := hsecs }, hhosts, hid⟩,
      h.cached, h.awaited, h.written⟩
  | forgotten hf => exact absurd h.awaited hf

theorem Granted.ready {stage : WireStage} (h : Granted endpoint hosts id stage) :
    Ready endpoint hosts stage := by
  obtain ⟨server, hserves, haccepts, hhosts, -⟩ := h.served
  exact ⟨⟨server, hserves, haccepts, hhosts⟩, h.cached⟩

/-! ## Steps of a client -/

section

variable {P : WireStage → Prop} {s : Side}

theorem secures_ask {q : WireRequest} {post : q.Answer → Side → Prop}
    (h : ∀ t, Relation.ReflTransGen Upset s.1 t →
      post (WireStage.answer q (t, s.2)).1 (WireStage.answer q (t, s.2)).2) :
    wire.Secures (Wire.ask q) post s := by
  rintro ⟨t, journal⟩ ⟨hu, rfl⟩ -
  refine ⟨trivial, fun r u hr => ⟨trivial, ?_⟩⟩
  have hpost := h t hu
  rw [← hr] at hpost
  exact hpost

theorem delivers_lift {q : WireRequest} {post : q.Answer → Side → Prop}
    (h : ∀ t, Relation.ReflTransGen Upset s.1 t →
      post (WireStage.answer q (t, s.2)).1 (WireStage.answer q (t, s.2)).2) :
    wire.Delivers (ExceptT.lift (Wire.ask q) : Talk q.Answer) post s :=
  Contract.Secures.bind (secures_ask fun t ht => ⟨_, rfl, h t ht⟩)

theorem delivers_entry (hP : Lasting P) (hs : P s.1) {entry : Journal.Entry} :
    wire.Delivers (ExceptT.lift (Wire.ask (.note entry)) : Talk Unit) (fun _ t => P t.1) s :=
  delivers_lift fun _ ht => hP.drift ht hs

theorem delivers_note (hP : Lasting P) (hs : P s.1) {level : Journal.Level} {message : String}
    {fields : List (String × String)} :
    wire.Delivers (Wire.note level message fields) (fun _ t => P t.1) s :=
  delivers_entry hP hs

/-- One exchange with the Pi-hole. -/
theorem delivers_exchange (hP : Lasting P) (hs : P s.1) {url : Url} {request : Http.Request}
    (supported : Http.isSupported request.url = true) (writable : request.IsWritable)
    {post : Http.Received → WireStage → Prop}
    (h : ∀ t, P t → ∃ server, t.network.Serves server ∧ ∀ network,
      network.Serves (server.handle request).2 →
        network.requests = request :: t.network.requests →
          post ⟨request.url, arrived (server.handle request).1⟩ { t with network }) :
    wire.Delivers (Wire.exchange url request) (fun received t => post received t.1) s := by
  refine Contract.Delivers.rephrase ?_
  refine secures_ask fun t ht => ?_
  obtain ⟨server, hserves, hpost⟩ := h t (hP.drift ht hs)
  obtain ⟨next, hrun, hnext, hrequests⟩ :=
    hserves.exchange supported writable (PiHoleServer.isRedirect_handle server request)
  refine ⟨⟨request.url, arrived (server.handle request).1⟩, ?_, ?_⟩
  · simp [WireStage.answer, hrun]
  · simpa [WireStage.answer, hrun] using hpost next hnext hrequests

/-- The client's request for a session. -/
def authRequest (endpoint : Endpoint) : Http.Request :=
  (Http.Request.ofUrl .post endpoint.authUrl).withJson
    (.object [(endpoint.passwordField, .string endpoint.password)])

/-- An answer that grants a session, and the stage after it. -/
def Grants (endpoint : Endpoint) (hosts : List String) (received : Http.Received)
    (stage : WireStage) : Prop :=
  ∃ grant, received.response.status = 200 ∧
    Answer.grant? received.response.body = some grant ∧ Granted endpoint hosts grant.id stage

theorem isHeaderValue_sid (n : Nat) : Http.isHeaderValue s!"sid-{n}" = true := by
  have hstart : ∀ c ∈ "sid-".toList, Http.isValueChar c = true := by simp [Http.isValueChar]
  have hall : ∀ c ∈ ("sid-" ++ toString n).toList, Http.isValueChar c = true := by
    intro c hc
    rw [String.toList_append, List.mem_append] at hc
    rcases hc with hc | hc
    · exact hstart c hc
    · exact Http.isValueChar_of_isDigit (Text.isDigit_of_mem_toString hc)
  exact List.all_eq_true.mpr hall

/-- The Pi-hole grants the session it is asked for. -/
theorem grants_authRequest (h : endpoint.Reaches) {t : WireStage} (ht : Ready endpoint hosts t) :
    ∃ server, t.network.Serves server ∧ ∀ network,
      network.Serves (server.handle (authRequest endpoint)).2 →
        network.requests = authRequest endpoint :: t.network.requests →
          Grants endpoint hosts ⟨(authRequest endpoint).url,
            arrived (server.handle (authRequest endpoint)).1⟩ { t with network } := by
  obtain ⟨server, hserves, haccepts, hhosts⟩ := ht.served
  have hplace : PiHoleServer.place (authRequest endpoint).url = some ["auth"] :=
    (PiHoleServer.place_congr (Http.Request.ofUrl_path _ _)).trans h.place_authUrl
  have hpassword : server.hasPassword (authRequest endpoint) = true := by
    simp [PiHoleServer.hasPassword, authRequest, Http.Request.withJson, Json.get, Json.get?,
      Json.members, Json.Members.get?_cons, haccepts.password, haccepts.field, Json.string?]
  have hhandle : server.handle (authRequest endpoint) = server.grant :=
    PiHoleServer.handle_auth (Http.Request.ofUrl_method _ _) hplace hpassword
  refine ⟨server, hserves, fun network hnetwork hrequests => ?_⟩
  rw [hhandle] at hnetwork ⊢
  refine ⟨_, rfl, grant?_grant haccepts.validity, ⟨⟨_, hnetwork, { haccepts with }, hhosts, ?_⟩,
    ht.cached, ?_, isHeaderValue_sid _⟩⟩
  · simp [PiHoleServer.grant]
  · simp [IsAwaited, hrequests, authRequest, Http.Request.withJson]

theorem delivers_keep (hs : Granted endpoint hosts id s.1) (validity : Time.Duration) :
    wire.Delivers (Wire.keep id validity) (fun _ t => Granted endpoint hosts id t.1) s := by
  refine delivers_lift fun t ht => ?_
  have hgranted := lasting_granted.drift ht hs
  refine ⟨hgranted.served, ?_, hgranted.awaited, hgranted.written⟩
  intro session hsession
  cases hsession
  exact hgranted.written

theorem delivers_authenticate (h : endpoint.Reaches) (hs : Ready endpoint hosts s.1) :
    wire.Delivers (Client.authenticate endpoint) (fun id t => Granted endpoint hosts id t.1) s := by
  unfold Client.authenticate
  refine Contract.Delivers.bind (delivers_note lasting_ready hs) fun _ s hs => ?_
  have hsupported : Http.isSupported (authRequest endpoint).url = true :=
    (Http.Request.isSupported_ofUrl _ _).trans h.supported_authUrl
  have hwritable : (authRequest endpoint).IsWritable :=
    (Http.Request.ofUrl_isWritable _ _).withJson _
  have hexchange : wire.Delivers (Wire.exchange endpoint.authUrl (authRequest endpoint))
      (fun received t => Grants endpoint hosts received t.1) s :=
    delivers_exchange lasting_ready hs hsupported hwritable fun t ht => grants_authRequest h ht
  refine Contract.Delivers.bind hexchange ?_
  rintro received s ⟨grant, hstatus, hgrant, hs⟩
  simp only [hstatus, hgrant]
  refine Contract.Delivers.bind (delivers_entry lasting_granted hs) fun _ s hs => ?_
  refine Contract.Delivers.bind (delivers_keep hs grant.validity) fun _ s hs => ?_
  exact Contract.delivers_pure hs

/-- A request with the id of a session. -/
def sessionRequest (endpoint : Endpoint) (method : Http.Method) (url : Url) (id : String) :
    Http.Request :=
  (Http.Request.ofUrl method url).withHeader ⟨endpoint.sessionHeader.toLower, id⟩

section

variable (endpoint : Endpoint) (method : Http.Method) (url : Url) (id : String)

@[simp] theorem sessionRequest_method : (sessionRequest endpoint method url id).method = method :=
  Http.Request.ofUrl_method method url

@[simp] theorem place_sessionRequest :
    PiHoleServer.place (sessionRequest endpoint method url id).url = PiHoleServer.place url :=
  PiHoleServer.place_congr (Http.Request.ofUrl_path method url)

@[simp] theorem isSupported_sessionRequest :
    Http.isSupported (sessionRequest endpoint method url id).url = Http.isSupported url :=
  Http.Request.isSupported_ofUrl method url

end

theorem sessionRequest_isWritable (endpoint : Endpoint) (method : Http.Method) (url : Url)
    (h : Http.isHeaderValue id = true) : (sessionRequest endpoint method url id).IsWritable :=
  (Http.Request.ofUrl_isWritable method url).withHeader h

/-- The answer to a request that was served, and the stage after it. -/
structure Answered (endpoint : Endpoint) (response : Http.Response) (hosts : List String)
    (received : Http.Received) (stage : WireStage) : Prop where
  response : received.response = arrived response
  ready : Ready endpoint hosts stage

/-- The answer to a request with a session that may not be known. -/
inductive Tried (endpoint : Endpoint) (response : Http.Response) (hosts after : List String)
    (received : Http.Received) (stage : WireStage) : Prop
  | answered (h : Answered endpoint response after received stage)
  | turnedAway (status : received.response.status = 401) (ready : Ready endpoint hosts stage)

variable {method : Http.Method} {url : Url} {response : List String → Http.Response}
  {change : List String → List String} {server : PiHoleServer} {t : WireStage}

/-- Who holds a session is served. -/
theorem answered_of_isAdmitted (served : IsServed method url response change)
    (haccepts : Accepts server endpoint) (ht : Ready endpoint hosts t)
    (hadmitted : server.isAdmitted (sessionRequest endpoint method url id) = true)
    {network : Network}
    (hnetwork : network.Serves (server.handle (sessionRequest endpoint method url id)).2) :
    Answered endpoint (response server.hosts) (change server.hosts)
      ⟨(sessionRequest endpoint method url id).url,
        arrived (server.handle (sessionRequest endpoint method url id)).1⟩ { t with network } := by
  have hhandle := served.handle (sessionRequest_method ..) (place_sessionRequest ..) hadmitted
  rw [hhandle] at hnetwork ⊢
  exact ⟨rfl, ⟨_, hnetwork, { haccepts with }, rfl⟩, ht.cached⟩

/-- A session that was just granted is known to the Pi-hole. -/
theorem delivers_send_granted (served : IsServed method url response change)
    (hs : Granted endpoint hosts id s.1) : wire.Delivers (Client.send endpoint method url id)
      (fun received t => Answered endpoint (response hosts) (change hosts) received t.1) s := by
  refine Contract.Delivers.bind (delivers_note lasting_granted hs) fun _ s hs => ?_
  have hsupported := (isSupported_sessionRequest endpoint method url id).trans served.supported
  refine delivers_exchange lasting_granted hs hsupported
    (sessionRequest_isWritable endpoint method url hs.written) fun t ht => ?_
  obtain ⟨server, hserves, haccepts, rfl, hid⟩ := ht.served
  refine ⟨server, hserves, fun network hnetwork _ => ?_⟩
  refine answered_of_isAdmitted served haccepts ht.ready ?_ hnetwork
  simp [PiHoleServer.isAdmitted, sessionRequest, Http.Request.withHeader, haccepts.header, hid]

/-- A session that was kept may be known or not. -/
theorem delivers_send_kept (served : IsServed method url response change)
    (hs : Ready endpoint hosts s.1) (hid : Http.isHeaderValue id = true) :
    wire.Delivers (Client.send endpoint method url id)
      (fun received t => Tried endpoint (response hosts) hosts (change hosts) received t.1) s := by
  refine Contract.Delivers.bind (delivers_note lasting_ready hs) fun _ s hs => ?_
  have hsupported := (isSupported_sessionRequest endpoint method url id).trans served.supported
  refine delivers_exchange lasting_ready hs hsupported
    (sessionRequest_isWritable endpoint method url hid) fun t ht => ?_
  obtain ⟨server, hserves, haccepts, rfl⟩ := ht.served
  refine ⟨server, hserves, fun network hnetwork _ => ?_⟩
  cases hadmitted : server.isAdmitted (sessionRequest endpoint method url id) with
  | true => exact .answered (answered_of_isAdmitted served haccepts ht hadmitted hnetwork)
  | false =>
    have hhandle := PiHoleServer.handle_of_not_admitted (by simpa using served.admitted) hadmitted
    rw [hhandle] at hnetwork ⊢
    exact .turnedAway rfl ⟨⟨server, hnetwork, haccepts, rfl⟩, ht.cached⟩

/-- A request is served once, whichever session it was sent with first. -/
theorem delivers_sendWithSession (h : endpoint.Reaches)
    (served : IsServed method url response change) (hs : Ready endpoint hosts s.1) :
    wire.Delivers (Client.sendWithSession endpoint method url)
      (fun received t => Answered endpoint (response hosts) (change hosts) received t.1) s := by
  have hfresh : ∀ s : Side, Ready endpoint hosts s.1 →
      wire.Delivers (Client.authenticate endpoint >>= Client.send endpoint method url)
        (fun received t => Answered endpoint (response hosts) (change hosts) received t.1) s :=
    fun s hs => Contract.Delivers.bind (delivers_authenticate h hs)
      fun _ _ hs => delivers_send_granted served hs
  have hcached : wire.Delivers Wire.cachedId
      (fun id? t => Ready endpoint hosts t.1 ∧
        ∀ id ∈ id?, Http.isHeaderValue id = true) s := by
    refine delivers_lift fun t ht => ?_
    have hready := lasting_ready.drift ht hs
    refine ⟨hready, ?_⟩
    intro id hid
    obtain ⟨session, hsession, rfl⟩ := Option.map_eq_some_iff.mp hid
    exact hready.cached session (Option.eq_some_of_filter_eq_some hsession)
  refine Contract.Delivers.bind hcached ?_
  rintro (_ | id) s ⟨hs, hid⟩
  · exact hfresh s hs
  · refine Contract.Delivers.bind (delivers_send_kept served hs (hid id rfl)) ?_
    rintro received s (hanswered | ⟨hstatus, hs⟩)
    · have hstatus : received.response.status ≠ 401 := by
        simpa [hanswered.response] using served.status hosts
      simp only [hstatus, if_false]
      exact Contract.delivers_pure hanswered
    · simp only [hstatus, if_true]
      exact Contract.Delivers.bind (delivers_note lasting_ready hs) fun _ s hs => hfresh s hs

end

end ClusterDns.PiHole
