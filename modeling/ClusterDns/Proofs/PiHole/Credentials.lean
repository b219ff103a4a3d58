import ClusterDns.Proofs.Http.Redirect
import ClusterDns.Proofs.PiHole.EntryUrl
import ClusterDns.Proofs.PiHole.Race
import ClusterDns.Proofs.Program.Contract

/-! Where the id of a session and the password go. Every request a client makes is for the server of
its settings. But an exchange follows redirects, and takes the header with the id along to wherever
they lead, and the body with the password if the method stays. So both stay with that server exactly
as long as nobody who is sent one of them answers with such a redirect to another. -/

namespace ClusterDns

/-- The part of a URL that tells which server its requests go to. -/
def Url.site (url : Url) : String × Option Url.Host × Option Nat :=
  (url.scheme, url.host?, url.port?)

namespace Url

@[simp] theorem site_withoutUserinfo (url : Url) : url.withoutUserinfo.site = url.site := rfl

@[simp] theorem site_push (url : Url) (segment : String) : (url.push segment).site = url.site := by
  rw [push_path]
  rfl

@[simp] theorem site_extend (url : Url) (segments : List String) :
    (url.extend segments).site = url.site := by
  rw [extend_path]
  rfl

end Url

@[simp] theorem Http.Request.site_ofUrl (method : Http.Method) (url : Url) :
    (Http.Request.ofUrl method url).url.site = url.site := by
  unfold Http.Request.ofUrl
  split <;> rfl

namespace PiHole

open Http (Hop SentOn Chain)
open Rehearsal (Network WireStage)

/-! ## The requests a client makes -/

/-- What a client is there for: keeping records, and telling whether the Pi-hole is well. -/
inductive Duty where
  | keep (q : StoreRequest)
  | checkHealth

abbrev Duty.Answer : Duty → Type
  | keep q => q.Answer
  | checkHealth => Bool

def Service : Interface := ⟨Duty, Duty.Answer⟩

def Client.serve (endpoint : Endpoint) : (q : Duty) → Program Wire q.Answer
  | .keep q => Client.keeper endpoint q
  | .checkHealth => Client.isHealthy endpoint

/-- The request is for the server of the endpoint, and only a POST has a body. -/
structure Endpoint.Makes (endpoint : Endpoint) (request : Http.Request) : Prop where
  site : request.url.site = endpoint.base.site
  posted : request.body ≠ none → request.method = .post

def Endpoint.Asks (endpoint : Endpoint) : Wire.Request → Prop
  | .exchange request => endpoint.Makes request
  | .cachedId | .keep .. | .forget | .note _ => True

section

variable {endpoint : Endpoint} {α : Type}

abbrev Endpoint.AsksOnly (endpoint : Endpoint) (x : Talk α) : Prop :=
  Contract.Only endpoint.Asks x.run

theorem asksOnly_lift {q : Wire.Request} (h : endpoint.Asks q) :
    endpoint.AsksOnly (ExceptT.lift (Wire.ask q)) := ⟨h, fun _ => trivial⟩

theorem asksOnly_note (level : Journal.Level) (message : String) (fields : List (String × String)) :
    endpoint.AsksOnly (Wire.note level message fields) := asksOnly_lift trivial

theorem asksOnly_exchange (url : Url) {request : Http.Request} (h : endpoint.Makes request) :
    endpoint.AsksOnly (Wire.exchange url request) := by
  have hask : Contract.Only endpoint.Asks (Wire.ask (.exchange request)) := ⟨h, fun _ => trivial⟩
  exact hask.rephrase _

theorem makes_authRequest : endpoint.Makes (authRequest endpoint) where
  site := by simp [authRequest, Http.Request.withJson, Endpoint.authUrl]
  posted := by simp [authRequest, Http.Request.withJson]

theorem makes_sessionRequest (method : Http.Method) {url : Url}
    (h : url.site = endpoint.base.site) (id : String) :
    endpoint.Makes (sessionRequest endpoint method url id) where
  site := by simp [sessionRequest, Http.Request.withHeader, h]
  posted := by simp [sessionRequest, Http.Request.withHeader]

theorem asksOnly_authenticate : endpoint.AsksOnly (Client.authenticate endpoint) := by
  unfold Client.authenticate
  refine (asksOnly_note ..).attempt fun _ => ?_
  refine (asksOnly_exchange _ makes_authRequest).attempt fun received => ?_
  split
  · exact (asksOnly_lift (q := .forget) trivial).attempt fun _ =>
      (asksOnly_note ..).attempt fun _ => trivial
  · split
    · trivial
    · split
      · trivial
      · exact (asksOnly_lift (q := .note _) trivial).attempt fun _ =>
          (asksOnly_lift (q := .keep ..) trivial).attempt fun _ => trivial

variable {url : Url} (h : url.site = endpoint.base.site)

include h

theorem asksOnly_send (method : Http.Method) (id : String) :
    endpoint.AsksOnly (Client.send endpoint method url id) :=
  (asksOnly_note ..).attempt fun _ => asksOnly_exchange _ (makes_sessionRequest method h id)

theorem asksOnly_sendWithSession (method : Http.Method) :
    endpoint.AsksOnly (Client.sendWithSession endpoint method url) := by
  have hfresh : endpoint.AsksOnly
      (Client.authenticate endpoint >>= Client.send endpoint method url) :=
    asksOnly_authenticate.attempt (asksOnly_send h method)
  unfold Client.sendWithSession
  refine (asksOnly_lift (q := .cachedId) trivial).attempt fun id? => ?_
  cases id? with
  | none => exact hfresh
  | some id =>
    refine (asksOnly_send h method id).attempt fun received => ?_
    split
    · exact (asksOnly_note ..).attempt fun _ => hfresh
    · trivial

omit h

theorem asksOnly_list : endpoint.AsksOnly (Client.list endpoint) := by
  unfold Client.list
  refine (asksOnly_sendWithSession (Url.site_extend ..) .get).attempt fun received => ?_
  split
  · split <;> trivial
  · trivial

theorem site_entryUrl (entry : String) : (endpoint.entryUrl entry).site = endpoint.base.site := by
  simp [Endpoint.entryUrl, Endpoint.hostsUrl]

theorem asksOnly_serve (q : Duty) : Contract.Only endpoint.Asks (Client.serve endpoint q) := by
  match q with
  | .keep .list => exact asksOnly_list
  | .keep (.create record) =>
    refine (asksOnly_sendWithSession (site_entryUrl _) .put).attempt fun received => ?_
    split <;> trivial
  | .keep (.delete domain) =>
    refine asksOnly_list.attempt fun records => ?_
    split
    · exact asksOnly_note ..
    · refine (asksOnly_sendWithSession (site_entryUrl _) .delete).attempt fun received => ?_
      split <;> trivial
  | .checkHealth =>
    refine Contract.Only.bind asksOnly_list fun listed => ?_
    cases listed with
    | ok records => trivial
    | error e => exact ⟨trivial, fun _ => trivial⟩

end

/-! ## What is not for others -/

namespace Endpoint

variable (endpoint : Endpoint)

/-- The request has the header for the id of a session. -/
def HasSession (request : Http.Request) : Prop :=
  ∃ header ∈ request.headers, header.name = endpoint.sessionHeader.toLower

/-- The request tells the password. -/
def HasPassword (request : Http.Request) : Prop :=
  request.body = some (.object [(endpoint.passwordField, .string endpoint.password)])

def IsSecret (request : Http.Request) : Prop :=
  endpoint.HasSession request ∨ endpoint.HasPassword request

/-- One of them is told to the place as well, if the request moves there. A redirect takes the
header along wherever it leads, unless it is one of those that are not for other hosts, and the body
only if it leaves the method as it is. -/
def CarriesOn (request : Http.Request) (status : Nat) (place : Url) : Prop :=
  endpoint.HasSession request ∧ request.resends status place endpoint.sessionHeader.toLower = true ∨
    endpoint.HasPassword request ∧ (status = 307 ∨ status = 308)

end Endpoint

section

variable {endpoint : Endpoint} {request : Http.Request} {status : Nat} {place : Url}

theorem hasSession_moved : endpoint.HasSession (request.moved status place) ↔
    endpoint.HasSession request ∧
      request.resends status place endpoint.sessionHeader.toLower = true := by
  simp only [Endpoint.HasSession, Http.Request.mem_headers_moved]
  constructor
  · intro ⟨header, ⟨hmem, hresends⟩, hname⟩
    rw [hname] at hresends
    exact ⟨⟨header, hmem, hname⟩, hresends⟩
  · intro ⟨⟨header, hmem, hname⟩, hresends⟩
    rw [← hname] at hresends
    exact ⟨header, ⟨hmem, hresends⟩, hname⟩

theorem hasPassword_moved (posted : request.body ≠ none → request.method = .post)
    (redirect : Http.isRedirect status = true) :
    endpoint.HasPassword (request.moved status place) ↔
      endpoint.HasPassword request ∧ (status = 307 ∨ status = 308) := by
  unfold Endpoint.HasPassword
  rw [Http.Request.body_moved]
  constructor
  · intro h
    split at h
    · cases h
    · rename_i hstays
      rw [posted (by simp [h])] at hstays
      simp [Http.isRedirect] at redirect
      simp [Http.becomesGet] at hstays
      exact ⟨h, by omega⟩
  · intro ⟨h, hstatus⟩
    have hstays : Http.becomesGet status request.method = false := by
      rcases hstatus with rfl | rfl <;> cases request.method <;> rfl
    simp [hstays, h]

theorem isSecret_moved (posted : request.body ≠ none → request.method = .post)
    (redirect : Http.isRedirect status = true) :
    endpoint.IsSecret (request.moved status place) ↔ endpoint.CarriesOn request status place :=
  or_congr hasSession_moved (hasPassword_moved posted redirect)

/-- On the way of one request its secrets stay with the server as long as no answer takes them to
another. -/
theorem Endpoint.Makes.stays_iff (first : endpoint.Makes request) {n : Nat} {hops : List Hop}
    (chain : Chain n request hops) :
    (∀ hop ∈ hops, endpoint.IsSecret hop.request → hop.request.url.site = endpoint.base.site) ↔
      ∀ hop ∈ hops.take n, ∀ status place, SentOn hop status place →
        endpoint.CarriesOn hop.request status place → place.site = endpoint.base.site := by
  -- a body goes along only as long as the method stays, so on the whole way only a POST has one
  have posted : ∀ hop ∈ hops, hop.request.body ≠ none → hop.request.method = .post := by
    refine chain.forall_mem (P := fun request => request.body ≠ none → request.method = .post)
      first.posted ?_
    intro hop _ status place _ h
    rw [Http.Request.body_moved, Http.Request.method_moved]
    split
    · intro hnone
      exact absurd rfl hnone
    · exact h
  have hsecret : ∀ hop ∈ hops.take n, ∀ status place, SentOn hop status place →
      (endpoint.IsSecret (hop.request.moved status place) ↔
        endpoint.CarriesOn hop.request status place) := by
    intro hop hmem status place sent
    exact isSecret_moved (posted hop (List.mem_of_mem_take hmem)) sent.isRedirect
  constructor
  · -- what an answer takes along is in the next hop, which is there as it is not the last one
    intro stays hop hmem status place sent carries
    obtain ⟨reply, hnext⟩ := chain.mem_of_sentOn hmem sent
    have hsite := stays _ hnext ((hsecret hop hmem status place sent).mpr carries)
    rwa [Http.Request.moved_url, Url.site_withoutUserinfo] at hsite
  · intro h
    refine chain.forall_mem
      (P := fun request => endpoint.IsSecret request → request.url.site = endpoint.base.site)
      (fun _ => first.site) ?_
    intro hop hmem status place sent _ secret
    rw [Http.Request.moved_url, Url.site_withoutUserinfo]
    exact h hop hmem status place sent ((hsecret hop hmem status place sent).mp secret)

end

/-! ## Whole runs -/

/-- How the replies to messages have come about: each message was one exchange, with these hops. -/
def Carried (found : List Message) (chains : List (List Hop)) : Prop :=
  List.Forall₂ (fun message hops => ∃ log, hops = Http.hopsOf log ∧
    Dialogue (Http.exchange message.request) log message.reply) found chains

theorem Carried.exists_message {found : List Message} {chains : List (List Hop)}
    (h : Carried found chains) {hops : List Hop} (hmem : hops ∈ chains) :
    ∃ message ∈ found, ∃ log, hops = Http.hopsOf log ∧
      Dialogue (Http.exchange message.request) log message.reply := by
  induction h with
  | nil => cases hmem
  | cons first rest ih =>
    rcases List.mem_cons.mp hmem with rfl | hmem
    · exact ⟨_, List.mem_cons_self, first⟩
    · obtain ⟨message, hmessage, h⟩ := ih hmem
      exact ⟨message, List.mem_cons_of_mem _ hmessage, h⟩

theorem makes_of_mem_messages {endpoint : Endpoint} {log : List (Exchange Wire)}
    (h : ∀ exchange ∈ log, endpoint.Asks exchange.1) :
    ∀ message ∈ messages log, endpoint.Makes message.request := by
  intro message hmem
  obtain ⟨exchange, hexchange, hsome⟩ := List.mem_filterMap.mp hmem
  have hasks := h exchange hexchange
  split at hsome
  · cases hsome
    exact hasks
  · cases hsome

theorem Endpoint.exists_of_ofSettings {settings : Settings} {endpoint : Endpoint}
    (h : ofSettings settings = .ok endpoint) :
    ∃ url, Url.parse settings.baseUrl = .ok url ∧ endpoint.base.site = url.site := by
  unfold ofSettings at h
  cases hbase : apiBase settings.baseUrl settings.apiPath with
  | error e =>
    rw [hbase] at h
    cases h
  | ok base =>
    obtain ⟨url, list, hurl, rfl⟩ := exists_of_apiBase hbase
    rw [hbase] at h
    -- what is left is the check of the header's name
    change (if _ then _ else _) = _ at h
    split at h
    · cases h
      exact ⟨url, hurl, rfl⟩
    · cases h

/-- Whatever a client is used for, and whoever answers: all its requests are made for the server
that the settings name. The id of a session and the password reach nobody else exactly if no answer
to a request that carries one of them takes it along to another server. The last answer of an
exchange that has used up its redirects takes nothing anywhere. -/
theorem credentials_stay_iff {settings : Settings} {endpoint : Endpoint}
    (accepted : Endpoint.ofSettings settings = .ok endpoint) {α : Type} {use : Program Service α}
    {log : List (Exchange Wire)} {value : α}
    (run : Dialogue (use.substitute (Client.serve endpoint)) log value)
    {chains : List (List Hop)} (carried : Carried (messages log) chains) :
    ∃ url, Url.parse settings.baseUrl = .ok url ∧
      (∀ message ∈ messages log, message.request.url.site = url.site) ∧
      ((∀ hops ∈ chains, ∀ hop ∈ hops, endpoint.IsSecret hop.request →
          hop.request.url.site = url.site) ↔
        ∀ hops ∈ chains, ∀ hop ∈ hops.take Http.maxRedirects, ∀ status place,
          SentOn hop status place → endpoint.CarriesOn hop.request status place →
            place.site = url.site) := by
  obtain ⟨url, hurl, hsite⟩ := Endpoint.exists_of_ofSettings accepted
  have hmakes := makes_of_mem_messages
    (Dialogue.forall_mem (Contract.Only.substitute asksOnly_serve use) run)
  refine ⟨url, hurl, ?_⟩
  rw [← hsite]
  refine ⟨fun message hmem => (hmakes message hmem).site, forall₂_congr fun hops hmem => ?_⟩
  obtain ⟨message, hmessage, log, rfl, hsent⟩ := carried.exists_message hmem
  rcases Http.chain_of_exchange hsent with rfl | chain
  · simp [Http.hopsOf]
  · exact (hmakes message hmessage).stays_iff chain

/-- The hops of messages over a rehearsed network, one message after the other. -/
def rehearsedHops : List Message → Network → List (List Hop)
  | [], _ => []
  | message :: rest, network =>
    Http.hopsOf (Dialogue.transcript Network.answer (Http.exchange message.request) network) ::
      rehearsedHops rest ((Http.exchange message.request).run Network.answer network).2

/-- On a rehearsed stage the network answers for every hop. -/
theorem carried_rehearsed {α : Type} (p : Program Wire α) (s : WireStage × List Journal.Entry) :
    Carried (messages (Dialogue.transcript WireStage.answer p s))
      (rehearsedHops (messages (Dialogue.transcript WireStage.answer p s)) s.1.network) := by
  induction p generalizing s with
  | done a => exact .nil
  | ask q next ih =>
    cases q with
    | exchange request => exact .cons ⟨_, rfl, Dialogue.dialogue_transcript ..⟩ (ih ..)
    | cachedId | keep id validity | forget | note entry => exact ih ..

def luredSettings : Settings where
  baseUrl := "http://pihole.lan"
  password := "secret"

/-- A client with a session asks for the list of hosts and is sent to another host. -/
def lured : WireStage where
  cache := some ⟨"s1", ⟨1⟩⟩
  network := { responder := .script [.answered
    { status := 302, location? := some "http://elsewhere.lan/api/config/dns/hosts" }] }

def luredLog (endpoint : Endpoint) : List (Exchange Wire) :=
  Dialogue.transcript WireStage.answer
    ((Program.call (I := Service) (.keep .list)).substitute (Client.serve endpoint)) (lured, [])

def luredHops (endpoint : Endpoint) : List (List Hop) :=
  rehearsedHops (messages (luredLog endpoint)) lured.network

/-- It goes there with its session. -/
theorem credentials_stay_iff_of_lured :
    ∃ endpoint url, Endpoint.ofSettings luredSettings = .ok endpoint ∧
      Url.parse luredSettings.baseUrl = .ok url ∧
      Carried (messages (luredLog endpoint)) (luredHops endpoint) ∧
      (∃ hops ∈ luredHops endpoint, ∃ hop ∈ hops,
        endpoint.HasSession hop.request ∧ hop.request.url.site ≠ url.site) ∧
      ∃ hops ∈ luredHops endpoint, ∃ hop ∈ hops.take Http.maxRedirects, ∃ status place,
        SentOn hop status place ∧ endpoint.CarriesOn hop.request status place ∧
          place.site ≠ url.site := by
  have hleaves : (Endpoint.ofSettings luredSettings).toOption.map (fun endpoint =>
      (luredHops endpoint).any fun hops => hops.any fun hop =>
        hop.request.headers.any (·.name = endpoint.sessionHeader.toLower) &&
          hop.request.url.host?.map Url.Host.render = some "elsewhere.lan") = some true := by
    decide +kernel
  have hhome : (Url.parse luredSettings.baseUrl).toOption.map (·.host?.map Url.Host.render) =
      some (some "pihole.lan") := by decide +kernel
  cases accepted : Endpoint.ofSettings luredSettings with
  | error e =>
    rw [accepted] at hleaves
    cases hleaves
  | ok endpoint =>
    have carried : Carried (messages (luredLog endpoint)) (luredHops endpoint) :=
      carried_rehearsed _ (lured, [])
    obtain ⟨url, hurl, -, hiff⟩ := credentials_stay_iff accepted
      (Dialogue.dialogue_transcript WireStage.answer _ (lured, [])) carried
    rw [accepted] at hleaves
    simp only [Except.toOption, Option.map_some, Option.some.injEq, List.any_eq_true,
      Bool.and_eq_true, decide_eq_true_eq] at hleaves
    obtain ⟨hops, hhops, hop, hhop, hsession, hhost⟩ := hleaves
    have haway : hop.request.url.site ≠ url.site := by
      intro h
      have hsame : hop.request.url.host? = url.host? := congrArg (·.2.1) h
      rw [hsame] at hhost
      simp [hurl, Except.toOption, hhost] at hhome
    refine ⟨endpoint, url, rfl, hurl, carried, ⟨hops, hhops, hop, hhop, hsession, haway⟩, ?_⟩
    by_contra hnone
    refine haway (hiff.mpr ?_ hops hhops hop hhop (.inl hsession))
    intro hops hhops hop hhop status place sent carries
    by_contra h
    exact hnone ⟨hops, hhops, hop, hhop, status, place, sent, carries, h⟩

end PiHole

end ClusterDns
