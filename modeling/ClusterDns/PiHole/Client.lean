import ClusterDns.Http.Status
import ClusterDns.PiHole.Answer
import ClusterDns.PiHole.Settings
import ClusterDns.PiHole.Store
import ClusterDns.PiHole.Wire
import ClusterDns.Text.Blank

/-! The client of a Pi-hole. Requests carry the id of a session; the first one asks for a session,
and one that is refused asks for a new session once and is sent again. -/

namespace ClusterDns.PiHole.Client

/-- What an answer with a status nobody expects is about: its text, or the phrase of its status. -/
def apiError (response : Http.Response) : Error :=
  let text := response.text
  let message := if Text.isBlankText text.toList
    then (Http.statusPhrase? response.status).getD "no response body" else text
  .api response.status message

def unreadable (url : Url) (received : Http.Received) : Error :=
  .decode url.render s!"error decoding response body for url ({received.url.render})"

/-- Asks for a session and keeps it. -/
def authenticate (endpoint : Endpoint) : Talk String := do
  let url := endpoint.authUrl
  Wire.note .debug "Authenticating with Pi-hole" [("url", url.render)]
  let received ← Wire.exchange url ((Http.Request.ofUrl .post url).withJson
    (.object [(endpoint.passwordField, .string endpoint.password)]))
  if received.response.status = 401 then
    Wire.forget
    Wire.note .warn "Pi-hole rejected the configured password" [("url", url.render)]
    throw (.passwordRejected 401)
  else if received.response.status ≠ 200 then throw (apiError received.response)
  else
    match Answer.grant? received.response.body with
    | none => throw (unreadable url received)
    | some grant =>
      ExceptT.lift (Wire.ask (.note ⟨.debug, "Pi-hole session established",
        [("validity_secs", .number grant.validity.secs)]⟩))
      Wire.keep grant.id grant.validity
      return grant.id

/-- Sends one request with the id of a session. -/
def send (endpoint : Endpoint) (method : Http.Method) (url : Url) (id : String) :
    Talk Http.Received := do
  Wire.note .debug "HTTP API request to Pi-hole" [("method", method.name), ("url", url.render)]
  Wire.exchange url
    ((Http.Request.ofUrl method url).withHeader ⟨endpoint.sessionHeader.toLower, id⟩)

/-- Sends a request with the session that is kept, or with a new one. Only the refusal of a session
that was kept is worth a second try. -/
def sendWithSession (endpoint : Endpoint) (method : Http.Method) (url : Url) :
    Talk Http.Received := do
  match ← Wire.cachedId with
  | none => send endpoint method url (← authenticate endpoint)
  | some id =>
    let received ← send endpoint method url id
    if received.response.status = 401 then
      Wire.note .debug "Pi-hole session rejected, re-authenticating"
        [("method", method.name), ("url", url.render)]
      send endpoint method url (← authenticate endpoint)
    else return received

/-- The records of the list of hosts. Lines that are no record are passed over. -/
def list (endpoint : Endpoint) : Talk (List Record) := do
  let url := endpoint.hostsUrl
  let received ← sendWithSession endpoint .get url
  if received.response.status = 200 then
    match Answer.hosts? received.response.body with
    | some entries => return entries.filterMap Record.ofEntry?
    | none => throw (unreadable url received)
  else throw (apiError received.response)

def create (endpoint : Endpoint) (record : Record) : Talk Unit := do
  let received ← sendWithSession endpoint .put (endpoint.entryUrl record.toEntry)
  unless [200, 201, 204].contains received.response.status do throw (apiError received.response)

/-- Deletes the first record of a name. The entry may be gone by the time it is to be deleted. -/
def delete (endpoint : Endpoint) (domain : String) : Talk Unit := do
  let records ← list endpoint
  match records.find? (·.domain = domain) with
  | none => Wire.note .debug "No Pi-hole record to delete" [("domain", domain)]
  | some record =>
    let received ← sendWithSession endpoint .delete (endpoint.entryUrl record.toEntry)
    unless [200, 204, 404].contains received.response.status do throw (apiError received.response)

/-- Serves as a keeper of DNS records. -/
def keeper (endpoint : Endpoint) : (q : StoreRequest) → Program Wire q.Answer
  | .list => (list endpoint).run
  | .create record => (create endpoint record).run
  | .delete domain => (delete endpoint domain).run

/-- Whether the Pi-hole answers and accepts the password. -/
def isHealthy (endpoint : Endpoint) : Program Wire Bool :=
  (list endpoint).run >>= fun
    | .ok _ => .done true
    | .error e =>
      Wire.ask (.note ⟨.debug, "Pi-hole health check failed", [("error", .text e.message)]⟩) >>=
        fun _ => .done false

end ClusterDns.PiHole.Client
