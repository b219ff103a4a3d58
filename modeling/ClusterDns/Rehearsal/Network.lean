import ClusterDns.PiHole.Client
import ClusterDns.PiHole.Session
import ClusterDns.Rehearsal.PiHoleServer
import ClusterDns.Rehearsal.Schedule
import ClusterDns.Rehearsal.Stage

/-! A stage on which a client talks to a Pi-hole: a network that may be down, somebody who answers,
and the session the client keeps. -/

namespace ClusterDns.Rehearsal

/-- What becomes of one request. -/
inductive Reply where
  | answered (response : Http.Response)
  | silent (why : Http.Silence)

/-- Who answers: somebody with prepared replies, or a Pi-hole in whose place others may answer. -/
inductive Responder where
  | script (replies : List Reply)
  | server (server : PiHoleServer) (schedule : Schedule String Reply)

namespace Responder

def deliver : Responder → Http.Request → Reply × Responder
  | script [], _ =>
    (.answered { status := 500, body := Text.Utf8.encode "script exhausted".toList }, script [])
  | script (reply :: rest), _ => (reply, script rest)
  | server piHole schedule, request =>
    let (effect, schedule) := schedule.meet request.method.name
    match effect with
    | some reply => (reply, server piHole schedule)
    | none =>
      let (response, piHole) := piHole.handle request
      (.answered response, server piHole schedule)

/-- Changes the Pi-hole, if there is one. -/
def update (f : PiHoleServer → PiHoleServer) : Responder → Responder
  | server piHole schedule => server (f piHole) schedule
  | script replies => script replies

def hosts : Responder → List String
  | server piHole _ => piHole.hosts
  | script _ => []

end Responder

structure Network where
  /-- Requests over a network that is down reach nobody. -/
  isUp : Bool := true
  responder : Responder
  /-- The requests that reached somebody, the last one first. -/
  requests : List Http.Request := []

namespace Network

/-- Answers without a body, whatever is said to be in it. -/
def isBodiless (status : Nat) : Bool := status == 204 || status == 304

def answer : Program.Surroundings Http.Link Network
  | request, network =>
    if !network.isUp then (.error .dropped, network)
    else
      let (reply, responder) := network.responder.deliver request
      let network := { network with responder, requests := request :: network.requests }
      match reply with
      | .silent why => (.error why, network)
      | .answered response =>
        (.ok (if isBodiless response.status then { response with body := [] } else response),
          network)

end Network

/-- A client's side of the network. No time passes on it. -/
structure WireStage where
  cache : PiHole.Session.Cache := none
  now : Time.Instant := ⟨0⟩
  network : Network

namespace WireStage

/-- Runs over a stage and a journal, the last entry of which comes first. -/
def answer : Program.Surroundings PiHole.Wire (WireStage × List Journal.Entry)
  | .cachedId, (stage, journal) => (stage.cache.current stage.now, (stage, journal))
  | .keep id validity, (stage, journal) =>
    ((), ({ stage with cache := some (.issue id validity stage.now) }, journal))
  | .forget, (stage, journal) => ((), ({ stage with cache := none }, journal))
  | .exchange request, (stage, journal) =>
    let (reply, network) := (Http.exchange request).run Network.answer stage.network
    (reply, ({ stage with network }, journal))
  | .note entry, (stage, journal) => ((), (stage, entry :: journal))

/-- A client as the keeper of DNS records. -/
def keeper (endpoint : PiHole.Endpoint) : Keeper WireStage
  | q, s => (PiHole.Client.keeper endpoint q).run answer s

end WireStage

end ClusterDns.Rehearsal
