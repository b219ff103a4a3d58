import ClusterDns.Journal
import ClusterDns.Metrics.Exposition
import ClusterDns.Net.SocketAddress
import ClusterDns.Text.Split

/-! The endpoints through which others watch the operator: whether it runs, whether it can do its
work, and what it has counted. They can only be read. -/

namespace ClusterDns.Health

/-- What came of asking whether the Pi-hole is healthy. -/
inductive Check where
  | healthy
  | unhealthy
  /-- It did not answer in time. -/
  | unfinished
  deriving DecidableEq

/-- How long the question may take. -/
def readinessTimeoutSecs : Nat := 5

inductive Endpoint where
  | liveness
  | readiness
  | metrics
  deriving DecidableEq

namespace Endpoint

def path : Endpoint → String
  | liveness => "/healthz"
  | readiness => "/readyz"
  | metrics => "/metrics"

/-- The endpoint of a target, whose query and fragment do not count. -/
def ofTarget? (target : String) : Option Endpoint :=
  let path := String.ofList (target.toList.takeWhile fun c => c != '?' && c != '#')
  [liveness, readiness, metrics].find? (·.path = path)

end Endpoint

structure Answer where
  status : Nat
  contentType : Option String := none
  allow : Option String := none
  body : String := ""
  /-- What is said about the request. -/
  entries : List Journal.Entry := []
  deriving DecidableEq

namespace Answer

def text (status : Nat) (body : String) (entries : List Journal.Entry := []) : Answer :=
  { status, contentType := some "text/plain; charset=utf-8", body, entries }

def notFound : Answer := { status := 404 }

def notAllowed : Answer := { status := 405, allow := some "GET,HEAD" }

end Answer

def notReady (cause : String) : List Journal.Entry :=
  [⟨.debug, "Readiness check failed: " ++ cause, []⟩]

def readiness : Check → Answer
  | .healthy => .text 200 "ok"
  | .unhealthy => .text 503 "pihole unhealthy" (notReady "Pi-hole unhealthy")
  | .unfinished =>
    .text 503 "pihole health check timed out" (notReady "Pi-hole health check timed out")

/-- What an endpoint says to somebody who reads it. -/
def Endpoint.answer (check : Check) (registry : Metrics.Registry) : Endpoint → Answer
  | liveness => .text 200 "ok"
  | readiness => Health.readiness check
  | metrics => .text 200 registry.text

/-- Answers a request. One for the head alone is answered like one for all, without the body. -/
def answer (method target : String) (check : Check) (registry : Metrics.Registry) : Answer :=
  match Endpoint.ofTarget? target with
  | none => .notFound
  | some endpoint =>
    if method = "GET" then endpoint.answer check registry
    else if method = "HEAD" then { endpoint.answer check registry with body := "" }
    else .notAllowed

def listening (address : Net.SocketAddress) : Journal.Entry :=
  ⟨.info, "Health server listening", [("address", .text address.render)]⟩

/-- Why there is no server at an address. -/
def bindFault (address : Net.SocketAddress) : String :=
  s!"failed to bind health server to {address.render}"

end ClusterDns.Health
