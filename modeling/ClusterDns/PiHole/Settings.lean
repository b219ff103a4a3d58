import ClusterDns.Http.Header
import ClusterDns.PiHole.Error
import ClusterDns.Text.Quoted
import ClusterDns.Text.Split
import ClusterDns.Url.Parser

/-! Where a Pi-hole is and how to talk to it, and the URLs its requests go to. -/

namespace ClusterDns.PiHole

structure Settings where
  baseUrl : String
  password : String
  apiPath : String := "/api"
  /-- The header that carries the session id. -/
  sessionHeader : String := "X-FTL-SID"
  /-- The member that carries the password when a session is asked for. -/
  passwordField : String := "password"
  timeoutSecs : Nat := 30

/-- Settings that have been checked. -/
structure Endpoint where
  base : Url
  password : String
  sessionHeader : String
  passwordField : String

namespace Endpoint

/-- The segments of a path, empty ones left out. -/
def pathSegments (path : String) : List String :=
  ((Text.splitOn (· == '/') path.toList).filter (!·.isEmpty)).map String.ofList

/-- The URL all requests go below. -/
def apiBase (baseUrl apiPath : String) : Except Error Url :=
  match Url.parse baseUrl with
  | .error e => .error (.invalidUrl s!"{baseUrl}: {e.message}")
  | .ok url =>
    match url.path with
    | .text _ => .error (.invalidUrl s!"{baseUrl} cannot be used as a base URL")
    | .segments list =>
      let path := .segments (Url.dropEmptyLast list)
      .ok (Url.extend { url with path } (pathSegments apiPath))

def ofSettings (settings : Settings) : Except Error Endpoint := do
  let base ← apiBase settings.baseUrl settings.apiPath
  if Http.isHeaderName settings.sessionHeader then
    return { base, password := settings.password, sessionHeader := settings.sessionHeader
             passwordField := settings.passwordField }
  else
    let header := Text.Quoted.quote settings.sessionHeader
    throw (.invalidUrl s!"invalid session header {header}: invalid HTTP header name")

def authUrl (endpoint : Endpoint) : Url := endpoint.base.push "auth"

def hostsUrl (endpoint : Endpoint) : Url := endpoint.base.extend ["config", "dns", "hosts"]

/-- The URL of one entry, which is a single segment whatever it holds. -/
def entryUrl (endpoint : Endpoint) (entry : String) : Url := endpoint.hostsUrl.push entry

end Endpoint

end ClusterDns.PiHole
