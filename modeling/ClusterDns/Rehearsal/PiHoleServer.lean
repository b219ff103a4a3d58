import ClusterDns.Http.Basic
import ClusterDns.Json.Printer
import ClusterDns.Json.Reader
import ClusterDns.Text.Blank

/-! A model of a Pi-hole's API: a list of hosts that only holders of a session may read or change,
and a password for which sessions are granted. -/

namespace ClusterDns.Rehearsal

structure PiHoleServer where
  hosts : List String := []
  password : String := "secret"
  passwordField : String := "password"
  sessionHeader : String := "x-ftl-sid"
  /-- The time in seconds that is told with each session. -/
  validitySecs : Nat := 300
  /-- The sessions that are not forgotten. -/
  sessions : List String := []
  /-- How many sessions have been granted. -/
  granted : Nat := 0

namespace PiHoleServer

/-- An answer with a body of JSON. -/
def withJson (status : Nat) (body : Json) : Http.Response :=
  { status, body := Text.Utf8.encode body.render.toList }

def bare (status : Nat) : Http.Response := { status }

def failure (status : Nat) (key message : String) : Http.Response :=
  withJson status
    (.object [("error", .object [("key", .string key), ("message", .string message)])])

/-- The segments of the path below the API, without their encoding. -/
def place (url : Url) : Option (List String) :=
  match url.path with
  | .segments ("api" :: rest) =>
    some (rest.map fun s => String.ofList (Text.Utf8.decodeLossy (Url.Percent.decode s.toList)))
  | _ => none

/-- The second field of an entry. -/
def domainOf (entry : String) : Option (List Char) := (Text.fields entry.toList)[1]?

def grant (server : PiHoleServer) : Http.Response × PiHoleServer :=
  let id := s!"sid-{server.granted + 1}"
  (withJson 200 (.object [("session", .object [
      ("valid", .bool true), ("sid", .string id), ("csrf", .string "csrf"),
      ("validity", .ofNat server.validitySecs)])]),
    { server with sessions := server.sessions ++ [id], granted := server.granted + 1 })

def hasPassword (server : PiHoleServer) (request : Http.Request) : Bool :=
  match request.body with
  | some body => (body.get server.passwordField).string? == some server.password
  | none => false

def isAdmitted (server : PiHoleServer) (request : Http.Request) : Bool :=
  request.headers.any fun header =>
    header.name == server.sessionHeader && server.sessions.contains header.value

def hostsAnswer (server : PiHoleServer) : Http.Response :=
  withJson 200 (.object [("config", .object [("dns", .object [
    ("hosts", .array (server.hosts.map .string))])])])

/-- Appends an entry, unless there is one of the same name. -/
def put (server : PiHoleServer) (entry : String) : Http.Response × PiHoleServer :=
  if server.hosts.any fun other => domainOf other == domainOf entry then
    (failure 400 "bad_request" "Item already present", server)
  else (bare 201, { server with hosts := server.hosts ++ [entry] })

/-- Removes the first entry that is exactly the given one. -/
def delete (server : PiHoleServer) (entry : String) : Http.Response × PiHoleServer :=
  if server.hosts.contains entry then (bare 204, { server with hosts := server.hosts.erase entry })
  else (bare 404, server)

def handle (server : PiHoleServer) (request : Http.Request) : Http.Response × PiHoleServer :=
  match request.method, place request.url with
  | .post, some ["auth"] =>
    if server.hasPassword request then server.grant
    else (failure 401 "unauthorized" "Unauthorized", server)
  | method, place =>
    if !server.isAdmitted request then (bare 401, server)
    else
      match method, place with
      | .get, some ["config", "dns", "hosts"] => (server.hostsAnswer, server)
      | .put, some ["config", "dns", "hosts", entry] => server.put entry
      | .delete, some ["config", "dns", "hosts", entry] => server.delete entry
      | _, _ => (bare 404, server)

end PiHoleServer

end ClusterDns.Rehearsal
