import ClusterDns.Cluster.Error
import ClusterDns.Cluster.Object
import ClusterDns.Json.Reader
import ClusterDns.Json.Printer
import ClusterDns.Journal
import ClusterDns.Program

/-! Talking to the API server about single objects: what a request looks like, and what an answer
means. An object that does not exist is an answer like any other, not an error. -/

namespace ClusterDns.Cluster

/-- The two requests on one object. A patch is a JSON merge patch. -/
inductive Verb where
  | get
  | patch (body : Json)

def Verb.name : Verb → String
  | get => "GET"
  | patch _ => "PATCH"

structure ApiRequest where
  verb : Verb
  uri : String

inductive Body where
  | json (value : Json)
  | text (s : String)

namespace Body

/-- The value of a body, if it is JSON. -/
def value? : Body → Option Json
  | json value => some value
  | text s => Json.parse? s.toList

def toText : Body → String
  | json value => value.render
  | text s => s

end Body

structure ApiAnswer where
  status : Nat
  body : Body

/-- Requests may go without an answer. -/
inductive ApiQuestion where
  | send (request : ApiRequest)
  | note (entry : Journal.Entry)

def ApiInterface : Interface where
  Request := ApiQuestion
  Answer
    | .send _ => Option ApiAnswer
    | .note _ => Unit

namespace Api

/-- Characters that may stand in a path as they are. -/
def isPathChar (c : Char) : Bool :=
  let n := c.toNat
  n == 0x21 || n == 0x22 || (0x24 ≤ n && n ≤ 0x3B) || n == 0x3D || (0x40 ≤ n && n ≤ 0x5F)
    || (0x61 ≤ n && n ≤ 0x7E) || 0x80 ≤ n

/-- Characters that may stand after the first question mark. -/
def isQueryChar (c : Char) : Bool :=
  let n := c.toNat
  n == 0x21 || (0x24 ≤ n && n ≤ 0x3B) || n == 0x3D || (0x3F ≤ n && n ≤ 0x7E) || 0x80 ≤ n

/-- The text sent for a path: it ends at a number sign, and nothing in it is escaped. -/
def uri? (path : String) : Option String :=
  let sent := path.toList.takeWhile (· != '#')
  let query := sent.dropWhile (· != '?')
  if (sent.takeWhile (· != '?')).all isPathChar && (query.drop 1).all isQueryChar
  then some (String.ofList sent) else none

/-- The path of one object, which must have a name. -/
def objectPath? (kind : Kind) (ref : ObjectRef) : Option String :=
  if ref.name = "" then none
  else some (kind.collectionPath (some ref.namespaceName) ++ "/" ++ ref.name)

def request? (kind : Kind) (ref : ObjectRef) (verb : Verb) : Option ApiRequest := do
  let path ← objectPath? kind ref
  let uri ← uri? (match verb with
    | .get => path
    | .patch _ => path ++ "?")
  return ⟨verb, uri⟩

def Status.ofJson? (json : Json) : Option Status :=
  let json := Manifest.byName ["status", "code", "message", "metadata", "reason", "details"] json
  if Schema.status.accepts json then
    some ⟨(json.get "code").nat?.getD 0, (json.get "message").string?.getD "",
      (json.get "reason").string?.getD ""⟩
  else none

/-- A failure whose account cannot be read is told by its status and its text. -/
def statusOf (answer : ApiAnswer) : Status :=
  (answer.body.value?.bind Status.ofJson?).getD
    ⟨answer.status, answer.body.toText, "Failed to parse error data"⟩

def read (kind : Kind) (answer : ApiAnswer) : Except Error Object :=
  if 400 ≤ answer.status && answer.status < 600 then .error (.refused (statusOf answer))
  else
    match answer.body.value?.bind (Manifest.read? kind) with
    | some object => .ok object
    | none => .error .unreadable

def send (request : ApiRequest) : Program ApiInterface (Option ApiAnswer) :=
  .ask (ApiQuestion.send request) .done

def exchange (kind : Kind) (ref : ObjectRef) (verb : Verb) : Attempt ApiInterface Error Object :=
  match request? kind ref verb with
  | none => throw .unsendable
  | some request => do
    match ← send request with
    | none => throw .unanswered
    | some answer => ExceptT.mk (.done (read kind answer))

/-- The object, or nothing if the server says by its reason that there is none. -/
def get (kind : Kind) (ref : ObjectRef) : Program ApiInterface (Except Error (Option Object)) :=
  (exchange kind ref .get).run >>= fun
    | .ok object => .done (.ok (some object))
    | .error (.refused status) =>
      .done (if status.reason = "NotFound" then .ok none else .error (.refused status))
    | .error e => .done (.error e)

def vanished (kind : Kind) (ref : ObjectRef) : Journal.Entry where
  level := .debug
  message := "Object vanished before patch"
  fields := [("kind", .text kind.name), ("namespace", .text ref.namespaceName),
    ("name", .text ref.name)]

/-- The object as patched, or nothing if the server says by its code that there is none. -/
def patch (kind : Kind) (ref : ObjectRef) (body : Json) :
    Program ApiInterface (Except Error (Option Object)) :=
  (exchange kind ref (.patch body)).run >>= fun
    | .ok object => .done (.ok (some object))
    | .error (.refused status) =>
      if status.code = 404 then
        .ask (ApiQuestion.note (vanished kind ref)) fun _ => .done (.ok none)
      else .done (.error (.refused status))
    | .error e => .done (.error e)

end Api

end ClusterDns.Cluster
