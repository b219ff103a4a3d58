import ClusterDns.Http.Basic
import ClusterDns.Program
import ClusterDns.Url.Reference

/-! Exchanges with redirects followed. An answer that points to another place is not passed on: the
request goes to that place instead, up to ten times in a row. -/

namespace ClusterDns.Http

/-- Why a request has no answer. -/
inductive Silence where
  | dropped
  | late
  deriving DecidableEq

/-- The network: one request, one answer or none. -/
def Link : Interface := ⟨Request, fun _ => Except Silence Response⟩

inductive Failure where
  /-- The connection broke, or there never was one. -/
  | dropped (url : Url)
  | late
  | tooManyRedirects (url : Url)
  /-- No request can be sent by the scheme of the URL. -/
  | unsupported (url : Url)
  /-- A header has a value that cannot be written. -/
  | unwritable

/-- What a failure other than a late answer says about itself. -/
def Failure.reason : Failure → String
  | dropped url => s!"error sending request for url ({url.render})"
  | late => "operation timed out"
  | tooManyRedirects url => s!"error following redirect for url ({url.render})"
  | unsupported url => s!"builder error for url ({url.render})"
  | unwritable => "builder error"

/-- An answer, and the URL of the request it is to. -/
structure Received where
  url : Url
  response : Response

def maxRedirects : Nat := 10

def isRedirect (status : Nat) : Bool :=
  status == 301 || status == 302 || status == 303 || status == 307 || status == 308

/-- Whether a request goes on as one for reading only. -/
def becomesGet (status : Nat) (method : Method) : Bool :=
  match method with
  | .get | .head => false
  | .post => status == 301 || status == 302 || status == 303
  | .put | .delete => status == 303

def isSameHost (a b : Url) : Bool :=
  a.host?.map Url.Host.render == b.host?.map Url.Host.render
    && a.port?.or (Url.defaultPort? a.scheme) == b.port?.or (Url.defaultPort? b.scheme)

/-- Headers that are meant for one host. -/
def hostHeaders : List String :=
  ["authorization", "cookie", "cookie2", "proxy-authorization", "www-authenticate"]

/-- Headers about a body. -/
def bodyHeaders : List String :=
  ["content-type", "content-length", "content-encoding", "transfer-encoding"]

/-- Whether a header goes along when a request moves. What is meant for one host does not go to
another, and a request that becomes one for reading only has no body to tell about. -/
def Request.resends (request : Request) (status : Nat) (url : Url) (name : String) : Bool :=
  (isSameHost request.url url || !hostHeaders.contains name)
    && (!becomesGet status request.method || !bodyHeaders.contains name)

/-- The same request for another place. -/
def Request.moved (request : Request) (status : Nat) (url : Url) : Request :=
  let headers := request.headers.filter (request.resends status url ·.name)
  if becomesGet status request.method then { method := .get, url := url.withoutUserinfo, headers }
  else { request with url := url.withoutUserinfo, headers }

/-- The request that an answer asks for in place of the one it is to. -/
def Request.next? (request : Request) (response : Response) : Option Request :=
  if isRedirect response.status then
    match response.location?.map (Url.resolve request.url) with
    | some (.ok url) => some (request.moved response.status url)
    | _ => none
  else none

def isSupported (url : Url) : Bool := url.scheme = "http" || url.scheme = "https"

/-- Sends one request; `goOn` is what becomes of a redirect. -/
def sendOnce (request : Request) (goOn : Request → Program Link (Except Failure Received)) :
    Program Link (Except Failure Received) :=
  if isSupported request.url then
    .ask (I := Link) request fun
      | .error .dropped => .done (.error (.dropped request.url))
      | .error .late => .done (.error .late)
      | .ok response =>
        match request.next? response with
        | none => .done (.ok ⟨request.url, response⟩)
        | some next => goOn next
  else .done (.error (.unsupported request.url))

/-- Sends a request and follows up to as many redirects as it is given. -/
def follow : Nat → Request → Program Link (Except Failure Received)
  | 0, request => sendOnce request fun _ => .done (.error (.tooManyRedirects request.url))
  | n + 1, request => sendOnce request (follow n)

/-- Sends a request whose headers can be written, and follows its redirects. -/
def exchange (request : Request) : Program Link (Except Failure Received) :=
  if request.headers.all (isHeaderValue ·.value) then follow maxRedirects request
  else .done (.error .unwritable)

end ClusterDns.Http
