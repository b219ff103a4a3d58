import ClusterDns.Http.Header
import ClusterDns.Json.Basic
import ClusterDns.Text.Base64
import ClusterDns.Text.Utf8
import ClusterDns.Url.Basic

/-! Requests and answers. -/

namespace ClusterDns.Http

inductive Method where
  | get
  | post
  | put
  | delete
  | head
  deriving DecidableEq

def Method.name : Method → String
  | get => "GET"
  | post => "POST"
  | put => "PUT"
  | delete => "DELETE"
  | head => "HEAD"

/-- A request. Its URL has neither name nor password, which go into a header of their own. -/
structure Request where
  method : Method
  url : Url
  headers : List Header := []
  body : Option Json := none

structure Response where
  status : Nat
  location? : Option String := none
  body : List UInt8 := []

/-- The body as text; bytes that are no text are replaced. -/
def Response.text (response : Response) : String :=
  String.ofList (Text.Utf8.decodeLossy response.body)

/-- The text that percent-encoding stands for, if it is one. -/
def decoded? (s : String) : Option (List Char) := Text.Utf8.decode? (Url.Percent.decode s.toList)

/-- The header that name and password of a URL become. -/
def authorization? (url : Url) : Option Header :=
  if url.username = "" && url.password?.isNone then none
  else (decoded? url.username).map fun name =>
    let password := (url.password?.bind decoded?).getD []
    ⟨"authorization",
      "Basic " ++ String.ofList (Text.Base64.encode (Text.Utf8.encode (name ++ ':' :: password)))⟩

/-- A request for a URL, whose name and password move into a header. -/
def Request.ofUrl (method : Method) (url : Url) : Request :=
  match authorization? url with
  | some header => { method, url := url.withoutUserinfo, headers := [header] }
  | none => { method, url }

/-- Adds a body of JSON. -/
def Request.withJson (request : Request) (body : Json) : Request :=
  { request with
    headers := request.headers ++ [⟨"content-type", "application/json"⟩]
    body := some body }

def Request.withHeader (request : Request) (header : Header) : Request :=
  { request with headers := request.headers ++ [header] }

end ClusterDns.Http
