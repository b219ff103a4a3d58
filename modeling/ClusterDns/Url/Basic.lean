import ClusterDns.Net.Ipv6
import ClusterDns.Url.Percent

/-! URLs. Every part is kept in the form in which it is written, so writing a URL is putting its
parts together. -/

namespace ClusterDns

inductive Url.Host where
  | name (text : String)
  | ipv4 (address : Net.Ipv4)
  | ipv6 (address : Net.Ipv6)

/-- A path of segments, or a text that has none. -/
inductive Url.Path where
  | segments (list : List String)
  | text (s : String)

structure Url where
  scheme : String
  username : String := ""
  password? : Option String := none
  host? : Option Url.Host := none
  /-- The port, if it is not the default of the scheme. -/
  port? : Option Nat := none
  path : Url.Path
  query? : Option String := none
  fragment? : Option String := none

namespace Url

def Host.render : Host → String
  | name text => text
  | ipv4 address => address.render
  | ipv6 address => "[" ++ address.render ++ "]"

def Path.render : Path → String
  | segments list => String.join (list.map ("/" ++ ·))
  | text s => s

/-- Schemes whose URLs have a host and a path in any case, and a default port. -/
def defaultPort? : String → Option Nat
  | "http" | "ws" => some 80
  | "https" | "wss" => some 443
  | "ftp" => some 21
  | _ => none

def isSpecialScheme (scheme : String) : Bool := scheme = "file" || (defaultPort? scheme).isSome

def isSpecial (url : Url) : Bool := isSpecialScheme url.scheme

def userinfo (url : Url) : String :=
  let password := match url.password? with
    | some password => ":" ++ password
    | none => ""
  if url.username = "" && url.password? = none then "" else url.username ++ password ++ "@"

def portText (url : Url) : String :=
  match url.port? with
  | some port => ":" ++ toString port
  | none => ""

/-- What stands between the scheme and the path. Without a host, a path that starts with two slashes
is kept apart from the scheme, since what follows would read as a host. -/
def authority (url : Url) : String :=
  match url.host?, url.path with
  | some host, _ => "//" ++ url.userinfo ++ host.render ++ url.portText
  | none, .segments ("" :: _ :: _) => "/."
  | none, _ => ""

def optionalPart (mark : String) : Option String → String
  | some text => mark ++ text
  | none => ""

def render (url : Url) : String :=
  url.scheme ++ ":" ++ url.authority ++ url.path.render ++ optionalPart "?" url.query?
    ++ optionalPart "#" url.fragment?

def withoutUserinfo (url : Url) : Url := { url with username := "", password? := none }

def withoutFragment (url : Url) : Url := { url with fragment? := none }

/-- Drops the empty segment that a slash at the end leaves. -/
def dropEmptyLast : List String → List String
  | [] => []
  | [only] => [only]
  | first :: rest => if rest = [""] then [first] else first :: dropEmptyLast rest

def segmentSet (url : Url) : Percent.CharSet :=
  if url.isSpecial then Percent.specialSegment else Percent.segment

/-- A segment without the line ends and tabs in it, which do not count in a URL. -/
def visible (s : List Char) : List Char := s.filter fun c => c != '\t' && c != '\n' && c != '\r'

/-- Adds a segment at the end of a path. A path of nothing but its slash takes it as its first. -/
def Path.push (written : String) : Path → Path
  | segments [""] => segments [written]
  | segments list => segments (list ++ [written])
  | text s => text s

/-- The place above the one a path leads to. -/
def Path.parent : Path → Path
  | segments list => segments (list.dropLast ++ [""])
  | text s => text s

/-- Adds a segment, which may hold any text. The two segments that mean the place itself and the one
above are passed over, but not where they come about only by leaving out what does not count. -/
def push (url : Url) (segment : String) : Url :=
  if segment = "." || segment = ".." then url
  else
    match visible segment.toList with
    | ['.'] => { url with path := url.path.push "" }
    | ['.', '.'] => { url with path := url.path.parent }
    | written => { url with path := url.path.push (Percent.encode url.segmentSet written) }

def extend (url : Url) (segments : List String) : Url := segments.foldl push url

end Url

end ClusterDns
