import ClusterDns.Json.Fields
import ClusterDns.Json.Reader
import ClusterDns.Text.Utf8
import ClusterDns.Time.Duration

/-! What the bodies of a Pi-hole's answers say. Fields that are not asked for do not count; a field
that has a default may be missing, but it may not be null. -/

namespace ClusterDns.PiHole.Answer

def value? (body : List UInt8) : Option Json := (Text.Utf8.decode? body).bind Json.parse?

/-- A session that is granted. -/
structure Grant where
  id : String
  validity : Time.Duration
  deriving DecidableEq

def string? : Option Json → Option String
  | none => some ""
  | some (.string s) => some s
  | some _ => none

/-- A time in seconds, a whole number of 64 bits. -/
def time? : Option Json → Option Time.Duration
  | none => Time.Duration.ofParts? 0 0
  | some value => value.nat?.bind (Time.Duration.ofParts? · 0)

def texts? : Option Json → Option (List String)
  | none => some []
  | some value => value.items?.bind (·.mapM Json.string?)

def grant? (body : List UInt8) : Option Grant := do
  let answer ← (← value? body).fields? ["session"]
  let session ← (← answer.get? "session").fields? ["sid", "validity"]
  return ⟨← string? (session.get? "sid"), ← time? (session.get? "validity")⟩

/-- The entries of the list of hosts. -/
def hosts? (body : List UInt8) : Option (List String) := do
  let answer ← (← value? body).fields? ["config"]
  let config ← (← answer.get? "config").fields? ["dns"]
  let dns ← (← config.get? "dns").fields? ["hosts"]
  texts? (dns.get? "hosts")

end ClusterDns.PiHole.Answer
