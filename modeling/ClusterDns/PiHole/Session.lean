import ClusterDns.Time.Duration

/-! Sessions of the Pi-hole API. A session is trusted for a part of the time the server grants it,
and never for more than a day, so a clock that runs a little differently and requests under way do
not meet its end. -/

namespace ClusterDns.PiHole

structure Session where
  id : String
  validUntil : Time.Instant
  deriving DecidableEq

namespace Session

/-- The share of the granted time that is used, in percent. -/
def usablePercent : Nat := 80

def longestUse : Time.Duration := .ofSecs 86400

def usableTime (validity : Time.Duration) : Time.Duration :=
  match validity.mul? usablePercent with
  | none => longestUse
  | some scaled => (scaled.div 100).min longestUse

/-- A session whose end lies beyond the clock's end counts as over at once. -/
def issue (id : String) (validity : Time.Duration) (now : Time.Instant) : Session where
  id := id
  validUntil := (now.add? (usableTime validity)).getD now

def isValidAt (session : Session) (now : Time.Instant) : Bool :=
  !session.id.isEmpty && now.nanos < session.validUntil.nanos

/-- What a client remembers between requests: the last session it was given, if any. -/
abbrev Cache := Option Session

/-- The id a client may send now. -/
def Cache.current (cache : Cache) (now : Time.Instant) : Option String :=
  (Option.filter (·.isValidAt now) cache).map (·.id)

end Session

end ClusterDns.PiHole
