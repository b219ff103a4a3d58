/-! What can go wrong between a client and a Pi-hole, by cause. Callers do not read the text of an
error: they ask whether another try may help, and take the label for counting. -/

namespace ClusterDns.PiHole

inductive Error where
  /-- An answer with a status the request does not expect. -/
  | api (status : Nat) (message : String)
  /-- The password was refused. -/
  | passwordRejected (status : Nat)
  /-- No answer in time. -/
  | timeout (url : String)
  /-- No answer at all. -/
  | transport (url reason : String)
  /-- An answer that cannot be read. -/
  | decode (url reason : String)
  /-- Settings from which no request can be made. -/
  | invalidUrl (reason : String)
  deriving DecidableEq

namespace Error

def message : Error → String
  | api status message => s!"pihole api error (status {status}): {message}"
  | passwordRejected status => s!"pihole rejected the configured password (status {status})"
  | timeout url => s!"request to {url} timed out"
  | transport url reason => s!"request to {url} failed: {reason}"
  | decode url reason => s!"failed to decode pihole response from {url}: {reason}"
  | invalidUrl reason => s!"invalid pihole url: {reason}"

/-- The status of the answer, if there was one. -/
def status? : Error → Option Nat
  | api status _ => some status
  | passwordRejected status => some status
  | _ => none

/-- Statuses that refuse the request itself, so that the same request fails again. -/
def refusesRequest (status : Nat) : Bool :=
  status == 400 || status == 405 || status == 413 || status == 414 || status == 422

def isRetryable : Error → Bool
  | api status _ => !refusesRequest status
  | passwordRejected _ | invalidUrl _ => false
  | timeout _ | transport .. | decode .. => true

def label : Error → String
  | api status _ =>
    if refusesRequest status then "PiholeBadRequest"
    else if status == 401 || status == 403 then "PiholeUnauthorized"
    else if status == 404 then "PiholeNotFound"
    else if 500 ≤ status && status ≤ 599 then "PiholeServerError"
    else "PiholeUnexpectedStatus"
  | passwordRejected _ => "PiholeAuthenticationRejected"
  | timeout _ => "PiholeTimeout"
  | transport .. => "PiholeUnreachable"
  | decode .. => "PiholeInvalidResponse"
  | invalidUrl _ => "PiholeInvalidUrl"

end Error

end ClusterDns.PiHole
