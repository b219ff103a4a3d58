/-! What can go wrong between a client and the cluster's API server. -/

namespace ClusterDns.Cluster

/-- The server's account of a request that failed. -/
structure Status where
  code : Nat
  message : String
  reason : String
  deriving DecidableEq

inductive Error where
  | refused (status : Status)
  /-- The request's path is no path. -/
  | unsendable
  /-- The request got no answer. -/
  | unanswered
  /-- The answer is no object of the kind asked for. -/
  | unreadable
  /-- A line of a stream is too long. -/
  | lineTooLong
  deriving DecidableEq

namespace Error

def message : Error → String
  | refused status => s!"{status.message}: {status.reason} (code {status.code})"
  | unsendable => "the request cannot be built"
  | unanswered => "the service did not answer"
  | unreadable => "the answer cannot be read"
  | lineTooLong => "a line is too long"

end Error

end ClusterDns.Cluster
