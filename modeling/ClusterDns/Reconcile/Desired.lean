import ClusterDns.Net.Ipv4
import ClusterDns.Text.CommaList

/-! What an object asks for through its annotations: whether it takes part, the hostnames it wants
records for, the address they are to have, and the hostnames it was given records for before. -/

namespace ClusterDns.Reconcile

abbrev Annotations := List (String × String)

namespace Key

def register : String := "pihole.io/register"
def targetIp : String := "pihole.io/target-ip"
def hosts : String := "pihole.io/hosts"
def managedHosts : String := "pihole.io/managed-hosts"

end Key

namespace Annotations

def get? (annotations : Annotations) (key : String) : Option String := annotations.lookup key

/-- Only the one spelling counts. -/
def isRegistered (annotations : Annotations) : Bool :=
  annotations.get? Key.register == some "true"

/-- The hostnames of the annotation if it names any, else those of the object's own rules. -/
def hosts (annotations : Annotations) (declared : List String) : List String :=
  match (annotations.get? Key.hosts).map Text.CommaList.parse with
  | some (host :: rest) => host :: rest
  | _ => declared.filter (· ≠ "")

/-- The address of the annotation, which must be an IPv4 literal; the default if it is missing or
empty. -/
def target? (annotations : Annotations) (default : String) : Option String :=
  match annotations.get? Key.targetIp with
  | none => some default
  | some address =>
    if address = "" then some default
    else if Net.Ipv4.isLiteral address then some address
    else none

/-- The hostnames recorded as managed. -/
def managed (annotations : Annotations) : List String :=
  ((annotations.get? Key.managedHosts).map Text.CommaList.parse).getD []

end Annotations

/-- Keeps the first of equal hostnames. -/
def distinct : List String → List String
  | [] => []
  | host :: rest => host :: (distinct rest).filter (· ≠ host)

end ClusterDns.Reconcile
