/-! The kinds of object that route traffic for hostnames, and where the API server keeps them. -/

namespace ClusterDns.Cluster

inductive Kind where
  | ingress
  | httpRoute
  | grpcRoute
  | tlsRoute
  | tcpRoute
  deriving DecidableEq

namespace Kind

def name : Kind → String
  | ingress => "Ingress"
  | httpRoute => "HTTPRoute"
  | grpcRoute => "GRPCRoute"
  | tlsRoute => "TLSRoute"
  | tcpRoute => "TCPRoute"

def ofName? : String → Option Kind
  | "Ingress" => some ingress
  | "HTTPRoute" => some httpRoute
  | "GRPCRoute" => some grpcRoute
  | "TLSRoute" => some tlsRoute
  | "TCPRoute" => some tcpRoute
  | _ => none

def apiVersion : Kind → String
  | ingress => "networking.k8s.io/v1"
  | httpRoute | grpcRoute => "gateway.networking.k8s.io/v1"
  | tlsRoute | tcpRoute => "gateway.networking.k8s.io/v1alpha2"

def plural : Kind → String
  | ingress => "ingresses"
  | httpRoute => "httproutes"
  | grpcRoute => "grpcroutes"
  | tlsRoute => "tlsroutes"
  | tcpRoute => "tcproutes"

/-- The path of a collection: of one namespace, or of all. -/
def collectionPath (kind : Kind) : Option String → String
  | some ns => s!"/apis/{kind.apiVersion}/namespaces/{ns}/{kind.plural}"
  | none => s!"/apis/{kind.apiVersion}/{kind.plural}"

theorem ofName?_name (kind : Kind) : ofName? kind.name = some kind := by cases kind <;> rfl

end Kind

end ClusterDns.Cluster
