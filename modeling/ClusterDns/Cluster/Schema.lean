import ClusterDns.Cluster.Kind
import ClusterDns.Cluster.Shape

/-! The shapes of the objects the API server keeps, as far as they are read. -/

namespace ClusterDns.Cluster.Schema

open Shape

def ownerReference : Shape := optionals [
  ("apiVersion", text), ("blockOwnerDeletion", flag), ("controller", flag), ("kind", text),
  ("name", text), ("uid", text)]

def managedFields : Shape := optionals [
  ("apiVersion", text), ("fieldsType", text), ("fieldsV1", anything), ("manager", text),
  ("operation", text), ("subresource", text), ("time", timestamp)]

/-- What every object carries about itself. -/
def metadata : Shape := optionals [
  ("annotations", map text), ("creationTimestamp", timestamp),
  ("deletionGracePeriodSeconds", int64), ("deletionTimestamp", timestamp),
  ("finalizers", list text), ("generateName", text), ("generation", int64), ("labels", map text),
  ("managedFields", list managedFields), ("name", text), ("namespace", text),
  ("ownerReferences", list ownerReference), ("resourceVersion", text), ("selfLink", text),
  ("uid", text)]

def backend : Shape := optionals [
  ("resource", optionals [("apiGroup", text), ("kind", text), ("name", text)]),
  ("service", optionals [
    ("name", text), ("port", optionals [("name", text), ("number", int32)])])]

def ingressRule : Shape := optionals [
  ("host", text),
  ("http", optionals [
    ("paths", list (optionals [("backend", backend), ("path", text), ("pathType", text)]))])]

def ingressSpec : Shape := optionals [
  ("defaultBackend", backend), ("ingressClassName", text), ("rules", list ingressRule),
  ("tls", list (optionals [("hosts", list text), ("secretName", text)]))]

def ingressStatus : Shape := optionals [
  ("loadBalancer", optionals [
    ("ingress", list (optionals [
      ("hostname", text), ("ip", text),
      ("ports", list (optionals [("error", text), ("port", int32), ("protocol", text)]))]))])]

def ingress : Shape := .record [
  ("apiVersion", oneOf [Kind.ingress.apiVersion]), ("kind", oneOf [Kind.ingress.name]),
  ("metadata", nullable metadata), ("spec", nullable ingressSpec),
  ("status", nullable ingressStatus)]

/-- A route of the gateway kinds with the given fields in its specification. -/
def route (spec : List (String × Shape)) : Shape :=
  .record [("metadata", metadata), ("spec", optionals spec)]

def ofKind : Kind → Shape
  | .ingress => ingress
  | .httpRoute | .grpcRoute | .tlsRoute => route [("hostnames", list text)]
  | .tcpRoute => route []

/-- The server's account of a failure. -/
def status : Shape := .record [
  ("status", nullable (oneOf ["Success", "Failure"])), ("code", .whole 0 65535),
  ("message", text),
  ("metadata", nullable (optionals [
    ("continue", text), ("remainingItemCount", int64), ("resourceVersion", text),
    ("selfLink", text)])),
  ("reason", text),
  ("details", nullable (.record [
    ("name", text), ("group", text), ("kind", text), ("uid", text),
    ("causes", list (.record [("reason", text), ("message", text), ("field", text)])),
    ("retryAfterSeconds", .whole 0 4294967295)]))]

end ClusterDns.Cluster.Schema
