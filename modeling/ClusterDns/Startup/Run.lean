import ClusterDns.Config.Explanation
import ClusterDns.Config.Validation
import ClusterDns.Health.Endpoint
import ClusterDns.PiHole.Client
import ClusterDns.Startup.LogFilter

/-! From the start to the first word with the cluster: the configuration is read and checked, the
Pi-hole is asked once, and a Pi-hole that does not answer is no reason to give up. -/

namespace ClusterDns.Startup

open Health (Check)
open PiHole (Wire)

/-- How a start ends, with what is left on the two outputs. -/
structure Ending where
  exitCode : Nat
  output : String := ""
  complaint : String := ""
  /-- What of the log is written. -/
  filter : LogFilter := []
  deriving Inhabited

namespace Ending

def ofStop (environment : String → Option String) (stop : Config.Stop) : Ending :=
  let text := stop.text environment
  if stop.isFault then { exitCode := stop.exitCode, complaint := text }
  else { exitCode := stop.exitCode, output := text }

/-- An end on account of an error. -/
def failed (filter : LogFilter) (message : String) : Ending :=
  { exitCode := 1, complaint := "Error: " ++ message ++ "\n", filter }

end Ending

/-- How long the first question to the Pi-hole may take. -/
def timeoutSecs : Nat := 10

/-- What is said first. -/
def starting (config : Config) : Journal.Entry where
  level := .info
  message := "Starting Pi-hole operator"
  fields := [
    ("pihole_url", .text config.piholeUrl),
    ("default_target_ip", .text config.defaultTargetIp),
    ("watch_namespace", .text (config.watchNamespace.getD "<all>")),
    ("gateway_api", .flag config.gatewayApi)]

def checked : Check → Journal.Entry
  | .healthy => ⟨.info, "Pi-hole reachable and authenticated", []⟩
  | .unhealthy =>
    ⟨.warn, "Pi-hole health check failed, continuing; reconciles will retry", []⟩
  | .unfinished =>
    ⟨.warn, "Pi-hole health check timed out, continuing; reconciles will retry",
      [("timeout_secs", .number timeoutSecs)]⟩

def note (entry : Journal.Entry) : Program Wire Unit := PiHole.Wire.ask (.note entry)

/-- Asks the Pi-hole for its records. Where one request may take longer than the whole question, a
late answer leaves the question open. -/
def check (endpoint : PiHole.Endpoint) (requestSecs : Nat) : Program Wire Check :=
  (PiHole.Client.list endpoint).run >>= fun
    | .ok _ => .done .healthy
    | .error e =>
      match e, decide (timeoutSecs ≤ requestSecs) with
      | .timeout _, true => .done .unfinished
      | e, _ =>
        note ⟨.debug, "Pi-hole health check failed", [("error", .text e.message)]⟩ >>=
          fun _ => .done .unhealthy

/-- Without a cluster to be found, the start ends where it would be talked to. -/
def withoutCluster : String := "Failed to infer configuration"

def proceed (config : Config) (filter : LogFilter) : Program Wire Ending := do
  note (starting config)
  match PiHole.Endpoint.ofSettings config.clientSettings with
  | .error e => return .failed filter e.message
  | .ok endpoint =>
    let state ← check endpoint config.timeoutSecs
    note (checked state)
    note ⟨.debug, "Initializing Kubernetes client", []⟩
    return .failed filter withoutCluster

def run (arguments : List String) (environment : String → Option String) : Program Wire Ending :=
  match Config.CommandLine.read arguments environment with
  | .error stop => .done (.ofStop environment stop)
  | .ok config =>
    match config.validate with
    | .error fault => .done (.failed [] fault.message)
    | .ok config => proceed config (LogFilter.choose (environment "RUST_LOG") config.logLevel)

/-- Whether the log is written as JSON. -/
def writesJson (environment : String → Option String) : Bool :=
  ((environment "RUST_LOG_FORMAT").map Unicode.lowercase) == some "json"

end ClusterDns.Startup
