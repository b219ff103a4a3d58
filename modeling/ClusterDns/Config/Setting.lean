/-! The settings of the operator. Each can be given on the command line or in the environment. -/

namespace ClusterDns.Config

inductive Setting where
  | piholeUrl
  | piholePassword
  | defaultTargetIp
  | watchNamespace
  | logLevel
  | apiPath
  | sessionHeader
  | passwordField
  | timeoutSecs
  | gatewayApi
  | probeAddress
  deriving DecidableEq

namespace Setting

/-- In the order in which they are explained and checked. -/
def all : List Setting := [
  piholeUrl, piholePassword, defaultTargetIp, watchNamespace, logLevel, apiPath, sessionHeader,
  passwordField, timeoutSecs, gatewayApi, probeAddress]

/-- The name on the command line, behind two hyphens. -/
def name : Setting → String
  | piholeUrl => "pihole-url"
  | piholePassword => "pihole-password"
  | defaultTargetIp => "default-target-ip"
  | watchNamespace => "watch-namespace"
  | logLevel => "log-level"
  | apiPath => "pihole-api-path"
  | sessionHeader => "pihole-session-header"
  | passwordField => "pihole-password-field"
  | timeoutSecs => "pihole-timeout-secs"
  | gatewayApi => "enable-gateway-api"
  | probeAddress => "health-probe-bind-address"

/-- The name in the environment, which also stands for the value in explanations. -/
def environmentName : Setting → String
  | piholeUrl => "PIHOLE_URL"
  | piholePassword => "PIHOLE_PASSWORD"
  | defaultTargetIp => "DEFAULT_TARGET_IP"
  | watchNamespace => "WATCH_NAMESPACE"
  | logLevel => "LOG_LEVEL"
  | apiPath => "PIHOLE_API_PATH"
  | sessionHeader => "PIHOLE_SESSION_HEADER"
  | passwordField => "PIHOLE_PASSWORD_FIELD"
  | timeoutSecs => "PIHOLE_TIMEOUT_SECS"
  | gatewayApi => "ENABLE_GATEWAY_API"
  | probeAddress => "HEALTH_PROBE_BIND_ADDRESS"

def about : Setting → String
  | piholeUrl => "Pi-hole base URL, e.g. http://pihole.lan"
  | piholePassword => "Pi-hole web password"
  | defaultTargetIp => "IPv4 address hostnames resolve to unless overridden per object"
  | watchNamespace => "Only watch this namespace (all namespaces when unset)"
  | logLevel => "Log level used when RUST_LOG is not set"
  | apiPath => "API path prefix under the Pi-hole URL"
  | sessionHeader => "Header carrying the Pi-hole session id"
  | passwordField => "JSON field holding the password in the auth request"
  | timeoutSecs => "Timeout for each Pi-hole request, in seconds"
  | gatewayApi => "Also watch HTTPRoute, GRPCRoute, TLSRoute and TCPRoute"
  | probeAddress => "Address the health and metrics server listens on"

/-- The value of a setting that is not given. -/
def default? : Setting → Option String
  | logLevel => some "info"
  | apiPath => some "/api"
  | sessionHeader => some "X-FTL-SID"
  | passwordField => some "password"
  | timeoutSecs => some "30"
  | probeAddress => some "0.0.0.0:8081"
  | _ => none

def isRequired : Setting → Bool
  | piholeUrl | piholePassword | defaultTargetIp => true
  | _ => false

/-- A switch is on where it is named, and has no value on the command line. -/
def isSwitch (setting : Setting) : Bool := setting = gatewayApi

/-- Whether explanations leave out the value the environment gives. -/
def isSecret (setting : Setting) : Bool := setting = piholePassword

end Setting

/-- What can be named on the command line. -/
inductive Argument where
  | setting (s : Setting)
  | help
  | version
  deriving DecidableEq

namespace Argument

def all : List Argument := Setting.all.map setting ++ [help, version]

def name : Argument → String
  | setting s => s.name
  | help => "help"
  | version => "version"

def ofName? (s : String) : Option Argument := all.find? (·.name = s)

/-- How an argument is written, with its value if it has one. -/
def shape : Argument → String
  | setting s => if s.isSwitch then s!"--{s.name}" else s!"--{s.name} <{s.environmentName}>"
  | other => s!"--{other.name}"

end Argument

end ClusterDns.Config
