import ClusterDns.Config.Setting
import ClusterDns.Net.SocketAddress
import ClusterDns.Time.Duration

/-! The configuration of the operator, as far as it has been given and as a whole. -/

namespace ClusterDns

structure Config where
  piholeUrl : String
  piholePassword : String
  defaultTargetIp : String
  watchNamespace : Option String := none
  logLevel : String := "info"
  apiPath : String := "/api"
  sessionHeader : String := "X-FTL-SID"
  passwordField : String := "password"
  timeoutSecs : Nat := 30
  gatewayApi : Bool := false
  probeAddress : Net.SocketAddress := .v4 (.ofNat 0) 8081

namespace Config

/-- What has been given so far. -/
structure Draft where
  piholeUrl : Option String := none
  piholePassword : Option String := none
  defaultTargetIp : Option String := none
  watchNamespace : Option String := none
  logLevel : String := "info"
  apiPath : String := "/api"
  sessionHeader : String := "X-FTL-SID"
  passwordField : String := "password"
  timeoutSecs : Nat := 30
  gatewayApi : Bool := false
  probeAddress : Net.SocketAddress := .v4 (.ofNat 0) 8081

namespace Draft

/-- Takes the text given for a setting; a number, a switch or an address must be one. -/
def set? (draft : Draft) (text : String) : Setting → Option Draft
  | .piholeUrl => some { draft with piholeUrl := some text }
  | .piholePassword => some { draft with piholePassword := some text }
  | .defaultTargetIp => some { draft with defaultTargetIp := some text }
  | .watchNamespace => some { draft with watchNamespace := some text }
  | .logLevel => some { draft with logLevel := text }
  | .apiPath => some { draft with apiPath := text }
  | .sessionHeader => some { draft with sessionHeader := text }
  | .passwordField => some { draft with passwordField := text }
  | .timeoutSecs =>
    (Text.unsigned? Time.secsBound text.toList).map fun n => { draft with timeoutSecs := n }
  | .gatewayApi =>
    if text = "true" then some { draft with gatewayApi := true }
    else if text = "false" then some { draft with gatewayApi := false }
    else none
  | .probeAddress =>
    (Net.SocketAddress.parse? text).map fun address => { draft with probeAddress := address }

/-- The required settings that are missing. -/
def missing (draft : Draft) : List Setting :=
  (if draft.piholeUrl.isNone then [.piholeUrl] else [])
    ++ (if draft.piholePassword.isNone then [.piholePassword] else [])
    ++ if draft.defaultTargetIp.isNone then [.defaultTargetIp] else []

def complete? (draft : Draft) : Option Config := do
  return {
    piholeUrl := ← draft.piholeUrl
    piholePassword := ← draft.piholePassword
    defaultTargetIp := ← draft.defaultTargetIp
    watchNamespace := draft.watchNamespace
    logLevel := draft.logLevel
    apiPath := draft.apiPath
    sessionHeader := draft.sessionHeader
    passwordField := draft.passwordField
    timeoutSecs := draft.timeoutSecs
    gatewayApi := draft.gatewayApi
    probeAddress := draft.probeAddress }

end Draft

end Config

end ClusterDns
