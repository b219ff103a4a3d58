import ClusterDns.Config.Basic
import ClusterDns.PiHole.Settings
import ClusterDns.Unicode.Lowercase

/-! Checking a configuration. What is left is ready for use: the log level is in small letters, and
an empty namespace means all. -/

namespace ClusterDns.Config

inductive Fault where
  | invalidUrl (value reason : String)
  | noPassword
  | invalidTargetIp (value : String)
  | invalidLogLevel (value : String)
  | invalidSessionHeader (value : String)
  | noPasswordField
  | noTimeout
  deriving DecidableEq

open Text.Quoted (quote) in
def Fault.message : Fault → String
  | invalidUrl value reason => s!"invalid Pi-hole URL {quote value}: {reason}"
  | noPassword => "Pi-hole password must not be empty"
  | invalidTargetIp value => s!"default target IP {quote value} is not an IPv4 address"
  | invalidLogLevel value =>
    s!"invalid log level {quote value} (expected one of debug, info, warn, error)"
  | invalidSessionHeader value => s!"invalid Pi-hole session header {quote value}"
  | noPasswordField => "Pi-hole password field must not be empty"
  | noTimeout => "Pi-hole timeout must be greater than zero"

def logLevels : List String := ["debug", "info", "warn", "error"]

/-- Why a text is no URL of a Pi-hole. -/
def urlFault? (text : String) : Option Fault :=
  match Url.parse text with
  | .error e => some (.invalidUrl text e.message)
  | .ok url =>
    if url.scheme = "http" || url.scheme = "https" then none
    else some (.invalidUrl text "scheme must be http or https")

/-- The settings as they are used. -/
def normal (config : Config) : Config :=
  { config with
    logLevel := Unicode.lowercase config.logLevel
    watchNamespace := config.watchNamespace.filter (· ≠ "") }

/-- The first thing wrong with a configuration. -/
def fault? (config : Config) : Option Fault :=
  (urlFault? config.piholeUrl) <|>
  (if config.piholePassword = "" then some .noPassword else none) <|>
  (if Net.Ipv4.isLiteral config.defaultTargetIp then none
    else some (.invalidTargetIp config.defaultTargetIp)) <|>
  (if logLevels.contains config.normal.logLevel then none
    else some (.invalidLogLevel config.normal.logLevel)) <|>
  (if Http.isHeaderName config.sessionHeader then none
    else some (.invalidSessionHeader config.sessionHeader)) <|>
  (if config.passwordField = "" then some .noPasswordField else none) <|>
  (if config.timeoutSecs = 0 then some .noTimeout else none)

def validate (config : Config) : Except Fault Config :=
  match config.fault? with
  | some fault => .error fault
  | none => .ok config.normal

/-- What the client needs to know. -/
def clientSettings (config : Config) : PiHole.Settings where
  baseUrl := config.piholeUrl
  password := config.piholePassword
  apiPath := config.apiPath
  sessionHeader := config.sessionHeader
  passwordField := config.passwordField
  timeoutSecs := config.timeoutSecs

end ClusterDns.Config
