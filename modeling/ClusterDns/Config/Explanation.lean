import ClusterDns.Config.CommandLine

/-! What the operator says about its command line, on demand and when something is wrong with it. -/

namespace ClusterDns.Config

def programName : String := "pihole-operator"

def programVersion : String := "0.1.0"

def required : List Argument := (Setting.all.filter (·.isRequired)).map Argument.setting

/-- The arguments that lead to a result, and before them what may be given besides; where it is
known which arguments are used, they stand in place of that. -/
def usage (used : List Argument) : String :=
  let extra := (used.filter fun argument => !required.contains argument).eraseDups
  let shown := required ++ extra
  " ".intercalate
    (["Usage:", programName] ++ (if used.isEmpty then ["[OPTIONS]"] else [])
      ++ shown.map Argument.shape)

/-- What the environment says about a setting, and the value it has otherwise. -/
def sources (environment : String → Option String) (setting : Setting) : String :=
  let name := setting.environmentName
  let value := (environment name).getD ""
  let fromEnvironment :=
    if setting.isSecret then s!" [env: {name}]" else s!" [env: {name}={value}]"
  match setting.default? with
  | some default => s!"{fromEnvironment} [default: {default}]"
  | none => fromEnvironment

def explain (environment : String → Option String) : Argument → String
  | .setting s =>
    let argument := Argument.setting s
    s!"      {argument.shape}\n          {s.about}{sources environment s}\n"
  | .help => "  -h, --help\n          Print help\n"
  | .version => "  -V, --version\n          Print version\n"

def help (environment : String → Option String) : String :=
  "Keeps Pi-hole local DNS records in sync with Ingress and Gateway API routes\n\n"
    ++ usage [] ++ "\n\nOptions:\n" ++ String.join (Argument.all.map (explain environment))

/-- Why digits write no number of 64 bits: the first of them that is none, or goes too far. -/
def numberFault : Nat → List Char → String
  | _, [] => "number too large to fit in target type"
  | n, c :: rest =>
    match Text.decimal? [c] with
    | none => "invalid digit found in string"
    | some d =>
      if n * 10 + d < Time.secsBound then numberFault (n * 10 + d) rest
      else "number too large to fit in target type"

/-- Why a text is no value of a setting. -/
def valueFault (setting : Setting) (value : String) : String :=
  match setting, value.toList with
  | .timeoutSecs, [] => "cannot parse integer from empty string"
  | .timeoutSecs, ['+'] => "invalid digit found in string"
  | .timeoutSecs, '+' :: digits => numberFault 0 digits
  | .timeoutSecs, digits => numberFault 0 digits
  | _, _ => "invalid socket address syntax"

def tip (kind text : String) : String := s!"\n\n  tip: a similar {kind} exists: '{text}'"

namespace Stop

/-- What is wrong, without what could be done about it. -/
def complaint : Stop → String
  | help | version => ""
  | unknown argument similar _ =>
    s!"unexpected argument '{argument}' found"
      ++ match similar with
        | some other => tip "argument" s!"--{other.name}"
        | none => ""
  | needlessValue argument value _ =>
    s!"unexpected value '{value}' for '--{argument.name}' found; no more were expected"
  | repeated setting =>
    let argument := Argument.setting setting
    s!"the argument '{argument.shape}' cannot be used multiple times"
  | noValue setting =>
    let argument := Argument.setting setting
    s!"a value is required for '{argument.shape}' but none was supplied"
  | invalidValue setting value =>
    let argument := Argument.setting setting
    if setting.isSwitch then
      (if value = "" then s!"a value is required for '{argument.shape}' but none was supplied"
        else s!"invalid value '{value}' for '{argument.shape}'")
        ++ "\n  [possible values: true, false]"
        ++ match Text.Similarity.closest? value ["true", "false"] with
          | some other => tip "value" other
          | none => ""
    else
      let reason := valueFault setting value
      s!"invalid value '{value}' for '{argument.shape}': {reason}"
  | missing settings _ =>
    "the following required arguments were not provided:"
      ++ String.join (settings.map fun setting => "\n  " ++ (Argument.setting setting).shape)

/-- The usage shown with a complaint. -/
def usage? : Stop → Option String
  | unknown _ _ used | needlessValue _ _ used => some (usage used)
  | missing settings used => some (usage (used ++ settings.map Argument.setting))
  | repeated _ => some (usage [])
  | _ => none

/-- The whole text: on standard output what was asked for, on standard error what is wrong. -/
def text (environment : String → Option String) : Stop → String
  | help => Config.help environment
  | version => s!"{programName} {programVersion}\n"
  | stop =>
    let usage := match stop.usage? with
      | some usage => "\n\n" ++ usage
      | none => ""
    "error: " ++ stop.complaint ++ usage ++ "\n\nFor more information, try '--help'.\n"

def isFault : Stop → Bool
  | help | version => false
  | _ => true

def exitCode (stop : Stop) : Nat := if stop.isFault then 2 else 0

end Stop

end ClusterDns.Config
