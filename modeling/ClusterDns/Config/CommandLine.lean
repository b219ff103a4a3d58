import ClusterDns.Config.Basic
import ClusterDns.Text.Similarity
import ClusterDns.Text.Split

/-! Reading the configuration from the command line and the environment. The command line wins. Its
arguments are read from left to right, and the first fault ends the reading; a value that follows
its setting is looked at only when the next setting is named, or at the end. -/

namespace ClusterDns.Config

/-- Why there is no configuration: somebody asked for an explanation, or something is wrong. -/
inductive Stop where
  | help
  | version
  /-- No such argument. `used` are the arguments seen before, if they matter. -/
  | unknown (argument : String) (similar : Option Argument) (used : List Argument)
  /-- A value for an argument that has none. -/
  | needlessValue (argument : Argument) (value : String) (used : List Argument)
  | repeated (setting : Setting)
  | noValue (setting : Setting)
  | invalidValue (setting : Setting) (value : String)
  /-- Required settings are missing. -/
  | missing (settings : List Setting) (used : List Argument)

namespace CommandLine

/-- What one argument may be. -/
inductive Token where
  | named (name : String) (value : Option String)
  | letters (first : Char)
  /-- All that follows is no setting. -/
  | separator
  | plain (text : String)

def Token.ofArgument (argument : String) : Token :=
  match argument.toList with
  | ['-', '-'] => separator
  | '-' :: '-' :: rest =>
    let (name, value) := Text.cutAt (· == '=') rest
    named (String.ofList name) (value.map String.ofList)
  | '-' :: c :: _ => letters c
  | _ => plain argument

/-- A setting that has been named, and the value that followed it, if one did. -/
structure Pending where
  setting : Setting
  value : Option String := none

structure Progress where
  draft : Draft := {}
  /-- The settings given so far, in order. -/
  given : List Setting := []
  pending : Option Pending := none

namespace Progress

/-- Gives a setting a value, at most once. -/
def give (p : Progress) (setting : Setting) (value : String) : Except Stop Progress :=
  if p.given.contains setting then .error (.repeated setting)
  else
    match p.draft.set? value setting with
    | some draft => .ok { draft, given := p.given ++ [setting] }
    | none => .error (.invalidValue setting value)

/-- Gives the setting that waits for it its value. -/
def resolve (p : Progress) : Except Stop Progress :=
  match p.pending with
  | none => .ok p
  | some ⟨setting, none⟩ => .error (.noValue setting)
  | some ⟨setting, some value⟩ => give { p with pending := none } setting value

/-- The settings given so far, with the one that waits for its value if it has it. -/
def seen (p : Progress) : List Setting :=
  match p.pending with
  | some ⟨setting, some _⟩ =>
    if p.given.contains setting then p.given.erase setting else p.given ++ [setting]
  | _ => p.given

end Progress

/-- The argument a wrong name may be meant for. -/
def similar? (name : String) : Option Argument :=
  (Text.Similarity.closest? name (Argument.all.map Argument.name)).bind Argument.ofName?

def unknownName (p : Progress) (name : String) : Stop :=
  let similar := similar? name
  let used := p.seen.map Argument.setting
  .unknown s!"--{name}" similar
    (match similar with
      | some argument => if used.contains argument then used else used ++ [argument]
      | none => used)

def needless (p : Progress) (argument : Argument) (value : String) : Stop :=
  .needlessValue argument value
    ((p.given.filter (!·.isRequired)).map Argument.setting ++ [argument])

/-- Reads an argument that is named. -/
def readNamed (p : Progress) (name : String) (value : Option String) : Except Stop Progress :=
  match Argument.ofName? name, value with
  | none, _ => .error (unknownName p name)
  | some (.setting s), some value =>
    if s.isSwitch then .error (needless p (.setting s) value)
    else do (← p.resolve).give s value
  | some (.setting s), none =>
    if s.isSwitch then do (← p.resolve).give s "true"
    else do return { ← p.resolve with pending := some ⟨s, none⟩ }
  | some argument, some value => .error (needless p argument value)
  | some .help, none => do
    let _ ← p.resolve
    throw .help
  | some .version, none => do
    let _ ← p.resolve
    throw .version

/-- Letters behind one hyphen, of which the first one decides. -/
def readLetters (p : Progress) (first : Char) : Except Stop Progress := do
  if first == 'h' then
    let _ ← p.resolve
    throw .help
  else if first == 'V' then
    let _ ← p.resolve
    throw .version
  else throw (.unknown (String.ofList ['-', first]) none [])

/-- A text that is a value, if a setting waits for one. -/
def readPlain (p : Progress) (text : String) : Except Stop Progress :=
  match p.pending with
  | some ⟨setting, none⟩ => .ok { p with pending := some ⟨setting, some text⟩ }
  | _ => .error (.unknown text none [])

def readArguments (p : Progress) : List String → Except Stop Progress
  | [] => p.resolve
  | argument :: rest =>
    match Token.ofArgument argument with
    | .named name value => do readArguments (← readNamed p name value) rest
    | .letters first => do readArguments (← readLetters p first) rest
    | .plain text => do readArguments (← readPlain p text) rest
    | .separator =>
      match rest with
      | [] => p.resolve
      | text :: _ => .error (.unknown text none [])

/-- Takes a setting from the environment, unless it has been given. -/
def readVariable (environment : String → Option String) (p : Progress) (setting : Setting) :
    Except Stop Progress :=
  if p.given.contains setting then .ok p
  else
    match environment setting.environmentName with
    | some value => p.give setting value
    | none => .ok p

def complete (p : Progress) : Except Stop Config :=
  match p.draft.complete? with
  | some config => .ok config
  | none => .error (.missing p.draft.missing (p.given.map Argument.setting))

def read (arguments : List String) (environment : String → Option String) : Except Stop Config := do
  let p ← readArguments {} arguments
  complete (← Setting.all.foldlM (readVariable environment) p)

end CommandLine

end ClusterDns.Config
