import ClusterDns.Journal
import ClusterDns.Text.Split

/-! Which log entries are written. A filter is a list of directives with commas between them: a
level for everything, or one for the parts of a program whose names start in a certain way. Of the
directives that fit, the one that says most about the name decides. -/

namespace ClusterDns.Startup

/-- The name under which the operator writes its entries. -/
def logTarget : String := "pihole_operator"

structure Directive where
  target : String := ""
  /-- How much is let through: nothing at zero, all at five. -/
  verbosity : Nat

namespace Directive

/-- A level by its name or number. -/
def verbosity? (s : List Char) : Option Nat :=
  match String.ofList (s.map Char.toLower) with
  | "off" | "0" => some 0
  | "error" | "1" => some 1
  | "warn" | "2" => some 2
  | "info" | "3" => some 3
  | "debug" | "4" => some 4
  | "trace" | "5" => some 5
  | _ => none

def isTargetChar (c : Char) : Bool := c.isAlphanum || c == '_' || c == ':' || c == '-'

/-- A target without a level lets all through. -/
def parse? (s : List Char) : Option Directive :=
  match verbosity? s, Text.cutAt (· == '=') s with
  | some n, _ => some { verbosity := n }
  | none, (target, level) =>
    if target.all isTargetChar then
      match level with
      | none | some [] => some ⟨String.ofList target, 5⟩
      | some level => (verbosity? level).map fun n => ⟨String.ofList target, n⟩
    else none

end Directive

abbrev LogFilter := List Directive

namespace LogFilter

/-- A filter without directives lets errors through. -/
def parse? (s : String) : Option LogFilter :=
  match (Text.splitOn (· == ',') s.toList).filter (!·.isEmpty) with
  | [] => some [{ verbosity := 1 }]
  | pieces => pieces.mapM Directive.parse?

/-- The filter of the environment, if it has one that can be read, else the level of the
configuration. -/
def choose (wanted : Option String) (level : String) : LogFilter :=
  ((wanted.bind parse?).orElse fun _ => parse? level).getD []

/-- How much of the entries under a name is let through. -/
def verbosity (filter : LogFilter) (target : String) : Nat :=
  let fitting := filter.filter fun d => d.target.isPrefixOf target
  (fitting.foldl (fun (best : Directive) d =>
    if best.target.length ≤ d.target.length then d else best) { verbosity := 0 }).verbosity

def admits (filter : LogFilter) (entry : Journal.Entry) : Bool :=
  entry.level.verbosity ≤ filter.verbosity logTarget

end LogFilter

end ClusterDns.Startup
