import ClusterDns.Startup.LogLine
import ClusterDns.Startup.Run

/-! The command line. The program has no network of its own, so its requests are lost, and it ends
where it would talk to the cluster. -/

namespace ClusterDns.Main

open PiHole (Wire)

/-- Brings no request to anybody. -/
def nowhere : Program.Surroundings Http.Link Unit := fun _ => (.error .dropped, ·)

/-- Keeps no session, and writes down what is noted, the last entry first. -/
def cutOff : Program.Surroundings Wire (List Journal.Entry)
  | .cachedId, journal => (none, journal)
  | .keep _ _, journal => ((), journal)
  | .forget, journal => ((), journal)
  | .exchange request, journal => (((Http.exchange request).run nowhere ()).1, journal)
  | .note entry, journal => ((), entry :: journal)

/-- What is asked of the environment. -/
def names : List String :=
  Config.Setting.all.map (·.environmentName) ++ ["RUST_LOG", "RUST_LOG_FORMAT"]

def readEnvironment : IO (String → Option String) := do
  let values ← names.filterMapM fun name => do return (← IO.getEnv name).map (name, ·)
  return (values.lookup ·)

end ClusterDns.Main

def main (arguments : List String) : IO UInt32 := do
  let environment ← ClusterDns.Main.readEnvironment
  let (ending, journal) :=
    (ClusterDns.Startup.run arguments environment).run ClusterDns.Main.cutOff []
  for entry in journal.reverse.filter ending.filter.admits do
    IO.println (if ClusterDns.Startup.writesJson environment
      then entry.toJson.render else entry.toText)
  IO.print ending.output
  IO.eprint ending.complaint
  return UInt32.ofNat ending.exitCode
