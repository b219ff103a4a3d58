import ClusterDns.Unicode.Runs

/-! Tables that say what becomes of a character when a text is mapped character by character. -/

namespace ClusterDns.Unicode

inductive Fate where
  | refused
  | dropped
  /-- Every other character of a run, from the first on, becomes its successor. -/
  | successor
  /-- The run becomes the run of as many characters that starts there. -/
  | shifted (first : Nat)
  | replaced (text : List Char)

namespace Fate

def ofValue : List Char → Fate
  | '-' :: _ => dropped
  | '^' :: _ => successor
  | '>' :: digits => shifted (Run.number digits).1
  | '=' :: texts =>
    replaced ((Text.splitOn (· == '.') texts).map fun digits => Char.ofNat (Run.number digits).1)
  | _ => refused

/-- What becomes of a character some places into its run. -/
def apply (place : Nat) (c : Char) : Fate → Option (List Char)
  | refused => none
  | dropped => some []
  | successor => some [if place % 2 == 0 then Char.ofNat (c.toNat + 1) else c]
  | shifted first => some [Char.ofNat (first + place)]
  | replaced text => some text

end Fate

/-- The text a character becomes; characters outside all runs stay as they are. -/
def mapped? (runs : List Run) (c : Char) : Option (List Char) :=
  match Runs.find? runs c with
  | none => some [c]
  | some run => (Fate.ofValue run.value).apply (c.toNat - run.first) c

/-- Whether a character stays as it is. -/
def isFixed (runs : List Run) (c : Char) : Bool := mapped? runs c == some [c]

end ClusterDns.Unicode
