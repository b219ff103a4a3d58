import ClusterDns.Text.Numeral
import ClusterDns.Text.Split

/-! Tables of character properties. A table is a text of runs of neighbouring characters, in rising
order. A run names the characters it skips since the run before it, then after a plus sign how many
characters it has, both in base 16; what is left of it is the value its characters share. No number
in front means zero, no plus sign means one. -/

namespace ClusterDns.Unicode

structure Run where
  first : Nat
  count : Nat
  value : List Char

namespace Run

def covers (run : Run) (c : Char) : Bool :=
  run.first ≤ c.toNat && c.toNat < run.first + run.count

/-- Reads digits in base 16 as far as they go. -/
def number (s : List Char) : Nat × List Char :=
  ((s.takeWhile Text.isHexDigit).foldl (fun n c => n * 16 + (Text.hexValue? c).getD 0) 0,
    s.dropWhile Text.isHexDigit)

def read (start : Nat) (item : List Char) : Run :=
  let (gap, rest) := number item
  match rest with
  | '+' :: rest => ⟨start + gap, (number rest).1, (number rest).2⟩
  | value => ⟨start + gap, 1, value⟩

end Run

namespace Runs

def read : Nat → List (List Char) → List Run
  | _, [] => []
  | start, item :: rest =>
    let run := Run.read start item
    run :: read (run.first + run.count) rest

/-- Reads a table that may go over several lines. -/
def ofLines (lines : List String) : List Run :=
  read 0 (lines.flatMap fun line => Text.splitOn (· == ' ') line.toList)

/-- The run a character belongs to. -/
def find? (runs : List Run) (c : Char) : Option Run := runs.find? (·.covers c)

def contains (runs : List Run) (c : Char) : Bool := runs.any (·.covers c)

/-- The value of a character; characters outside all runs have none. -/
def value? (runs : List Run) (c : Char) : Option (List Char) := (find? runs c).map (·.value)

end Runs

end ClusterDns.Unicode
