/-! Disturbances to come: which occurrence of which event meets which effect. -/

namespace ClusterDns.Rehearsal

inductive Turn where
  | nth (n : Nat)
  | every
  deriving DecidableEq

def Turn.covers : Turn → Nat → Bool
  | nth n, count => n == count
  | every, _ => true

structure Planned (κ ε : Type) where
  event : κ
  turn : Turn
  effect : ε

/-- The plan, and how often each event has come about so far. -/
structure Schedule (κ ε : Type) where
  planned : List (Planned κ ε) := []
  seen : List (κ × Nat) := []

namespace Schedule

variable {κ ε : Type} [DecidableEq κ]

def bump : List (κ × Nat) → κ → List (κ × Nat)
  | [], event => [(event, 1)]
  | (k, n) :: rest, event => if k = event then (k, n + 1) :: rest else (k, n) :: bump rest event

/-- Counts one more occurrence and tells the first effect planned for it. -/
def meet (schedule : Schedule κ ε) (event : κ) : Option ε × Schedule κ ε :=
  let seen := bump schedule.seen event
  let count := (seen.lookup event).getD 0
  ((schedule.planned.find? fun p => p.event = event && p.turn.covers count).map (·.effect),
    { schedule with seen })

end Schedule

end ClusterDns.Rehearsal
