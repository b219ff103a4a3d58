/-! What is to be done, and when: each item at most once, at the earliest of the times asked for. -/

namespace ClusterDns.Controller

abbrev Queue (α : Type) := List (α × Nat)

namespace Queue

variable {α : Type} [DecidableEq α]

def schedule : Queue α → α → Nat → Queue α
  | [], item, time => [(item, time)]
  | (i, t) :: rest, item, time =>
    if i = item then (i, min t time) :: rest else (i, t) :: schedule rest item time

def remove (queue : Queue α) (item : α) : Queue α := queue.filter (·.1 ≠ item)

/-- The first of the items that come earliest. -/
def next? : Queue α → Option (α × Nat)
  | [] => none
  | (item, time) :: rest =>
    match next? rest with
    | some (other, sooner) => if sooner < time then some (other, sooner) else some (item, time)
    | none => some (item, time)

/-- Takes the item that comes earliest, if its time is not past a given one. -/
def take? (queue : Queue α) (latest : Nat) : Option ((α × Nat) × Queue α) :=
  match next? queue with
  | some (item, time) => if time ≤ latest then some ((item, time), remove queue item) else none
  | none => none

end Queue

end ClusterDns.Controller
