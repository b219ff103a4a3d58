import ClusterDns.Time.Duration

/-! The spread of delays. Objects whose reconciles fail together would also be tried again together;
so each delay is drawn from a range of a tenth to either side, to the nanosecond. -/

namespace ClusterDns.Controller

/-- A range of delays, in nanoseconds. -/
structure JitterRange where
  delay : Nat
  lowest : Nat
  highest : Nat

namespace JitterRange

/-- The delays that can be drawn for one; those halfway between two nanoseconds do not come up. -/
def around (delay : Time.Duration) : JitterRange where
  delay := delay.toNanos
  lowest := (9 * delay.toNanos + 5) / 10
  highest := (11 * delay.toNanos + 4) / 10

/-- Whether rounding has left the range inside a tenth. -/
def isWithinTenth (range : JitterRange) : Bool :=
  9 * range.delay ≤ 10 * range.lowest && 10 * range.highest ≤ 11 * range.delay

end JitterRange

end ClusterDns.Controller
