/-! Spans of time as whole seconds below `2 ^ 64` and nanoseconds below a second, and points in time
on a clock that ends. Arithmetic that leaves either range has no answer. -/

namespace ClusterDns.Time

def nanosPerSecond : Nat := 1000000000

/-- The bound of whole seconds, `2 ^ 64`. -/
def secsBound : Nat := 18446744073709551616

structure Duration where
  secs : Nat
  nanos : Nat
  secs_lt : secs < secsBound
  nanos_lt : nanos < nanosPerSecond
  deriving DecidableEq

namespace Duration

def ofParts? (secs nanos : Nat) : Option Duration :=
  if h : secs < secsBound ∧ nanos < nanosPerSecond then some ⟨secs, nanos, h.1, h.2⟩ else none

def ofSecs (secs : Nat) (h : secs < secsBound := by decide) : Duration := ⟨secs, 0, h, by decide⟩

/-- The whole span in nanoseconds. -/
def toNanos (d : Duration) : Nat := d.secs * nanosPerSecond + d.nanos

/-- Seconds as a float, the whole ones and the rest added. -/
def toFloat (d : Duration) : Float := d.secs.toFloat + d.nanos.toFloat / nanosPerSecond.toFloat

/-- Multiplies the parts apart and carries full seconds over. -/
def mul? (d : Duration) (n : Nat) : Option Duration :=
  let nanos := d.nanos * n
  let secs := d.secs * n + nanos / nanosPerSecond
  if h : secs < secsBound then
    some ⟨secs, nanos % nanosPerSecond, h, Nat.mod_lt _ (by decide)⟩
  else none

theorem div_nanos_lt (d : Duration) {n : Nat} (hn : 0 < n) :
    d.nanos / n + (d.secs % n * nanosPerSecond + d.nanos % n) / n < nanosPerSecond := by
  have hs : d.secs % n + 1 ≤ n := Nat.mod_lt _ hn
  have hd := d.nanos_lt
  have hsplit : n * (d.nanos / n) + d.nanos % n = d.nanos := Nat.div_add_mod ..
  have hmul : (d.secs % n + 1) * nanosPerSecond ≤ n * nanosPerSecond :=
    Nat.mul_le_mul_right _ hs
  have heq : d.nanos / n + (d.secs % n * nanosPerSecond + d.nanos % n) / n
      = (d.secs % n * nanosPerSecond + d.nanos) / n := by
    conv => rhs; rw [← hsplit]
    rw [show d.secs % n * nanosPerSecond + (n * (d.nanos / n) + d.nanos % n)
      = d.secs % n * nanosPerSecond + d.nanos % n + n * (d.nanos / n) by omega,
      Nat.add_mul_div_left _ _ hn, Nat.add_comm]
  rw [heq, Nat.div_lt_iff_lt_mul hn, Nat.mul_comm nanosPerSecond n]
  rw [Nat.add_mul, Nat.one_mul] at hmul
  omega

/-- Divides the parts apart and carries the seconds that are left into the nanoseconds. -/
def div (d : Duration) (n : Nat) (hn : 0 < n := by decide) : Duration where
  secs := d.secs / n
  nanos := d.nanos / n + (d.secs % n * nanosPerSecond + d.nanos % n) / n
  secs_lt := Nat.lt_of_le_of_lt (Nat.div_le_self ..) d.secs_lt
  nanos_lt := div_nanos_lt d hn

/-- The shorter of two spans: fewer seconds, or as many and no more nanoseconds. -/
def min (d e : Duration) : Duration :=
  if d.secs < e.secs ∨ (d.secs = e.secs ∧ d.nanos ≤ e.nanos) then d else e

end Duration

/-- A point in time, in nanoseconds since the clock's start. -/
structure Instant where
  nanos : Nat
  deriving DecidableEq

namespace Instant

/-- The last point in time: seconds below `2 ^ 63` and a nanosecond short of the next one. -/
def last : Instant := ⟨secsBound / 2 * nanosPerSecond - 1⟩

def add? (t : Instant) (d : Duration) : Option Instant :=
  if t.nanos + d.toNanos ≤ last.nanos then some ⟨t.nanos + d.toNanos⟩ else none

end Instant

end ClusterDns.Time
