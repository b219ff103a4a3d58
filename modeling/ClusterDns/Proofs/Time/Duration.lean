import ClusterDns.Time.Duration

/-! Arithmetic with spans of time is arithmetic with whole numbers of nanoseconds. Multiplying the
parts apart is exact and has an answer as long as the product is in range. Dividing them apart
rounds down once, not once for each part. -/

namespace ClusterDns.Time.Duration

theorem toNanos_ofSecs (secs : Nat) (h : secs < secsBound) :
    (ofSecs secs h).toNanos = secs * nanosPerSecond := by
  simp [ofSecs, toNanos]

/-- The whole seconds of a product are those of the seconds and the full ones of the rest. -/
theorem secs_mul (d : Duration) (n : Nat) :
    d.secs * n + d.nanos * n / nanosPerSecond = d.toNanos * n / nanosPerSecond := by
  have hsplit : d.toNanos * n = d.nanos * n + nanosPerSecond * (d.secs * n) := by
    unfold toNanos
    rw [Nat.add_mul, Nat.add_comm, Nat.mul_right_comm, Nat.mul_comm nanosPerSecond]
  rw [hsplit, Nat.add_mul_div_left _ _ (by decide : 0 < nanosPerSecond), Nat.add_comm]

theorem mod_mul (d : Duration) (n : Nat) :
    d.nanos * n % nanosPerSecond = d.toNanos * n % nanosPerSecond := by
  unfold toNanos
  rw [Nat.add_mul, Nat.mul_right_comm, Nat.add_comm, Nat.add_mul_mod_self_right]

/-- A product is exact, and there is none only where it is out of range. -/
theorem toNanos_mul? (d : Duration) (n : Nat) :
    (d.mul? n).map toNanos =
      if d.toNanos * n < secsBound * nanosPerSecond then some (d.toNanos * n) else none := by
  have hrange : d.secs * n + d.nanos * n / nanosPerSecond < secsBound ↔
      d.toNanos * n < secsBound * nanosPerSecond := by
    rw [secs_mul, Nat.div_lt_iff_lt_mul (by decide)]
  unfold mul?
  by_cases h : d.toNanos * n < secsBound * nanosPerSecond
  · have hwhole : (d.secs * n + d.nanos * n / nanosPerSecond) * nanosPerSecond +
        d.nanos * n % nanosPerSecond = d.toNanos * n := by
      rw [secs_mul, mod_mul, Nat.div_add_mod']
    simp only [hrange.mpr h, h, dite_true, if_true, Option.map_some]
    exact congrArg some hwhole
  · simp only [mt hrange.mp h, h, dite_false, if_false, Option.map_none]

theorem toNanos_div (d : Duration) (n : Nat) (hn : 0 < n) :
    (d.div n hn).toNanos = d.toNanos / n := by
  have hsecs : d.secs * nanosPerSecond =
      n * (d.secs / n * nanosPerSecond) + d.secs % n * nanosPerSecond := by
    rw [← Nat.mul_assoc, ← Nat.add_mul, Nat.div_add_mod]
  have hnanos : d.nanos = n * (d.nanos / n) + d.nanos % n := (Nat.div_add_mod ..).symm
  have hwhole : d.toNanos = d.secs % n * nanosPerSecond + d.nanos % n +
      n * (d.secs / n * nanosPerSecond + d.nanos / n) := by
    rw [toNanos, Nat.mul_add]
    omega
  rw [hwhole, Nat.add_mul_div_left _ _ hn]
  show d.secs / n * nanosPerSecond +
    (d.nanos / n + (d.secs % n * nanosPerSecond + d.nanos % n) / n) = _
  omega

theorem toNanos_min (d e : Duration) : (d.min e).toNanos = Min.min d.toNanos e.toNanos := by
  have hd := d.nanos_lt
  have he := e.nanos_lt
  have horder : (d.secs < e.secs ∨ d.secs = e.secs ∧ d.nanos ≤ e.nanos) ↔
      d.toNanos ≤ e.toNanos := by
    simp only [toNanos, nanosPerSecond] at *
    omega
  unfold Duration.min
  by_cases h : d.toNanos ≤ e.toNanos
  · rw [if_pos (horder.mpr h), Nat.min_eq_left h]
  · rw [if_neg (mt horder.mp h), Nat.min_eq_right (by omega)]

end ClusterDns.Time.Duration
