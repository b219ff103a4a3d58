import ClusterDns.PiHole.Session
import ClusterDns.Proofs.Time.Duration

/-! How long a session may be used. It is four fifths of the time it was granted for, to the
nanosecond and rounded down once, and a day at the most. Only where the clock ends before that is it
no time at all. -/

namespace ClusterDns.PiHole.Session

open Time (Duration Instant)

/-- A day, which no session outlasts. -/
def dayNanos : Nat := 86400 * Time.nanosPerSecond

/-- Four fifths of a span, or a day if that is less. -/
def granted (validity : Duration) : Nat := min (validity.toNanos * 80 / 100) dayNanos

/-- From the time a session is issued to the end of its use. -/
def lifetime (id : String) (validity : Duration) (now : Instant) : Nat :=
  (issue id validity now).validUntil.nanos - now.nanos

theorem granted_mono {shorter longer : Duration} (h : shorter.toNanos ≤ longer.toNanos) :
    granted shorter ≤ granted longer := by
  have hshare : shorter.toNanos * 80 / 100 ≤ longer.toNanos * 80 / 100 :=
    Nat.div_le_div_right (Nat.mul_le_mul_right 80 h)
  unfold granted
  omega

theorem toNanos_longestUse : longestUse.toNanos = dayNanos := Duration.toNanos_ofSecs ..

/-- The use of a session is exact. A span too long to be multiplied is one of more than a day. -/
theorem toNanos_usableTime (validity : Duration) :
    (usableTime validity).toNanos = granted validity := by
  have hmul := Duration.toNanos_mul? validity 80
  unfold usableTime usablePercent
  cases hscaled : validity.mul? 80 with
  | none =>
    have hlong : Time.secsBound * Time.nanosPerSecond ≤ validity.toNanos * 80 := by
      refine Nat.not_lt.mp fun hshort => ?_
      rw [hscaled, if_pos hshort] at hmul
      cases hmul
    have hday : dayNanos ≤ validity.toNanos * 80 / 100 := by
      simp only [dayNanos, Time.secsBound, Time.nanosPerSecond] at hlong ⊢
      omega
    rw [granted, Nat.min_eq_right hday]
    exact toNanos_longestUse
  | some scaled =>
    have hproduct : scaled.toNanos = validity.toNanos * 80 := by
      rw [hscaled, Option.map_some] at hmul
      split at hmul
      · exact Option.some.inj hmul
      · cases hmul
    simp only [Duration.toNanos_min, Duration.toNanos_div, toNanos_longestUse, hproduct, granted]

variable {id : String} {validity : Duration} {now : Instant}

theorem validUntil_of_le (h : now.nanos + granted validity ≤ Instant.last.nanos) :
    (issue id validity now).validUntil.nanos = now.nanos + granted validity := by
  simp [issue, Instant.add?, toNanos_usableTime, h]

theorem validUntil_of_lt (h : Instant.last.nanos < now.nanos + granted validity) :
    (issue id validity now).validUntil = now := by
  simp [issue, Instant.add?, toNanos_usableTime, Nat.not_le.mpr h]

theorem lifetime_of_le (h : now.nanos + granted validity ≤ Instant.last.nanos) :
    lifetime id validity now = granted validity := by
  rw [lifetime, validUntil_of_le h, Nat.add_sub_cancel_left]

theorem lifetime_of_lt (h : Instant.last.nanos < now.nanos + granted validity) :
    lifetime id validity now = 0 := by
  rw [lifetime, validUntil_of_lt h, Nat.sub_self]

theorem lifetime_le (id : String) (validity : Duration) (now : Instant) :
    lifetime id validity now ≤ granted validity := by
  rcases Nat.lt_or_ge Instant.last.nanos (now.nanos + granted validity) with h | h
  · simp [lifetime_of_lt h]
  · simp [lifetime_of_le h]

/-- The end of a session is its lifetime away from its beginning. -/
theorem validUntil_eq (id : String) (validity : Duration) (now : Instant) :
    (issue id validity now).validUntil.nanos = now.nanos + lifetime id validity now := by
  rcases Nat.lt_or_ge Instant.last.nanos (now.nanos + granted validity) with h | h
  · rw [validUntil_of_lt h, lifetime_of_lt h, Nat.add_zero]
  · rw [validUntil_of_le h, lifetime_of_le h]

theorem isValidAt_issue (id : String) (validity : Duration) (now : Instant) (p : Nat) :
    (issue id validity now).isValidAt ⟨now.nanos + p⟩ = true ↔
      id ≠ "" ∧ p < lifetime id validity now := by
  have hid : (issue id validity now).id = id := rfl
  simp [isValidAt, hid, validUntil_eq]

/-- A session can be used for four fifths of the time it was granted for, in nanoseconds and rounded
down, and for a day at the most. If the clock ends before that, it cannot be used at all, so being
granted for longer makes a session last longer as far as the clock goes. Its end is always on the
clock. -/
theorem lifetime_exact (id : String) (validity : Duration) (now : Instant) :
    (now.nanos ≤ Instant.last.nanos →
      (issue id validity now).validUntil.nanos ≤ Instant.last.nanos) ∧
    (issue id validity now).validUntil.nanos = now.nanos + lifetime id validity now ∧
    (now.nanos + min (validity.toNanos * 80 / 100) (86400 * 1000000000) ≤ Instant.last.nanos →
      lifetime id validity now = min (validity.toNanos * 80 / 100) (86400 * 1000000000)) ∧
    (Instant.last.nanos < now.nanos + min (validity.toNanos * 80 / 100) (86400 * 1000000000) →
      lifetime id validity now = 0) ∧
    lifetime id validity now * 100 ≤ validity.toNanos * 80 ∧
    lifetime id validity now ≤ 86400 * 1000000000 ∧
    (∀ longer : Duration, validity.toNanos ≤ longer.toNanos →
      now.nanos + min (longer.toNanos * 80 / 100) (86400 * 1000000000) ≤ Instant.last.nanos →
        lifetime id validity now ≤ lifetime id longer now) ∧
    ∀ p, (issue id validity now).isValidAt ⟨now.nanos + p⟩ = true ↔
      id ≠ "" ∧ p < lifetime id validity now := by
  have hgranted : ∀ d : Duration, min (d.toNanos * 80 / 100) (86400 * 1000000000) = granted d :=
    fun _ => rfl
  have hle := lifetime_le id validity now
  have hshare : granted validity ≤ validity.toNanos * 80 / 100 := Nat.min_le_left ..
  have hday : granted validity ≤ 86400 * 1000000000 := Nat.min_le_right ..
  simp only [hgranted]
  refine ⟨fun hnow => ?_, validUntil_eq .., lifetime_of_le, lifetime_of_lt, by omega, by omega,
    fun longer hlonger hlast => ?_, isValidAt_issue id validity now⟩
  · rw [validUntil_eq]
    rcases Nat.lt_or_ge Instant.last.nanos (now.nanos + granted validity) with h | h
    · rwa [lifetime_of_lt h]
    · rwa [lifetime_of_le h]
  · rw [lifetime_of_le hlast]
    exact Nat.le_trans hle (granted_mono hlonger)

/-- Four minutes before the clock ends. -/
def closeToEnd : Instant := ⟨Instant.last.nanos - 240 * Time.nanosPerSecond⟩

/-- Close to the end of the clock a session that is granted for a second longer is over sooner. -/
theorem longer_over_sooner :
    lifetime "sid" (.ofSecs 301) closeToEnd = 0 ∧
    lifetime "sid" (.ofSecs 300) closeToEnd = 240 * 1000000000 ∧
    ¬ ∀ (id : String) (shorter longer : Duration) (now : Instant), now.nanos ≤ Instant.last.nanos →
      shorter.toNanos ≤ longer.toNanos → lifetime id shorter now ≤ lifetime id longer now := by
  have hlonger : lifetime "sid" (.ofSecs 301) closeToEnd = 0 := by decide
  have hshorter : lifetime "sid" (.ofSecs 300) closeToEnd = 240 * 1000000000 := by decide
  refine ⟨hlonger, hshorter, fun hmono => ?_⟩
  have hle := hmono "sid" (.ofSecs 300) (.ofSecs 301) closeToEnd (by decide) (by decide)
  rw [hlonger, hshorter] at hle
  omega

end ClusterDns.PiHole.Session
