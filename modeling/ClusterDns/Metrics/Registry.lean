import ClusterDns.Time.Duration

/-! Counters and durations, kept per series. A series that was never recorded has count zero. -/

namespace ClusterDns.Metrics

inductive Outcome where
  | success
  | error
  deriving DecidableEq

def Outcome.name : Outcome → String
  | success => "success"
  | error => "error"

/-- A counted series: what is counted, and the labels it is counted under. -/
inductive Series where
  | reconciliations (kind : String) (outcome : Outcome)
  | errors (kind reason : String)
  | requeues (kind reason : String)
  | records (kind operation : String)
  deriving DecidableEq

/-- Upper bounds of the duration buckets, in seconds. -/
def bucketBounds : List Float := [0.001, 0.01, 0.1, 0.5, 1, 2, 5, 10, 30, 60]

/-- How many durations fell into each bucket, the one beyond all bounds last, and their sum. -/
structure Histogram where
  buckets : List Nat
  sum : Float

namespace Histogram

def empty : Histogram := ⟨List.replicate (bucketBounds.length + 1) 0, 0⟩

/-- The bucket of a duration: the first whose bound it does not pass. -/
def bucketOf (seconds : Float) : Nat := (bucketBounds.takeWhile fun bound => bound < seconds).length

def observe (h : Histogram) (seconds : Float) : Histogram :=
  ⟨h.buckets.modify (bucketOf seconds) (· + 1), h.sum + seconds⟩

def count (h : Histogram) : Nat := h.buckets.foldl (· + ·) 0

end Histogram

structure Registry where
  counts : List (Series × Nat) := []
  durations : List (String × Histogram) := []

namespace Registry

def count (registry : Registry) (series : Series) : Nat :=
  (registry.counts.lookup series).getD 0

def bump : List (Series × Nat) → Series → List (Series × Nat)
  | [], series => [(series, 1)]
  | (s, n) :: rest, series => if s = series then (s, n + 1) :: rest else (s, n) :: bump rest series

def increment (registry : Registry) (series : Series) : Registry :=
  { registry with counts := bump registry.counts series }

theorem lookup_bump (counts : List (Series × Nat)) (series other : Series) :
    ((bump counts series).lookup other).getD 0
      = (counts.lookup other).getD 0 + if other = series then 1 else 0 := by
  induction counts with
  | nil =>
    by_cases h : other = series
    · subst h; simp [bump]
    · simp [bump, List.lookup_cons, h, beq_false_of_ne h]
  | cons c rest ih =>
    obtain ⟨s, n⟩ := c
    by_cases hs : s = series
    · subst hs
      by_cases ho : other = s
      · subst ho; simp [bump]
      · simp [bump, List.lookup_cons, ho, beq_false_of_ne ho]
    · by_cases ho : other = s
      · subst ho; simp [bump, hs]
      · simp [bump, List.lookup_cons, hs, beq_false_of_ne ho, ih]

theorem count_increment (registry : Registry) (series other : Series) :
    (registry.increment series).count other
      = registry.count other + if other = series then 1 else 0 :=
  lookup_bump registry.counts series other

/-- Series counted one after another, each as often as it comes. -/
theorem count_foldl_increment (series : List Series) (registry : Registry) (other : Series) :
    (series.foldl increment registry).count other = registry.count other + series.count other := by
  induction series generalizing registry with
  | nil => rfl
  | cons first rest ih =>
    rw [List.foldl_cons, ih, count_increment, List.count_cons]
    by_cases h : other = first
    · simp [h, Nat.add_assoc, Nat.add_comm 1]
    · simp [h, Ne.symm h]

def observeIn : List (String × Histogram) → String → Float → List (String × Histogram)
  | [], kind, seconds => [(kind, Histogram.empty.observe seconds)]
  | (k, h) :: rest, kind, seconds =>
    if k = kind then (k, h.observe seconds) :: rest else (k, h) :: observeIn rest kind seconds

/-- Counts one reconcile and its duration. -/
def reconciled (registry : Registry) (kind : String) (outcome : Outcome)
    (duration : Time.Duration) : Registry :=
  let counted := registry.increment (.reconciliations kind outcome)
  { counted with durations := observeIn counted.durations kind duration.toFloat }

theorem count_reconciled (registry : Registry) (kind : String) (outcome : Outcome)
    (duration : Time.Duration) (other : Series) :
    (registry.reconciled kind outcome duration).count other
      = registry.count other + if other = .reconciliations kind outcome then 1 else 0 :=
  count_increment registry _ other

end Registry

end ClusterDns.Metrics
