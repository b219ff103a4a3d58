import ClusterDns.Metrics.Registry
import ClusterDns.Text.Shortest

/-! The text form in which metrics are scraped: families by name, each with its help and type, and
the series of a family by their label values. A family without series is left out. -/

namespace ClusterDns.Metrics

def labelValue (s : String) : String :=
  String.ofList (s.toList.flatMap fun c =>
    if c == '\\' then ['\\', '\\']
    else if c == '"' then ['\\', '"']
    else if c == '\n' then ['\\', 'n']
    else [c])

abbrev Labels := List (String × String)

def renderLabels (labels : Labels) : String :=
  "\x7b" ++ ",".intercalate (labels.map fun (name, value) =>
    name ++ "=\"" ++ labelValue value ++ "\"") ++ "\x7d"

namespace Series

def family : Series → String
  | reconciliations .. => "reconciliations_total"
  | errors .. => "errors_total"
  | requeues .. => "requeues_total"
  | records .. => "dns_records_total"

def labels : Series → Labels
  | reconciliations kind outcome => [("kind", kind), ("status", outcome.name)]
  | errors kind reason => [("kind", kind), ("reason", reason)]
  | requeues kind reason => [("kind", kind), ("reason", reason)]
  | records kind operation => [("kind", kind), ("operation", operation)]

/-- The name of a series with its labels. -/
def text (series : Series) : String := series.family ++ renderLabels series.labels

end Series

/-- Whether a list of texts comes no later than another: the first texts that differ decide. -/
def precedes : List String → List String → Bool
  | [], _ => true
  | _ :: _, [] => false
  | a :: as, b :: bs => a < b || (a == b && precedes as bs)

/-- Rows in ascending order of their keys. -/
def sortByKey {α : Type} (rows : List (List String × α)) : List α :=
  (rows.mergeSort fun a b => precedes a.1 b.1).map (·.2)

/-- Every family is named for the program that exports it. -/
def exporter : String := "pihole_operator_"

def familyLines (family help kind : String) (rows : List String) : List String :=
  if rows.isEmpty then []
  else
    [s!"# HELP {exporter}{family} {help}", s!"# TYPE {exporter}{family} {kind}"] ++ rows

def counterLines (registry : Registry) (family help : String) : List String :=
  let rows := (registry.counts.filter (·.1.family == family)).map fun (series, n) =>
    (series.labels.map (·.2), s!"{exporter}{series.text} {n}")
  familyLines family help "counter" (sortByKey rows)

def runningTotals : Nat → List Nat → List Nat
  | _, [] => []
  | total, n :: rest => (total + n) :: runningTotals (total + n) rest

def histogramLines (family kind : String) (h : Histogram) : List String :=
  let bounds := bucketBounds.map Text.shortest ++ ["+Inf"]
  let buckets := (bounds.zip (runningTotals 0 h.buckets)).map fun (bound, n) =>
    let labels := renderLabels [("kind", kind), ("le", bound)]
    s!"{exporter}{family}_bucket{labels} {n}"
  let labels := renderLabels [("kind", kind)]
  buckets ++ [s!"{exporter}{family}_sum{labels} {Text.shortest h.sum}",
    s!"{exporter}{family}_count{labels} {h.count}"]

def durationLines (registry : Registry) : List String :=
  let family := "reconciliation_duration_seconds"
  let rows := registry.durations.map fun (kind, h) => ([kind], histogramLines family kind h)
  familyLines family "Duration of reconciliations in seconds by kind" "histogram"
    (sortByKey rows).flatten

namespace Registry

/-- The lines of the exposition, families by name. -/
def lines (registry : Registry) : List String :=
  counterLines registry "dns_records_total"
      "Total number of Pi-hole local DNS record mutations by kind and operation"
    ++ counterLines registry "errors_total" "Total number of errors by kind and reason"
    ++ durationLines registry
    ++ counterLines registry "reconciliations_total"
      "Total number of reconciliations by kind and status"
    ++ counterLines registry "requeues_total"
      "Total number of requeue operations by kind and reason"

def text (registry : Registry) : String := String.join (registry.lines.map (· ++ "\n"))

end Registry

end ClusterDns.Metrics
