import TrafficGate.Metrics.Double
import TrafficGate.Report
import TrafficGate.Table

/-!
# Metrics

Counters of the outcomes at each gate and gauges of the size of its roll, and their text for a
metrics collector: families in the order of their names, samples in the order of their labels, and no
family without samples.
-/

namespace TrafficGate

/-- How often each outcome was counted at each gate, and the last size of each gate's roll. -/
structure Metrics where
  outcomes : Table (Table Nat) := Table.empty
  live : Table Nat := Table.empty
  declared : Table Nat := Table.empty
  deriving DecidableEq, Inhabited

namespace Metrics

/-- The largest value of a gauge. -/
def ceiling : Nat := Nat.pow 2 63 - 1

/-- Counts an outcome at a gate. -/
def count (metrics : Metrics) (gate outcome : String) : Metrics :=
  let counts := (metrics.outcomes.get? gate).getD Table.empty
  let counts := counts.insert outcome ((counts.get? outcome).getD 0 + 1)
  { metrics with outcomes := metrics.outcomes.insert gate counts }

/-- Notes the size of a gate's roll. -/
def size (metrics : Metrics) (gate : String) (live declared : Nat) : Metrics :=
  { metrics with
    live := metrics.live.insert gate (min live ceiling)
    declared := metrics.declared.insert gate (min declared ceiling) }

/-- Takes a report in. -/
def record (metrics : Metrics) : Report → Metrics
  | .log _ => metrics
  | .counted gate tally => metrics.count gate tally.name
  | .sized gate live declared => metrics.size gate live declared

/-! ### The text form -/

/-- One character of a label. -/
def labelChar : Char → List Char
  | '\\' => ['\\', '\\']
  | '\n' => ['\\', 'n']
  | '"' => ['\\', '"']
  | c => [c]

/-- A label in quotes. -/
def label (name value : String) : String :=
  name ++ "=\"" ++ String.ofList (value.toList.flatMap labelChar) ++ "\""

/-- One sample. -/
def sample (family : String) (labels : List String) (value : Nat) : String :=
  family ++ "\x7b" ++ ",".intercalate labels ++ "\x7d " ++ render value

/-- A family with its head, unless it has no samples. -/
def family (name help kind : String) (samples : List String) : List String :=
  if samples.isEmpty then []
  else ("# HELP " ++ name ++ " " ++ help) :: ("# TYPE " ++ name ++ " " ++ kind) :: samples

/-- A family of gauges, one for each gate. -/
def gauges (name help : String) (values : Table Nat) : List String :=
  family name help "gauge" (values.entries.map fun (gate, n) => sample name [label "gate" gate] n)

/-- The lines of the text form. -/
def lines (metrics : Metrics) : List String :=
  let outcomes := "rg_gate_outcomes_total"
  family outcomes "Pipeline outcomes by gate" "counter"
      (metrics.outcomes.entries.flatMap fun (gate, counts) =>
        counts.entries.map fun (outcome, n) =>
          sample outcomes [label "gate" gate, label "outcome" outcome] n) ++
    gauges "rg_required_declared" "Declared required components" metrics.declared ++
    gauges "rg_required_live" "Live required components" metrics.live

end Metrics

end TrafficGate
