import Mathlib.Data.List.Basic
import Mathlib.Data.List.Induction
import TrafficGate.Proofs.Metrics.Counting

/-!
# Metrics — Gauges

What the gauges of a gate hold.

* `Report.sizes`: the sizes of a gate's roll among what is told, in order.
* `Metrics.held_foldl_record`: the gauges hold the latest size, whatever else is told.
-/

namespace TrafficGate

namespace Report

/-- The size that is told of a gate's roll: how many components are live and how many are declared. -/
def size? (gate : String) : Report → Option (Nat × Nat)
  | .sized other live declared => if other = gate then some (live, declared) else none
  | _ => none

/-- The sizes that are told of a gate's roll, in order. -/
def sizes (gate : String) (reports : List Report) : List (Nat × Nat) :=
  reports.filterMap (size? gate)

variable {gate : String}

@[simp] theorem sizes_nil : sizes gate [] = [] := rfl

theorem sizes_append (reports more : List Report) :
    sizes gate (reports ++ more) = sizes gate reports ++ sizes gate more :=
  List.filterMap_append

/-- What is told to the log only is no size. -/
theorem sizes_measured (reports : List Report) :
    sizes gate (measured reports) = sizes gate reports := by
  rw [sizes, measured, List.filterMap_filter]
  refine List.filterMap_congr fun report _ => ?_
  cases report <;> rfl

end Report

namespace Metrics

/-- What the two gauges of a gate hold. -/
def held (metrics : Metrics) (gate : String) : Option Nat × Option Nat :=
  (metrics.live.get? gate, metrics.declared.get? gate)

theorem held_record (metrics : Metrics) (report : Report) (gate : String) :
    (metrics.record report).held gate =
      match report.size? gate with
      | some (live, declared) => (some (min live ceiling), some (min declared ceiling))
      | none => metrics.held gate := by
  cases report with
  | log entry => rfl
  | counted gate' tally => rfl
  | sized gate' live declared =>
      simp only [record, size, held, Table.get?_insert, Report.size?, eq_comm (a := gate)]
      split <;> rfl

/-- **The gauges hold the latest size**, whatever else is told. -/
theorem held_foldl_record (reports : List Report) (metrics : Metrics) (gate : String) :
    (reports.foldl record metrics).held gate =
      match (Report.sizes gate reports).getLast? with
      | some (live, declared) => (some (min live ceiling), some (min declared ceiling))
      | none => metrics.held gate := by
  -- the last report is the one that may decide
  induction reports using List.reverseRecOn with
  | nil => rfl
  | append_singleton reports last ih =>
      rw [List.foldl_append, List.foldl_cons, List.foldl_nil, held_record, Report.sizes_append]
      cases hlast : last.size? gate with
      | none =>
          rw [ih]
          simp [Report.sizes, hlast]
      | some size => simp [Report.sizes, hlast]

end Metrics

end TrafficGate
