import TrafficGate.Metrics
import TrafficGate.Verdict

/-!
# Metrics — Counting

What is counted of a call, and what the counters say then.

* `Outcome.tallies`: a call that was not answered is counted once, as a rejection or as a fault.
* `Report.measured`: what goes to the metrics, told apart from what is logged.
* `Metrics.counter_record`: a report adds one to the counter of its own outcome and of no other, so
  that counters count reports (`Metrics.counter_foldl_record`).
-/

namespace TrafficGate

/-- What is counted of a call for what it comes to. -/
def Outcome.tallies {α : Type} : Outcome α → List Tally
  | .returned _ => []
  | .faulted (.rejected _) => [.componentRejected]
  | .faulted (.failed _) => [.componentFault]
  | .crashed _ => [.componentFault]

/-- What is told to the metrics, not to the log. -/
def Report.isMeasured : Report → Bool
  | .log _ => false
  | .counted _ _ => true
  | .sized _ _ _ => true

/-- What is told to the metrics, in order. -/
def Report.measured (reports : List Report) : List Report := reports.filter Report.isMeasured

theorem Report.measured_append (reports more : List Report) :
    measured (reports ++ more) = measured reports ++ measured more :=
  List.filter_append reports more

/-- Every outcome that is counted is told to the metrics. -/
theorem Report.count_measured (reports : List Report) (gate : String) (tally : Tally) :
    (measured reports).count (.counted gate tally) = reports.count (.counted gate tally) :=
  List.count_filter rfl

/-- No outcome is counted. -/
def Report.Uncounted (reports : List Report) : Prop := ∀ gate tally, .counted gate tally ∉ reports

theorem Tally.name_inj {tally tally' : Tally} : tally.name = tally'.name ↔ tally = tally' := by
  refine ⟨?_, congrArg name⟩
  cases tally <;> cases tally' <;> decide

namespace Metrics

/-- How often an outcome was counted at a gate. -/
def counter (metrics : Metrics) (gate : String) (tally : Tally) : Nat :=
  (((metrics.outcomes.get? gate).getD Table.empty).get? tally.name).getD 0

/-- **A report is counted once**, and only as what it reports. -/
theorem counter_record (metrics : Metrics) (report : Report) (gate : String) (tally : Tally) :
    (metrics.record report).counter gate tally =
      metrics.counter gate tally + if report = .counted gate tally then 1 else 0 := by
  cases report with
  | log entry => rfl
  | sized gate' live declared => rfl
  | counted gate' tally' =>
      simp only [record, count, counter, Table.get?_insert, Report.counted.injEq]
      by_cases hgate : gate = gate'
      · subst hgate
        by_cases htally : tally = tally'
        · subst htally
          simp [Table.get?_insert]
        · simp [Table.get?_insert, Tally.name_inj, htally, Ne.symm htally]
      · simp [hgate, Ne.symm hgate]

/-- **The counters count reports.** -/
theorem counter_foldl_record (reports : List Report) (metrics : Metrics) (gate : String)
    (tally : Tally) :
    (reports.foldl record metrics).counter gate tally =
      metrics.counter gate tally + reports.count (.counted gate tally) := by
  induction reports generalizing metrics with
  | nil => rfl
  | cons report rest ih =>
      rw [List.foldl_cons, ih, counter_record, List.count_cons, Nat.add_assoc,
        Nat.add_comm (rest.count _)]
      simp only [beq_iff_eq]

/-- Where no outcome is counted the counters stay as they are. -/
theorem counter_foldl_record_of_uncounted {reports : List Report} (h : Report.Uncounted reports)
    (metrics : Metrics) (gate : String) (tally : Tally) :
    (reports.foldl record metrics).counter gate tally = metrics.counter gate tally := by
  rw [counter_foldl_record, List.count_eq_zero.mpr (h gate tally), Nat.add_zero]

end Metrics

end TrafficGate
