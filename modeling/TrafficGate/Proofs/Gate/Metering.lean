import TrafficGate.Proofs.Gate.Requests
import TrafficGate.Proofs.Metrics.Counting

/-!
# Gate — What the metrics are told

Of a request to a gate the metrics are told the size of the roll afterwards, once, and of a
registration that is refused they are told nothing (`measured_serve`, `measured_serve_cases`).
-/

namespace TrafficGate.Gate

variable {S G H : Type} [Guard G] [Store S]

/-- Storing the declarations is told to the log only. -/
theorem measured_persist (gate : Gate G H) (store : S) :
    Report.measured (gate.persist store).2 = [] := by
  have hlogged : ∀ entries : List Log.Entry, Report.measured (entries.map Report.log) = [] :=
    fun entries => List.filter_eq_nil_iff.mpr (by simp [Report.isMeasured])
  rw [persist]
  rcases Store.load store with ⟨_ | stored, after⟩
  · rfl
  · dsimp only
    cases gate.layout.plan gate.roll.declarations stored with
    | nil => rfl
    | cons first rest =>
        dsimp only
        rcases Store.apply after (first :: rest) with ⟨_ | _, written, entries⟩ <;>
          rw [Report.measured_append, hlogged] <;> rfl

/-- The metrics are told the size of the roll after any request but a registration that is refused. -/
theorem measured_serve (gate : Gate G H) (store : S) (request : Request G H) :
    Report.measured (gate.serve store request).reports =
      match (gate.settled request).1 with
      | .registered (.error _) => []
      | _ => [(gate.settled request).2.sized] := by
  cases request with
  | register name handle guard =>
      simp only [serve, register, settled]
      cases gate.roll.register name handle guard with
      | error e => rfl
      | ok roll =>
          simp only [Report.measured_append, measured_persist]
          rfl
  | unregister name forget =>
      simp only [serve, unregister, settled]
      cases forget with
      | false => rfl
      | true =>
          simp only [if_true, Report.measured_append, measured_persist]
          rfl
  | releaseAll =>
      have hsized : Report.measured gate.releaseAll.2.2 = [gate.releaseAll.2.1.sized] := by
        simp only [releaseAll, post]
        split <;> rfl
      rw [releaseAll_eq] at hsized
      exact hsized

/-- **A registration is refused**, leaves the gate as it is and is told to nobody; **or the metrics are
told the size** of the roll after the request, and nothing else. -/
theorem measured_serve_cases (gate : Gate G H) (store : S) (request : Request G H) :
    ((∃ e, (gate.serve store request).result = .registered (.error e)) ∧
      (gate.serve store request).changed = gate ∧
      Report.measured (gate.serve store request).reports = []) ∨
    ((∀ e, (gate.serve store request).result ≠ .registered (.error e)) ∧
      Report.measured (gate.serve store request).reports =
        [(gate.serve store request).changed.sized]) := by
  rw [measured_serve, serve_result, serve_changed]
  cases request with
  | register name handle guard =>
      simp only [settled]
      cases gate.roll.register name handle guard with
      | error e => exact .inl ⟨⟨e, rfl⟩, rfl, rfl⟩
      | ok roll => exact .inr ⟨fun e h => (by cases h), rfl⟩
  | unregister name forget => exact .inr ⟨fun e h => (by cases h), rfl⟩
  | releaseAll => exact .inr ⟨fun e h => (by cases h), rfl⟩

end TrafficGate.Gate
