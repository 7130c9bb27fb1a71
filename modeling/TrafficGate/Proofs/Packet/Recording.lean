import TrafficGate.Packet.Traversal
import TrafficGate.Proofs.Metrics.Counting

/-!
# Packet — Recording

A host that keeps every call of an interceptor (`recording`), so that what a traversal calls can be
told (`calls`).

* `settle_reports`: what an outcome comes to; the host only takes reports about it, by which a call
  that was not answered is counted once.  `turnAway_reports`: the same of a packet that is turned away.
* `Views`: a host that is a view of another one works as that one does.  A host is a view of its
  recording host (`views_recording`).
* `calls_of_blocks`, `left_of_blocks`, `verdict_of_blocks`: a packet that the gate blocks is shown to no
  interceptor.
-/

namespace TrafficGate

/-- A call of an interceptor: its group, the interceptor, and the packet it is given. -/
structure Call (H : Type) where
  tier : Tier
  handle : H
  packet : Packet
  deriving DecidableEq, Repr

namespace PacketHost

variable {σ τ H : Type}

/-! ### What is settled -/

/-- What an outcome comes to does not depend on the host, which only takes reports about it: of
these, the metrics are told what is counted of the outcome. -/
theorem settle_reports (tier : Tier) (component : String) (passage : Passage) (packet : Packet)
    (outcome : Outcome Flow) :
    ∃ (answer : Except Rejection (Option Flow)) (reports : List Report),
      (∀ {σ H : Type} (host : PacketHost σ H) (s : σ),
        host.settle tier component passage packet outcome s =
          (answer, reports.foldl (fun s r => host.report r s) s)) ∧
      Report.measured reports = outcome.tallies.map (.counted PacketPipeline.label) := by
  unfold settle
  cases outcome with
  | returned flow => exact ⟨_, [], fun _ _ => rfl, rfl⟩
  | faulted fault =>
      cases fault with
      | rejected r =>
          cases passage.point.isProcessed with
          | true => exact ⟨_, [_, _], fun _ _ => rfl, rfl⟩
          | false => exact ⟨_, [_, _], fun _ _ => rfl, rfl⟩
      | failed reason => exact ⟨_, [_, _], fun _ _ => rfl, rfl⟩
  | crashed text => exact ⟨_, [_, _], fun _ _ => rfl, rfl⟩

/-- Turning a packet away comes to reports too, of which the metrics are told that the gate blocked the
packet. -/
theorem turnAway_reports (passage : Passage) (packet : Packet) (r : Rejection) :
    ∃ (verdict : Verdict) (reports : List Report),
      (∀ {σ H : Type} (host : PacketHost σ H) (s : σ),
        host.turnAway passage packet r s =
          (verdict, packet, reports.foldl (fun s r => host.report r s) s)) ∧
      Report.measured reports = [.counted PacketPipeline.label .gateBlocked] := by
  unfold turnAway
  cases passage.point.isProcessed with
  | true => exact ⟨_, [_, _], fun _ _ => rfl, rfl⟩
  | false => exact ⟨_, [_, _], fun _ _ => rfl, rfl⟩

/-- What no report changes is not changed by settling either. -/
theorem settle_kept {α : Type} {host : PacketHost σ H} (f : σ → α)
    (h : ∀ r s, f (host.report r s) = f s) (tier : Tier) (component : String) (passage : Passage)
    (packet : Packet) (outcome : Outcome Flow) (s : σ) :
    f (host.settle tier component passage packet outcome s).2 = f s := by
  obtain ⟨answer, reports, hsettle, -⟩ := settle_reports tier component passage packet outcome
  rw [hsettle]
  clear hsettle
  induction reports generalizing s with
  | nil => rfl
  | cons report rest ih => exact (ih _).trans (h report s)

/-! ### Views -/

/-- What is seen of a result when a view of the state is taken. -/
def seen {α : Type} (view : τ → σ) (result : α × Packet × τ) : α × Packet × σ :=
  (result.1, result.2.1, view result.2.2)

/-- The states of `inner`, seen by `view`, are the states of `outer`, and the two work alike. -/
structure Views (view : τ → σ) (inner : PacketHost τ H) (outer : PacketHost σ H) : Prop where
  pipeline t : inner.pipeline t = outer.pipeline (view t)
  intercept tier handle passage packet t :
    seen view (inner.intercept tier handle passage packet t) =
      outer.intercept tier handle passage packet (view t)
  labelOf : inner.labelOf = outer.labelOf
  report r t : view (inner.report r t) = outer.report r (view t)

section

variable {view : τ → σ} {inner : PacketHost τ H} {outer : PacketHost σ H}
  (h : Views view inner outer)

include h

theorem foldl_report_view (reports : List Report) (t : τ) :
    reports.foldl (fun s r => outer.report r s) (view t) =
      view (reports.foldl (fun t r => inner.report r t) t) :=
  List.foldl_hom view fun t r => (h.report r t).symm

theorem settle_view (tier : Tier) (component : String) (passage : Passage) (packet : Packet)
    (outcome : Outcome Flow) (t : τ) :
    ((inner.settle tier component passage packet outcome t).1,
        view (inner.settle tier component passage packet outcome t).2) =
      outer.settle tier component passage packet outcome (view t) := by
  obtain ⟨answer, reports, hsettle, -⟩ := settle_reports tier component passage packet outcome
  rw [hsettle, hsettle, foldl_report_view h]

theorem turnAway_view (passage : Passage) (packet : Packet) (r : Rejection) (t : τ) :
    seen view (inner.turnAway passage packet r t) = outer.turnAway passage packet r (view t) := by
  obtain ⟨verdict, reports, hturned, -⟩ := turnAway_reports passage packet r
  rw [hturned, hturned, foldl_report_view h]
  rfl

end

/-! ### The recording host -/

variable (host : PacketHost σ H)

/-- The host that also keeps the calls that are made, in order. -/
def recording : PacketHost (σ × List (Call H)) H where
  pipeline t := host.pipeline t.1
  intercept tier handle passage packet t :=
    let (outcome, left, s) := host.intercept tier handle passage packet t.1
    (outcome, left, s, t.2 ++ [⟨tier, handle, packet⟩])
  labelOf := host.labelOf
  report r t := (host.report r t.1, t.2)

/-- The calls that are made while a packet passes a point. -/
def calls (passage : Passage) (packet : Packet) (s : σ) : List (Call H) :=
  (host.recording.traverse passage packet (s, [])).2.2.2

theorem views_recording : Views Prod.fst host.recording host :=
  ⟨fun _ => rfl, fun _ _ _ _ _ => rfl, rfl, fun _ _ => rfl⟩

/-! ### Blocked packets -/

variable {host} {passage : Passage} {packet : Packet} {s : σ}

/-- A packet that the gate blocks is turned away. -/
theorem traverse_of_blocks
    (h : (host.pipeline s).gate.posting.blocked.blocks packet.kind passage.point = true) :
    host.traverse passage packet s =
      host.turnAway passage packet packet.refusal
        (host.report (.log (packet.checked (host.pipeline s).gate.posting.blocked passage.point))
          s) := by
  have hgate : packet.gateVerdict (host.pipeline s).gate.posting.blocked passage.point =
      .rejected packet.refusal := if_pos h
  simp only [traverse, hgate]

/-- Before processing, a packet that the gate blocks is rejected; afterwards it is let be. -/
theorem verdict_of_blocks
    (h : (host.pipeline s).gate.posting.blocked.blocks packet.kind passage.point = true) :
    (host.traverse passage packet s).1 =
      if passage.point.isProcessed then .allowed else .rejected packet.refusal := by
  rw [traverse_of_blocks h, turnAway]
  split <;> rfl

/-- A packet that the gate blocks stays as it is. -/
theorem left_of_blocks
    (h : (host.pipeline s).gate.posting.blocked.blocks packet.kind passage.point = true) :
    (host.traverse passage packet s).2.1 = packet := by
  rw [traverse_of_blocks h, turnAway]
  split <;> rfl

/-- A packet that the gate blocks is shown to no interceptor. -/
theorem calls_of_blocks
    (h : (host.pipeline s).gate.posting.blocked.blocks packet.kind passage.point = true) :
    host.calls passage packet s = [] := by
  have hturned : host.recording.traverse passage packet (s, []) = _ := traverse_of_blocks h
  rw [calls, hturned, turnAway]
  split <;> rfl

end PacketHost

end TrafficGate
