import Mathlib.Data.List.Basic
import TrafficGate.Proofs.Packet.Journey

/-!
# Packet — Reporting

A host whose reports also go to something else that takes reports in (`reportingTo`), be it a list of
them or the metrics.  Whatever takes them in, it is told the same.

* `Leg.tallies`: what is counted of a leg.
* `visit_reports`, `walk_reports`: a call is reported with what is counted of it, and a walk with what
  is counted of the legs it makes.
* `traverse_reports`: a packet that the gate blocks is counted once, as blocked; of any other, what is
  counted of the legs of its route up to the first decisive one is counted.
-/

namespace TrafficGate

/-- What is counted of a leg: what the call came to, and that a required interceptor swallowed the
packet. -/
def Leg.tallies {H : Type} (leg : Leg H) : List Tally :=
  leg.outcome.tallies ++
    if leg.station.tier = .required ∧ leg.outcome = .returned .swallow then [.swallowed] else []

theorem Leg.tallies_of_swallowed {H : Type} {leg : Leg H} {point : Point}
    (h : leg.ending point = .swallowed) : leg.tallies = leg.outcome.tallies ++ [.swallowed] := by
  rw [tallies, if_pos (ending_eq_swallowed_iff.mp h)]

theorem Leg.tallies_of_ne_swallowed {H : Type} {leg : Leg H} {point : Point}
    (h : leg.ending point ≠ .swallowed) : leg.tallies = leg.outcome.tallies := by
  rw [tallies, if_neg (mt ending_eq_swallowed_iff.mpr h), List.append_nil]

namespace PacketHost

variable {σ ρ H : Type} (host : PacketHost σ H)

/-- The host whose reports also go to something else. -/
def reportingTo (take : ρ → Report → ρ) : PacketHost (σ × ρ) H where
  pipeline t := host.pipeline t.1
  intercept tier handle passage packet t :=
    let (outcome, left, s) := host.intercept tier handle passage packet t.1
    (outcome, left, s, t.2)
  labelOf := host.labelOf
  report r t := (host.report r t.1, take t.2 r)

theorem views_reportingTo (take : ρ → Report → ρ) : Views Prod.fst (host.reportingTo take) host :=
  ⟨fun _ => rfl, fun _ _ _ _ _ => rfl, rfl, fun _ _ => rfl⟩

/-- Each report goes to both. -/
theorem foldl_report_reportingTo (take : ρ → Report → ρ) (told : List Report) (s : σ) (k : ρ) :
    told.foldl (fun t r => (host.reportingTo take).report r t) (s, k) =
      (told.foldl (fun s r => host.report r s) s, told.foldl take k) :=
  List.foldl_hom₂ told Prod.mk _ take _ s k fun _ _ _ => rfl

variable (passage : Passage)

/-- A call is reported with what is counted of it. -/
theorem visit_reports (station : Station H) (packet : Packet) (s : σ) :
    ∃ told, (∀ {ρ : Type} (take : ρ → Report → ρ) (k : ρ),
        (host.reportingTo take).visit passage station packet (s, k) =
          ((host.visit passage station packet s).1, (host.visit passage station packet s).2,
            told.foldl take k)) ∧
      Report.measured told =
        (host.visit passage station packet s).1.outcome.tallies.map
          (.counted PacketPipeline.label) := by
  rcases hcall : host.intercept station.tier station.handle passage packet s with
    ⟨outcome, left, called⟩
  obtain ⟨answer, told, hsettle, hmeasured⟩ :=
    settle_reports station.tier station.name passage left outcome
  simp only [visit, hcall, hsettle]
  refine ⟨told, fun take k => ?_, hmeasured⟩
  have hcall' : (host.reportingTo take).intercept station.tier station.handle passage packet (s, k) =
      (outcome, left, called, k) := by
    simp only [reportingTo, hcall]
  simp only [hcall', hsettle, foldl_report_reportingTo]

/-- **A walk is reported** with what is counted of the legs it makes. -/
theorem walk_reports (stations : List (Station H)) (packet : Packet) (s : σ) :
    ∃ told, (∀ {ρ : Type} (take : ρ → Report → ρ) (k : ρ),
        (host.reportingTo take).walk passage stations packet (s, k) =
          ((host.walk passage stations packet s).1, (host.walk passage stations packet s).2.1,
            (host.walk passage stations packet s).2.2, told.foldl take k)) ∧
      Report.measured told =
        ((host.made passage stations packet s).flatMap Leg.tallies).map
          (.counted PacketPipeline.label) := by
  induction stations generalizing packet s with
  | nil => exact ⟨[], fun _ _ => rfl, rfl⟩
  | cons station rest ih =>
      obtain ⟨told, hvisit, hmeasured⟩ := host.visit_reports passage station packet s
      rcases hleg : host.visit passage station packet s with ⟨leg, s'⟩
      obtain ⟨more, hwalk, hmore⟩ := ih leg.left s'
      simp only [hleg] at hmeasured hvisit
      simp only [made, legs, through, walk, hleg, hvisit, Leg.decisive_iff]
      rcases hending : leg.ending passage.point with passed | swallowed | r
      · have hkept : leg.ending passage.point ≠ .swallowed := by simp [hending]
        refine ⟨told ++ more, fun take k => ?_, ?_⟩
        · simp only [hwalk, List.foldl_append]
        · rw [Report.measured_append, hmeasured, hmore, if_neg (not_not.mpr rfl),
            List.flatMap_cons, List.map_append, Leg.tallies_of_ne_swallowed hkept]
          rfl
      · -- that the packet was swallowed is told at last
        refine ⟨told ++ [.counted PacketPipeline.label .swallowed, PacketPipeline.said .trace
          "Packet swallowed" [("component", .shown station.name),
            ("point", .shown passage.point.render)]], fun take k => ?_, ?_⟩
        · rw [List.foldl_append]
          rfl
        · rw [Report.measured_append, hmeasured, if_pos (by simp), List.flatMap_singleton,
            Leg.tallies_of_swallowed hending, List.map_append]
          rfl
      · have hkept : leg.ending passage.point ≠ .swallowed := by simp [hending]
        refine ⟨told, fun _ _ => rfl, ?_⟩
        rw [hmeasured, if_pos (by simp), List.flatMap_singleton, Leg.tallies_of_ne_swallowed hkept]

variable {passage} {packet : Packet} {s : σ}

/-- A packet that the gate blocks is counted once, as blocked. -/
theorem traverse_reports_of_blocks
    (h : (host.pipeline s).gate.posting.blocked.blocks packet.kind passage.point = true) :
    ∃ told, (∀ {ρ : Type} (take : ρ → Report → ρ) (k : ρ),
        (host.reportingTo take).traverse passage packet (s, k) =
          ((host.traverse passage packet s).1, (host.traverse passage packet s).2.1,
            (host.traverse passage packet s).2.2, told.foldl take k)) ∧
      Report.measured told = [.counted PacketPipeline.label .gateBlocked] := by
  obtain ⟨verdict, told, hturned, hmeasured⟩ :=
    turnAway_reports passage packet packet.refusal
  refine ⟨.log (packet.checked (host.pipeline s).gate.posting.blocked passage.point) :: told,
    fun take k => ?_, hmeasured⟩
  have hblocked : (host.reportingTo take).traverse passage packet (s, k) = _ := traverse_of_blocks h
  rw [hblocked, traverse_of_blocks h, hturned, hturned]
  exact congrArg (fun t => (verdict, packet, t)) (host.foldl_report_reportingTo take told _ _)

/-- Of a packet that the gate lets pass, what is counted of the legs it makes is counted. -/
theorem traverse_reports_of_not_blocks
    (h : (host.pipeline s).gate.posting.blocked.blocks packet.kind passage.point = false) :
    ∃ told, (∀ {ρ : Type} (take : ρ → Report → ρ) (k : ρ),
        (host.reportingTo take).traverse passage packet (s, k) =
          ((host.traverse passage packet s).1, (host.traverse passage packet s).2.1,
            (host.traverse passage packet s).2.2, told.foldl take k)) ∧
      Report.measured told =
        ((host.made passage (host.route passage packet s) packet
          (host.checked passage packet s)).flatMap Leg.tallies).map
            (.counted PacketPipeline.label) := by
  obtain ⟨told, hwalk, hmeasured⟩ := host.walk_reports passage (host.route passage packet s) packet
    (host.checked passage packet s)
  refine ⟨.log (packet.checked (host.pipeline s).gate.posting.blocked passage.point) :: told,
    fun take k => ?_, hmeasured⟩
  have hwalked : (host.reportingTo take).traverse passage packet (s, k) = _ := traverse_eq_walk h
  have hchecked : (host.reportingTo take).checked passage packet (s, k) =
      (host.checked passage packet s, take k
        (.log (packet.checked (host.pipeline s).gate.posting.blocked passage.point))) := rfl
  rw [hwalked, traverse_eq_walk h, route_view (host.views_reportingTo take), hchecked, hwalk]
  rfl

end PacketHost

end TrafficGate
