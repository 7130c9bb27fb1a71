import TrafficGate.Proofs.Packet.Stations

/-!
# Packet — Walk

A traversal has a loop for the required interceptors and one for each chain.  All of them are one
`walk`, from station to station.

* `runRequired_eq_walk`, `runChain_eq_walk`: each loop walks its stations.
* `walk_append`: behind stations that were passed, a walk goes on.
* `traverse_eq_walk`: a packet that the gate lets pass walks its route.
* `traverse_view`: a view sees the same traversal.  Recording is not noticed, then
  (`traverse_recording`).
-/

namespace TrafficGate.PacketHost

variable {σ H : Type} (host : PacketHost σ H)

/-- What is reported when a required interceptor has swallowed a packet. -/
def noteSwallow (passage : Passage) (station : Station H) (s : σ) : σ :=
  host.say .trace "Packet swallowed"
    [("component", .shown station.name), ("point", .shown passage.point.render)]
    (host.count .swallowed s)

/-- Station after station is called, until a leg decides. -/
def walk (passage : Passage) : List (Station H) → Packet → σ → Ending × Packet × σ
  | [], packet, s => (.passed, packet, s)
  | station :: rest, packet, s =>
    let (leg, s) := host.visit passage station packet s
    match leg.ending passage.point with
    | .passed => walk passage rest leg.left s
    | .swallowed => (.swallowed, leg.left, host.noteSwallow passage station s)
    | .rejected r => (.rejected r, leg.left, s)

variable {host} {passage : Passage}

theorem walk_append (stations more : List (Station H)) (packet : Packet) (s : σ) :
    host.walk passage (stations ++ more) packet s =
      match host.walk passage stations packet s with
      | (.passed, left, s) => host.walk passage more left s
      | decided => decided := by
  induction stations generalizing packet s with
  | nil => rfl
  | cons station rest ih =>
      simp only [List.cons_append, walk]
      split
      · exact ih _ _
      · rfl
      · rfl

/-- Who passes all stations has made all calls. -/
theorem after_of_walk {stations : List (Station H)} {packet left : Packet} {s s' : σ}
    (h : host.walk passage stations packet s = (.passed, left, s')) :
    host.after passage stations packet s = (left, s') := by
  induction stations generalizing packet s with
  | nil =>
      cases h
      rfl
  | cons station rest ih =>
      simp only [walk] at h
      split at h
      · exact ih h
      · cases h
      · cases h

/-- Nothing is swallowed in a chain. -/
theorem walk_ne_swallowed {tier : Tier} (htier : tier ≠ .required) (handles : List H)
    (packet : Packet) (s : σ) :
    (host.walk passage (host.chainStations tier handles) packet s).1 ≠ .swallowed := by
  induction handles generalizing packet s with
  | nil => exact nofun
  | cons handle rest ih =>
      have hstations : host.chainStations tier (handle :: rest) =
          ⟨tier, host.labelOf handle, handle⟩ :: host.chainStations tier rest := rfl
      simp only [hstations, walk]
      split
      · exact ih _ _
      · rename_i hswallowed
        exact absurd (Leg.ending_eq_swallowed_iff.mp hswallowed).1 htier
      · exact nofun

/-! ### The loops -/

/-- How the traversal stands after an answer that was settled. -/
def endingOf (tier : Tier) : Except Rejection (Option Flow) → Ending
  | .error r => .rejected r
  | .ok (some .swallow) => if tier = .required then .swallowed else .passed
  | .ok _ => .passed

variable (host passage)

theorem endingOf_settle (station : Station H) (given : Packet) (outcome : Outcome Flow)
    (left : Packet) (s : σ) :
    endingOf station.tier (host.settle station.tier station.name passage left outcome s).1 =
      Leg.ending passage.point ⟨station, given, outcome, left⟩ := by
  unfold settle Leg.ending
  cases outcome with
  | returned flow => cases flow <;> rfl
  | faulted fault =>
      cases fault with
      | rejected r =>
          simp only [Outcome.isolate]
          split <;> rfl
      | failed reason => rfl
  | crashed text => rfl

variable {host passage}

theorem runRequired_eq_walk (members : List (Member H)) (packet : Packet) (s : σ) :
    host.runRequired passage members packet s =
      host.walk passage (requiredStations members) packet s := by
  induction members generalizing packet s with
  | nil => rfl
  | cons member rest ih =>
      rcases hcall : host.intercept .required member.handle passage packet s with
        ⟨outcome, left, called⟩
      have hending := host.endingOf_settle passage ⟨.required, member.name, member.handle⟩ packet
        outcome left called
      rcases hsettle : host.settle .required member.name passage left outcome called with
        ⟨answer, settled⟩
      have hstations : requiredStations (member :: rest) =
          ⟨.required, member.name, member.handle⟩ :: requiredStations rest := rfl
      simp only [hsettle] at hending
      simp only [hstations, runRequired, walk, visit, hcall, hsettle, ← hending]
      rcases answer with r | none | carryOn | swallow
      · rfl
      · exact ih left settled
      · exact ih left settled
      · rfl

theorem runChain_eq_walk {tier : Tier} (htier : tier ≠ .required) (handles : List H)
    (packet : Packet) (s : σ) :
    host.runChain tier passage handles packet s =
      host.walk passage (host.chainStations tier handles) packet s := by
  induction handles generalizing packet s with
  | nil => rfl
  | cons handle rest ih =>
      rcases hcall : host.intercept tier handle passage packet s with ⟨outcome, left, called⟩
      have hending := host.endingOf_settle passage ⟨tier, host.labelOf handle, handle⟩ packet
        outcome left called
      rcases hsettle : host.settle tier (host.labelOf handle) passage left outcome called with
        ⟨answer, settled⟩
      have hstations : host.chainStations tier (handle :: rest) =
          ⟨tier, host.labelOf handle, handle⟩ :: host.chainStations tier rest := rfl
      simp only [hsettle] at hending
      simp only [hstations, runChain, walk, visit, hcall, hsettle, ← hending]
      rcases answer with r | none | carryOn | swallow
      · rfl
      · exact ih left settled
      · exact ih left settled
      · -- in a chain nothing is swallowed
        simp only [endingOf, if_neg htier]
        exact ih left settled

/-- The chains behind the required interceptors walk their stations. -/
theorem runChains_eq_walk (packet : Packet) (s : σ) :
    host.runChains passage packet s =
      ((host.walk passage (host.chainsRoute passage packet s) packet s).1.verdict,
        (host.walk passage (host.chainsRoute passage packet s) packet s).2) := by
  have heveryone : Tier.everyone ≠ .required := nofun
  have hprincipal : Tier.principal ≠ .required := nofun
  have hkept : (host.walk passage (host.chainStations .everyone (host.pipeline s).chain) packet
      s).1 ≠ .swallowed := walk_ne_swallowed heveryone _ _ _
  simp only [runChains, chainsRoute, runChain_eq_walk heveryone, runChain_eq_walk hprincipal,
    walk_append]
  rcases hwalk : host.walk passage (host.chainStations .everyone (host.pipeline s).chain) packet s
    with ⟨passed | swallowed | r, left, s'⟩
  · -- the second chain is taken from the state that the first one left
    simp only [after_of_walk hwalk]
    rcases host.walk passage (host.chainStations .principal
      ((host.pipeline s').sessionChain passage.session)) left s' with
        ⟨passed | swallowed | r, left', s''⟩
    · rfl
    · rfl
    · rfl
  · exact absurd (congrArg Prod.fst hwalk) hkept
  · rfl

/-- **A packet that the gate lets pass walks its route.** -/
theorem traverse_eq_walk {packet : Packet} {s : σ}
    (h : (host.pipeline s).gate.posting.blocked.blocks packet.kind passage.point = false) :
    host.traverse passage packet s =
      let result :=
        host.walk passage (host.route passage packet s) packet (host.checked passage packet s)
      (result.1.verdict, result.2) := by
  have hgate : packet.gateVerdict (host.pipeline s).gate.posting.blocked passage.point = .allowed :=
    if_neg (by rw [h]; exact Bool.false_ne_true)
  have hchecked : host.report
      (.log (packet.checked (host.pipeline s).gate.posting.blocked passage.point)) s =
        host.checked passage packet s := rfl
  simp only [traverse, hgate, hchecked, runRequired_eq_walk, route, walk_append]
  rcases hwalk : host.walk passage (requiredStations (host.pipeline s).gate.posting.required) packet
    (host.checked passage packet s) with ⟨passed | swallowed | r, left, s'⟩
  · simp only [after_of_walk hwalk, runChains_eq_walk]
  · rfl
  · rfl

/-! ### Views -/

section

variable {τ : Type} {view : τ → σ} {inner : PacketHost τ H} {outer : PacketHost σ H}
  (h : Views view inner outer)

include h

theorem walk_view (stations : List (Station H)) (packet : Packet) (t : τ) :
    seen view (inner.walk passage stations packet t) =
      outer.walk passage stations packet (view t) := by
  induction stations generalizing packet t with
  | nil => rfl
  | cons station rest ih =>
      simp only [walk, ← visit_view h]
      split
      · exact ih _ _
      · simp only [seen, noteSwallow, say, count, h.report]
      · rfl

/-- **A view sees the same traversal.** -/
theorem traverse_view (passage : Passage) (packet : Packet) (t : τ) :
    seen view (inner.traverse passage packet t) = outer.traverse passage packet (view t) := by
  have hpipeline := h.pipeline t
  cases hblocks :
      (inner.pipeline t).gate.posting.blocked.blocks packet.kind passage.point with
  | true =>
      rw [traverse_of_blocks hblocks, traverse_of_blocks (hpipeline ▸ hblocks), turnAway_view h,
        h.report, hpipeline]
  | false =>
      rw [traverse_eq_walk hblocks, traverse_eq_walk (hpipeline ▸ hblocks), ← route_view h,
        ← checked_view h, ← walk_view h]
      rfl

end

/-- Recording is not noticed. -/
theorem traverse_recording (host : PacketHost σ H) (passage : Passage) (packet : Packet)
    (t : σ × List (Call H)) :
    seen Prod.fst (host.recording.traverse passage packet t) = host.traverse passage packet t.1 :=
  traverse_view host.views_recording passage packet t

end TrafficGate.PacketHost
