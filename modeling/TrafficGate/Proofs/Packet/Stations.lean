import Mathlib.Data.List.Chain
import TrafficGate.Proofs.Packet.Recording
import TrafficGate.Proofs.Stopping

/-!
# Packet — Stations

The way of a packet past the interceptors, told apart from the loops that walk it.

A *station* is an interceptor in its group; a *leg* is one call of it, with the packet it was given,
what the call came to and the packet it left.  `legs` calls station after station, whatever the calls
come to; `made` are the legs up to the first one that decides.

* `Leg.Decisive`: a required interceptor swallows the packet, or any rejects it before processing.
* `route`: the stations of a packet, each group taken when its turn comes.
* `legs_stations`, `given_of_head?_legs`, `legs_linked`: one leg for each station, each with the
  packet that the one before it left.
* `visit_view`, `after_view`, `route_view`: a view sees the same calls and the same route.
-/

namespace TrafficGate

/-- An interceptor in its group, under the name it goes by in the logs. -/
structure Station (H : Type) where
  tier : Tier
  name : String
  handle : H
  deriving DecidableEq, Repr

/-- One call on the way: the station, the packet it is given, what the call comes to, and the packet
it leaves. -/
structure Leg (H : Type) where
  station : Station H
  given : Packet
  outcome : Outcome Flow
  left : Packet
  deriving DecidableEq, Repr

namespace Leg

variable {H : Type}

/-- The call that a leg makes. -/
def call (leg : Leg H) : Call H := ⟨leg.station.tier, leg.station.handle, leg.given⟩

/-- A required interceptor swallows the packet, or any interceptor rejects it before processing. -/
def Decisive (point : Point) (leg : Leg H) : Prop :=
  (leg.station.tier = .required ∧ leg.outcome = .returned .swallow) ∨
    (point.isProcessed = false ∧ ∃ r, leg.outcome = .faulted (.rejected r))

/-- How the traversal stands after a leg. -/
def ending (point : Point) (leg : Leg H) : Ending :=
  match leg.outcome with
  | .returned .swallow => if leg.station.tier = .required then .swallowed else .passed
  | .faulted (.rejected r) => if point.isProcessed then .passed else .rejected r
  | _ => .passed

variable {point : Point} {leg : Leg H}

theorem decisive_iff : leg.Decisive point ↔ leg.ending point ≠ .passed := by
  obtain ⟨station, given, outcome, left⟩ := leg
  unfold Decisive ending
  cases outcome with
  | returned flow => cases flow <;> simp
  | faulted fault => cases fault <;> simp
  | crashed text => simp

instance : DecidablePred (Decisive (H := H) point) := fun _ => decidable_of_iff _ decisive_iff.symm

theorem ending_eq_swallowed_iff :
    leg.ending point = .swallowed ↔
      leg.station.tier = .required ∧ leg.outcome = .returned .swallow := by
  obtain ⟨station, given, outcome, left⟩ := leg
  unfold ending
  cases outcome with
  | returned flow => cases flow <;> simp
  | faulted fault => cases fault <;> cases point.isProcessed <;> simp
  | crashed text => simp

theorem ending_eq_rejected_iff {r : Rejection} :
    leg.ending point = .rejected r ↔
      point.isProcessed = false ∧ leg.outcome = .faulted (.rejected r) := by
  obtain ⟨station, given, outcome, left⟩ := leg
  unfold ending
  cases outcome with
  | returned flow =>
      cases flow with
      | carryOn => simp
      | swallow => dsimp only; split <;> simp
  | faulted fault =>
      cases fault with
      | rejected r' => cases point.isProcessed <;> simp
      | failed reason => simp
  | crashed text => simp

end Leg

/-- The verdict of a traversal that ends so. -/
def Ending.verdict : Ending → Verdict
  | .rejected r => .rejected r
  | _ => .allowed

theorem Ending.verdict_eq_rejected_iff {ending : Ending} {r : Rejection} :
    ending.verdict = .rejected r ↔ ending = .rejected r := by
  cases ending <;> simp [verdict]

namespace PacketHost

variable {σ H : Type} (host : PacketHost σ H)

/-! ### Stations and legs -/

/-- The stations of required interceptors. -/
def requiredStations (members : List (Member H)) : List (Station H) :=
  members.map fun member => ⟨.required, member.name, member.handle⟩

/-- The stations of a chain. -/
def chainStations (tier : Tier) (handles : List H) : List (Station H) :=
  handles.map fun handle => ⟨tier, host.labelOf handle, handle⟩

/-- One call, and the host after it and after what is reported about it. -/
def visit (passage : Passage) (station : Station H) (packet : Packet) (s : σ) : Leg H × σ :=
  let (outcome, left, s) := host.intercept station.tier station.handle passage packet s
  (⟨station, packet, outcome, left⟩,
    (host.settle station.tier station.name passage left outcome s).2)

/-- The calls of station after station, each given the packet that the one before it left. -/
def legs (passage : Passage) : List (Station H) → Packet → σ → List (Leg H)
  | [], _, _ => []
  | station :: rest, packet, s =>
    let (leg, s) := host.visit passage station packet s
    leg :: legs passage rest leg.left s

/-- The packet and the host after all these calls. -/
def after (passage : Passage) : List (Station H) → Packet → σ → Packet × σ
  | [], packet, s => (packet, s)
  | station :: rest, packet, s =>
    let (leg, s) := host.visit passage station packet s
    after passage rest leg.left s

/-- The legs that are made: up to the first decisive one. -/
def made (passage : Passage) (stations : List (Station H)) (packet : Packet) (s : σ) : List (Leg H) :=
  through (Leg.Decisive passage.point) (host.legs passage stations packet s)

/-- The host once the gate has looked at a packet. -/
def checked (passage : Passage) (packet : Packet) (s : σ) : σ :=
  host.report (.log (packet.checked (host.pipeline s).gate.posting.blocked passage.point)) s

/-- The stations behind the required interceptors: the chain for all packets, and then the session's
chain as the interceptors before it leave it. -/
def chainsRoute (passage : Passage) (packet : Packet) (s : σ) : List (Station H) :=
  let everyone := host.chainStations .everyone (host.pipeline s).chain
  let (_, s) := host.after passage everyone packet s
  everyone ++ host.chainStations .principal ((host.pipeline s).sessionChain passage.session)

/-- The stations of a packet: the required interceptors that are posted, and then the chains. -/
def route (passage : Passage) (packet : Packet) (s : σ) : List (Station H) :=
  let required := requiredStations (host.pipeline s).gate.posting.required
  let (left, s) := host.after passage required packet (host.checked passage packet s)
  required ++ host.chainsRoute passage left s

variable {host} {passage : Passage}

theorem legs_append (stations more : List (Station H)) (packet : Packet) (s : σ) :
    host.legs passage (stations ++ more) packet s =
      host.legs passage stations packet s ++
        host.legs passage more (host.after passage stations packet s).1
          (host.after passage stations packet s).2 := by
  induction stations generalizing packet s with
  | nil => rfl
  | cons station rest ih => simp only [List.cons_append, legs, after, ih]

theorem after_append (stations more : List (Station H)) (packet : Packet) (s : σ) :
    host.after passage (stations ++ more) packet s =
      host.after passage more (host.after passage stations packet s).1
        (host.after passage stations packet s).2 := by
  induction stations generalizing packet s with
  | nil => rfl
  | cons station rest ih => simp only [List.cons_append, after, ih]

/-- There is one leg for each station, in their order. -/
theorem legs_stations (stations : List (Station H)) (packet : Packet) (s : σ) :
    (host.legs passage stations packet s).map (·.station) = stations := by
  induction stations generalizing packet s with
  | nil => rfl
  | cons station rest ih =>
      rw [legs, List.map_cons, ih]
      rfl

/-- The first station is given the packet as it came. -/
theorem given_of_head?_legs {stations : List (Station H)} {packet : Packet} {s : σ} {leg : Leg H}
    (h : (host.legs passage stations packet s).head? = some leg) : leg.given = packet := by
  cases stations with
  | nil => cases h
  | cons station rest =>
      cases h
      rfl

/-- Each station is given the packet that the one before it left. -/
theorem legs_linked (stations : List (Station H)) (packet : Packet) (s : σ) :
    (host.legs passage stations packet s).IsChain fun earlier later => later.given = earlier.left := by
  induction stations generalizing packet s with
  | nil => exact .nil
  | cons station rest ih =>
      rw [legs, List.isChain_cons]
      exact ⟨fun later hlater => given_of_head?_legs hlater, ih _ _⟩

/-! ### Views -/

section

variable {τ : Type} {view : τ → σ} {inner : PacketHost τ H} {outer : PacketHost σ H}
  (h : Views view inner outer)

include h

theorem visit_view (station : Station H) (packet : Packet) (t : τ) :
    ((inner.visit passage station packet t).1, view (inner.visit passage station packet t).2) =
      outer.visit passage station packet (view t) := by
  simp only [visit, ← h.intercept, ← settle_view h, seen]

theorem after_view (stations : List (Station H)) (packet : Packet) (t : τ) :
    ((inner.after passage stations packet t).1, view (inner.after passage stations packet t).2) =
      outer.after passage stations packet (view t) := by
  induction stations generalizing packet t with
  | nil => rfl
  | cons station rest ih =>
      simp only [after, ← visit_view h]
      exact ih _ _

theorem chainsRoute_view (packet : Packet) (t : τ) :
    inner.chainsRoute passage packet t = outer.chainsRoute passage packet (view t) := by
  simp only [chainsRoute, chainStations, ← h.pipeline, ← h.labelOf, ← after_view h]

theorem checked_view (packet : Packet) (t : τ) :
    view (inner.checked passage packet t) = outer.checked passage packet (view t) := by
  simp only [checked, ← h.pipeline, h.report]

/-- A view sees the same route. -/
theorem route_view (packet : Packet) (t : τ) :
    inner.route passage packet t = outer.route passage packet (view t) := by
  simp only [route, ← checked_view h, ← h.pipeline, ← after_view h, chainsRoute_view h]

end

end PacketHost

end TrafficGate
