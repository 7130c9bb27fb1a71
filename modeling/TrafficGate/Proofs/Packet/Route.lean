import TrafficGate.Proofs.Packet.Journey
import TrafficGate.Proofs.Packet.Pipeline

/-!
# Packet — Route

What a traversal does, said without its loops (`traverse_follows_the_route`).

The route of a packet takes each group of interceptors when its turn comes, for an interceptor may
change the pipeline.  Where none does (`Steady`), it is the route of the pipeline that the packet
came to (`Steady.route_eq`).
-/

namespace TrafficGate.PacketHost

variable {σ H : Type} {host : PacketHost σ H} {passage : Passage}

/-! ### Interceptors that leave the pipeline alone -/

/-- Neither the interceptors nor what is reported changes the pipeline. -/
structure Steady (host : PacketHost σ H) : Prop where
  intercept tier handle passage packet s :
    host.pipeline (host.intercept tier handle passage packet s).2.2 = host.pipeline s
  report r s : host.pipeline (host.report r s) = host.pipeline s

/-- The interceptors that a pipeline has for a session: the required ones in the order of their
registration, the chain for all packets, and the session's chain. -/
def stations (host : PacketHost σ H) (session : Address) (pipeline : PacketPipeline H) :
    List (Station H) :=
  requiredStations pipeline.gate.posting.required ++
    (host.chainStations .everyone pipeline.chain ++
      host.chainStations .principal (pipeline.sessionChain session))

namespace Steady

variable (h : host.Steady)

include h

theorem after (stations : List (Station H)) (packet : Packet) (s : σ) :
    host.pipeline (host.after passage stations packet s).2 = host.pipeline s := by
  induction stations generalizing packet s with
  | nil => rfl
  | cons station rest ih =>
      simp only [PacketHost.after, visit]
      rw [ih, settle_kept host.pipeline h.report, h.intercept]

/-- Where the pipeline is left alone, a packet's route is that of the pipeline it came to. -/
theorem route_eq (packet : Packet) (s : σ) :
    host.route passage packet s = host.stations passage.session (host.pipeline s) := by
  have hchecked : host.pipeline (host.checked passage packet s) = host.pipeline s := h.report _ _
  simp only [route, chainsRoute, h.after, hchecked]
  rfl

end Steady

/-! ### The traversal -/

/-- **A traversal follows the route.**  Let a packet come to a point of any host, whose interceptors
do anything they can do: change the packet, go on, swallow, reject, fail or crash.

* If the gate blocks the packet, no interceptor is called, the packet stays as it is, and before
  processing it is rejected, while afterwards it is let be.
* If not, the interceptors are called along the packet's route up to the first call that decides —
  a required interceptor swallows the packet, or any rejects it before processing — or to the end if
  none does.  The packet is left as the last call left it, and it is rejected exactly when it has not
  been processed and the last call rejected it, and for the reason given there.
* The route is called in its order, the first station with the packet as it came and each other one
  with the packet that the one before it left.
* Unless interceptors change the pipeline, the route is the required interceptors in the order of
  registration, the chain for all packets, and the session's chain. -/
theorem traverse_follows_the_route (host : PacketHost σ H) (passage : Passage) (packet : Packet)
    (s : σ) :
    let blocked := (host.pipeline s).gate.posting.blocked.blocks packet.kind passage.point
    let result := host.traverse passage packet s
    let route := host.route passage packet s
    let legs := host.legs passage route packet (host.checked passage packet s)
    (blocked = true →
      host.calls passage packet s = [] ∧ result.2.1 = packet ∧
      result.1 = if passage.point.isProcessed then .allowed else .rejected packet.refusal) ∧
    (blocked = false → ∃ made, StopsAt (Leg.Decisive passage.point) made legs ∧
      host.calls passage packet s = made.map Leg.call ∧ result.2.1 = lastLeft packet made ∧
      ∀ r, result.1 = .rejected r ↔ passage.point.isProcessed = false ∧
        ∃ last, made.getLast? = some last ∧ last.outcome = .faulted (.rejected r)) ∧
    (legs.map (·.station) = route ∧ (∀ first, legs.head? = some first → first.given = packet) ∧
      legs.IsChain fun earlier later => later.given = earlier.left) ∧
    (host.Steady → route = host.stations passage.session (host.pipeline s)) := by
  intro blocked result route legs
  refine ⟨fun hblocks => ⟨calls_of_blocks hblocks, left_of_blocks hblocks, verdict_of_blocks hblocks⟩,
    fun hopen => ?_, ⟨legs_stations _ _ _, fun _ => given_of_head?_legs, legs_linked _ _ _⟩,
    fun hsteady => hsteady.route_eq packet s⟩
  -- the traversal that is recorded follows the route, and recording is not noticed
  obtain ⟨ending, hverdict, hfollows⟩ := traverse_follows packet (s, []) hopen
  have hresult : seen Prod.fst (host.recording.traverse passage packet (s, [])) = result :=
    host.traverse_recording passage packet (s, [])
  refine ⟨host.made passage route packet (host.checked passage packet s), stopsAt_through legs,
    hfollows.calls_eq, ?_, fun r => ?_⟩
  · rw [← hresult]
    exact hfollows.left_eq
  · have hrejected : (host.recording.traverse passage packet (s, [])).1 = .rejected r ↔
        ending = .rejected r := hverdict ▸ Ending.verdict_eq_rejected_iff
    rw [← hresult, ← lastEnding_eq_rejected_iff, ← hfollows.ending_eq]
    exact hrejected

/-- A host whose interceptors go by numbers: the first one makes each packet a presence, the second
one crashes, the third one rejects, and the others do nothing. -/
def crew : PacketHost (PacketPipeline Nat) Nat where
  pipeline := id
  intercept _ handle _ packet s :=
    match handle with
    | 1 => (.returned .carryOn, { packet with kind := .presence }, s)
    | 2 => (.crashed none, packet, s)
    | 3 => (.faulted (.rejected .silent), packet, s)
    | _ => (.returned .carryOn, packet, s)
  labelOf := toString
  report _ s := s

theorem steady_crew : crew.Steady where
  intercept tier handle passage packet s := by
    unfold crew
    dsimp only
    split <;> rfl
  report _ _ := rfl

/-- The first one is required, and an absent one guards messages; the second and the third one see
all packets, and the fourth one those of one principal. -/
def crewed : PacketPipeline Nat :=
  let stored := Table.ofList
    [("interceptors.required", "spool"), ("interceptor.blocking.type.spool", "Message")]
  let pipeline : PacketPipeline Nat := PacketPipeline.loaded "here" stored
  { pipeline with
    gate := (pipeline.gate.settled (.register "edit" 1 {})).2
    chain := [2, 3]
    principals := Table.ofList [("me", [4])] }

/-- On its way in a message is blocked.  Another packet is edited, survives the crash and is rejected,
so that the last interceptor does not see it; on its way back it would. -/
theorem crew_at_work :
    let mine : Address := { node := some "me", domain := "Here" }
    let coming : Passage := ⟨mine, ⟨.inbound, .pre⟩⟩
    let gone : Passage := ⟨mine, ⟨.inbound, .post⟩⟩
    let edited : Packet := { kind := .presence }
    crew.calls coming { kind := .message } crewed = [] ∧
      (crew.traverse coming { kind := .iq } crewed).1 = .rejected .silent ∧
      crew.calls coming { kind := .iq } crewed =
        [⟨.required, 1, { kind := .iq }⟩, ⟨.everyone, 2, edited⟩, ⟨.everyone, 3, edited⟩] ∧
      crew.calls gone { kind := .iq } crewed =
        [⟨.required, 1, { kind := .iq }⟩, ⟨.everyone, 2, edited⟩, ⟨.everyone, 3, edited⟩,
          ⟨.principal, 4, edited⟩] := by
  intro mine coming gone edited
  obtain ⟨hblocked, -⟩ := traverse_follows_the_route crew coming { kind := .message } crewed
  obtain ⟨-, hcoming, -, hroute⟩ := traverse_follows_the_route crew coming { kind := .iq } crewed
  obtain ⟨-, hgone, -, hroute'⟩ := traverse_follows_the_route crew gone { kind := .iq } crewed
  obtain ⟨made, hmade, hcalls, -, hverdict⟩ := hcoming (by decide +kernel)
  obtain ⟨made', hmade', hcalls', -⟩ := hgone (by decide +kernel)
  rw [hroute steady_crew] at hmade
  rw [hroute' steady_crew] at hmade'
  -- on the known route the legs, and which of them are made, can be computed
  rw [hmade.eq_through] at hcalls hverdict
  rw [hmade'.eq_through] at hcalls'
  exact ⟨(hblocked (by decide +kernel)).1, (hverdict _).mpr (by decide +kernel),
    hcalls.trans (by decide +kernel), hcalls'.trans (by decide +kernel)⟩

end TrafficGate.PacketHost
