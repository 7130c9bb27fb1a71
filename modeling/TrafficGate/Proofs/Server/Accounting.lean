import TrafficGate.Proofs.Packet.Reporting
import TrafficGate.Proofs.Room.Reporting
import TrafficGate.Proofs.Server.Sharing

/-!
# Server — Accounting

The counters of a server, told apart from the places where it counts.

A packet that passes a point, an event that is announced and an event that is told of are the
*traffic* of a server.  `outcomes` are what one piece of traffic tells the metrics; with the metrics
beside the state (`metered`) the counters grow by just that.

* `handle_reportingTo`: whatever takes the reports in is told the same, and changes nothing else.
* `counter_after`: over a run the counters grow by the numbers of the outcomes in its `ledger`.
* `Server.serve_uncounted`: no request to a server is counted.
* `outcomes_are_accounted_for`: what each piece of traffic is counted as.
-/

namespace TrafficGate

/-- What a server handles: a packet at a point, an event that is announced before it happens, and an
event that is told of afterwards. -/
inductive Traffic where
  | passing (passage : Passage) (packet : Packet)
  | announcing (event : RoomEvent)
  | telling (event : RoomEvent)

/-- Where the interceptors and the listeners of a server live. -/
structure Hosts (σ I L : Type) where
  packets : PacketHost σ I
  rooms : RoomHost σ L

namespace Hosts

variable {σ ρ I L : Type} (hosts : Hosts σ I L)

/-- The state after some traffic. -/
def handle : Traffic → σ → σ
  | .passing passage packet, s => (hosts.packets.traverse passage packet s).2.2
  | .announcing event, s => (hosts.rooms.announce event s).2
  | .telling event, s => hosts.rooms.notify event s

/-- The hosts whose reports also go to something else. -/
def reportingTo (take : ρ → Report → ρ) : Hosts (σ × ρ) I L :=
  ⟨hosts.packets.reportingTo take, hosts.rooms.reportingTo take⟩

/-- What is reported while traffic is handled, in order.  A component may itself bring about traffic:
what is reported about that is reported by its own handling. -/
def reports (traffic : Traffic) (s : σ) : List Report :=
  ((hosts.reportingTo fun told report => told ++ [report]).handle traffic (s, [])).2

/-- What the metrics are told while traffic is handled, in order. -/
def outcomes (traffic : Traffic) (s : σ) : List Report := Report.measured (hosts.reports traffic s)

/-- The hosts with metrics beside their state. -/
def metered : Hosts (σ × Metrics) I L := hosts.reportingTo Metrics.record

/-- The state after a run of traffic, with whatever befalls the state in between. -/
def after (turns : List (Turn σ Traffic)) (s : σ) : σ :=
  turns.foldl (fun s turn => hosts.handle turn.request (turn.befalls s)) s

/-- What the metrics are told in a run by the traffic in it, in order. -/
def ledger : List (Turn (σ × Metrics) Traffic) → σ × Metrics → List Report
  | [], _ => []
  | turn :: rest, t =>
    hosts.outcomes turn.request (turn.befalls t).1 ++
      ledger rest (hosts.metered.handle turn.request (turn.befalls t))

/-! ### One piece of traffic -/

/-- What traffic is to be counted as. -/
def due : Traffic → σ → List Report
  | .passing passage packet, s =>
    if (hosts.packets.pipeline s).gate.posting.blocked.blocks packet.kind passage.point then
      [.counted PacketPipeline.label .gateBlocked]
    else
      ((hosts.packets.made passage (hosts.packets.route passage packet s) packet
        (hosts.packets.checked passage packet s)).flatMap Leg.tallies).map
          (.counted PacketPipeline.label)
  | .announcing event, s =>
    let posting := (hosts.rooms.pipeline s).gate.posting
    if posting.blocked.blocks event.category then [.counted RoomPipeline.label .gateBlocked]
    else
      ((through Inquiry.Decisive (hosts.rooms.inquiries event posting.required s)).flatMap
        Inquiry.tallies).map (.counted RoomPipeline.label)
  | .telling event, s =>
    ((hosts.rooms.heard event s).flatMap Hearing.tallies).map (.counted RoomPipeline.label)

/-- Traffic is reported in one way, whatever takes the reports in, and the metrics are told what it is
to be counted as. -/
theorem exists_told (traffic : Traffic) (s : σ) :
    ∃ told : List Report, (∀ {ρ : Type} (take : ρ → Report → ρ) (k : ρ),
        (hosts.reportingTo take).handle traffic (s, k) =
          (hosts.handle traffic s, told.foldl take k)) ∧
      Report.measured told = hosts.due traffic s := by
  cases traffic with
  | passing passage packet =>
      cases h : (hosts.packets.pipeline s).gate.posting.blocked.blocks packet.kind passage.point with
      | true =>
          obtain ⟨told, htraverse, hmeasured⟩ := hosts.packets.traverse_reports_of_blocks h
          refine ⟨told, fun take k => ?_, hmeasured.trans (if_pos h).symm⟩
          exact congrArg (·.2.2) (htraverse take k)
      | false =>
          obtain ⟨told, htraverse, hmeasured⟩ := hosts.packets.traverse_reports_of_not_blocks h
          refine ⟨told, fun take k => ?_, hmeasured.trans (if_neg (Bool.eq_false_iff.mp h)).symm⟩
          exact congrArg (·.2.2) (htraverse take k)
  | announcing event =>
      cases h : (hosts.rooms.pipeline s).gate.posting.blocked.blocks event.category with
      | true =>
          obtain ⟨told, hannounce, hmeasured⟩ := RoomHost.announce_reports_of_blocks h
          refine ⟨told, fun take k => ?_, hmeasured.trans (if_pos h).symm⟩
          exact congrArg (·.2) (hannounce take k)
      | false =>
          obtain ⟨told, hannounce, hmeasured⟩ := RoomHost.announce_reports_of_not_blocks h
          refine ⟨told, fun take k => ?_, hmeasured.trans (if_neg (Bool.eq_false_iff.mp h)).symm⟩
          exact congrArg (·.2) (hannounce take k)
  | telling event => exact hosts.rooms.notify_reports event s

theorem reports_told (traffic : Traffic) (s : σ) :
    (∀ {ρ : Type} (take : ρ → Report → ρ) (k : ρ),
        (hosts.reportingTo take).handle traffic (s, k) =
          (hosts.handle traffic s, (hosts.reports traffic s).foldl take k)) ∧
      hosts.outcomes traffic s = hosts.due traffic s := by
  obtain ⟨told, htold, hmeasured⟩ := hosts.exists_told traffic s
  have hreports : hosts.reports traffic s = told := by
    rw [reports, htold, List.foldl_append_eq_append, List.nil_append, ← List.flatMap_def,
      List.flatMap_singleton']
  rw [outcomes, hreports]
  exact ⟨htold, hmeasured⟩

/-- Whatever takes the reports in is told the same, and changes nothing else. -/
theorem handle_reportingTo (take : ρ → Report → ρ) (traffic : Traffic) (s : σ) (k : ρ) :
    (hosts.reportingTo take).handle traffic (s, k) =
      (hosts.handle traffic s, (hosts.reports traffic s).foldl take k) :=
  (hosts.reports_told traffic s).1 take k

/-- **The metrics are told what traffic is to be counted as.** -/
theorem outcomes_eq_due (traffic : Traffic) (s : σ) :
    hosts.outcomes traffic s = hosts.due traffic s :=
  (hosts.reports_told traffic s).2

/-! ### Runs -/

/-- Traffic adds to a counter what it told the metrics of its outcome. -/
theorem counter_handle (traffic : Traffic) (t : σ × Metrics) (gate : String) (tally : Tally) :
    (hosts.metered.handle traffic t).2.counter gate tally =
      t.2.counter gate tally + (hosts.outcomes traffic t.1).count (.counted gate tally) := by
  rw [metered, handle_reportingTo, Metrics.counter_foldl_record, outcomes, Report.count_measured]

/-- **Over a run, the counters grow by what is in its ledger**, if nothing else counts. -/
theorem counter_after {turns : List (Turn (σ × Metrics) Traffic)} {gate : String} {tally : Tally}
    (hcalm : ∀ turn ∈ turns, ∀ t, (turn.befalls t).2.counter gate tally = t.2.counter gate tally)
    (t : σ × Metrics) :
    (hosts.metered.after turns t).2.counter gate tally =
      t.2.counter gate tally + (hosts.ledger turns t).count (.counted gate tally) := by
  induction turns generalizing t with
  | nil => rfl
  | cons turn rest ih =>
      obtain ⟨hturn, hrest⟩ := List.forall_mem_cons.mp hcalm
      have hafter : hosts.metered.after (turn :: rest) t =
          hosts.metered.after rest (hosts.metered.handle turn.request (turn.befalls t)) := rfl
      rw [hafter, ih hrest, counter_handle, hturn, ledger, List.count_append, Nat.add_assoc]

end Hosts

/-! ### Requests -/

section

variable {S G H : Type} [Store S] [Guard G]

theorem Gate.persist_uncounted (gate : Gate G H) (store : S) :
    Report.Uncounted (gate.persist store).2 := by
  intro label tally
  rw [Gate.persist]
  split
  · simp [Gate.said]
  · split
    · simp
    · split <;> simp [Gate.said]

/-- No request to a gate is counted. -/
theorem Gate.serve_uncounted (gate : Gate G H) (store : S) (request : Request G H) :
    Report.Uncounted (gate.serve store request).reports := by
  intro label tally
  cases request with
  | register name handle guard =>
      simp only [Gate.serve, Gate.register]
      split
      · simp
      · simp [Gate.post, Gate.said, Gate.sized, Gate.persist_uncounted _ _ label tally]
  | unregister name forget =>
      simp only [Gate.serve, Gate.unregister]
      cases forget with
      | true => simp [Gate.post, Gate.said, Gate.sized, Gate.persist_uncounted _ _ label tally]
      | false => simp [Gate.post, Gate.said, Gate.sized]
  | releaseAll =>
      simp only [Gate.serve, Gate.releaseAll]
      split
      · simp [Gate.post, Gate.said, Gate.sized]
      · simp [Gate.post, Gate.said, Gate.sized]

/-- No request to a server is counted. -/
theorem Server.serve_uncounted (server : Server H) (store : S) (request : ServerRequest H) :
    Report.Uncounted (server.serve store request).reports := by
  intro label tally
  -- before its gate does, a pipeline logs what it is asked
  cases request with
  | toPackets request =>
      have hgate := server.packets.gate.serve_uncounted store request label tally
      cases request with
      | register name handle guard => exact List.not_mem_cons_of_ne_of_not_mem nofun hgate
      | unregister name forget => exact List.not_mem_cons_of_ne_of_not_mem nofun hgate
      | releaseAll => exact hgate
  | toRooms request =>
      have hgate := server.rooms.gate.serve_uncounted store request label tally
      cases request with
      | register name handle guard => exact List.not_mem_cons_of_ne_of_not_mem nofun hgate
      | unregister name forget => exact List.not_mem_cons_of_ne_of_not_mem nofun hgate
      | releaseAll => exact hgate

end

namespace Hosts

/-! ### The accounts -/

variable {σ I L : Type}

/-- **Outcomes are accounted for.**  Let interceptors and listeners do anything they can do.

* Of a packet that the gate blocks, before processing or afterwards, the metrics are told that the
  gate blocked it and nothing else.  Of any other they are told, for each call that is made and in the
  order of the calls: a rejection where the interceptor rejected the packet, also where that is
  dropped; a fault where it failed or crashed; a swallowing where a required interceptor swallowed the
  packet; and nothing for any other answer.
* The same holds of an event that is announced, where the metrics are told of a veto if a required
  listener handled the event.
* Of an event that is told of, the metrics are told of one fault for each call that a listener did not
  bring to an end, and never that the gate blocked the event.
* Over a run of traffic, each counter grows by the number of its outcomes among what the metrics were
  told, if nothing that comes in between counts; and no request to a server counts. -/
theorem outcomes_are_accounted_for (hosts : Hosts σ I L) :
    (∀ (passage : Passage) (packet : Packet) (s : σ),
      let blocked :=
        (hosts.packets.pipeline s).gate.posting.blocked.blocks packet.kind passage.point
      let legs := hosts.packets.legs passage (hosts.packets.route passage packet s) packet
        (hosts.packets.checked passage packet s)
      let outcomes := hosts.outcomes (.passing passage packet) s
      (blocked = true → outcomes = [.counted "packet" .gateBlocked]) ∧
      (blocked = false → ∃ made, StopsAt (Leg.Decisive passage.point) made legs ∧
        hosts.packets.calls passage packet s = made.map Leg.call ∧
        outcomes = (made.flatMap Leg.tallies).map (.counted "packet"))) ∧
    (∀ (event : RoomEvent) (s : σ),
      let posting := (hosts.rooms.pipeline s).gate.posting
      let inquiries := hosts.rooms.inquiries event posting.required s
      let outcomes := hosts.outcomes (.announcing event) s
      (posting.blocked.blocks event.category = true →
        outcomes = [.counted "room" .gateBlocked]) ∧
      (posting.blocked.blocks event.category = false → ∃ made,
        StopsAt Inquiry.Decisive made inquiries ∧
        hosts.rooms.asks event s = made.map (·.call event) ∧
        outcomes = (made.flatMap Inquiry.tallies).map (.counted "room"))) ∧
    (∀ (event : RoomEvent) (s : σ),
      let heard := hosts.rooms.heard event s
      let outcomes := hosts.outcomes (.telling event) s
      hosts.rooms.tells event s = heard.map (·.call event) ∧
      outcomes = (heard.flatMap Hearing.tallies).map (.counted "room") ∧
      .counted "room" .gateBlocked ∉ outcomes) ∧
    (∀ (turns : List (Turn (σ × Metrics) Traffic)) (t : σ × Metrics) (gate : String) (tally : Tally),
      (∀ turn ∈ turns, ∀ t, (turn.befalls t).2.counter gate tally = t.2.counter gate tally) →
      (hosts.metered.after turns t).2.counter gate tally =
        t.2.counter gate tally + (hosts.ledger turns t).count (.counted gate tally)) ∧
    ∀ {S H : Type} [Store S] (server : Server H) (store : S) (request : ServerRequest H)
      (metrics : Metrics) (gate : String) (tally : Tally),
      ((server.serve store request).reports.foldl Metrics.record metrics).counter gate tally =
        metrics.counter gate tally := by
  refine ⟨fun passage packet s => ⟨fun h => ?_, fun h => ⟨_, stopsAt_through _,
      PacketHost.calls_of_not_blocks h, ?_⟩⟩,
    fun event s => ⟨fun h => ?_, fun h => ⟨_, stopsAt_through _, RoomHost.asks_of_not_blocks h, ?_⟩⟩,
    fun event s => ⟨hosts.rooms.tells_eq event s, ?_, ?_⟩,
    fun turns t gate tally hcalm => hosts.counter_after hcalm t,
    fun server store request =>
      Metrics.counter_foldl_record_of_uncounted (server.serve_uncounted store request)⟩
  · exact (hosts.outcomes_eq_due _ s).trans (if_pos h)
  · exact (hosts.outcomes_eq_due _ s).trans (if_neg (Bool.eq_false_iff.mp h))
  · exact (hosts.outcomes_eq_due _ s).trans (if_pos h)
  · exact (hosts.outcomes_eq_due _ s).trans (if_neg (Bool.eq_false_iff.mp h))
  · exact hosts.outcomes_eq_due _ s
  · intro hblocked
    rw [hosts.outcomes_eq_due] at hblocked
    obtain ⟨tally, htally, hcounted⟩ := List.mem_map.mp hblocked
    obtain ⟨hearing, -, hhearing⟩ := List.mem_flatMap.mp htally
    cases Hearing.eq_componentFault_of_mem_tallies hhearing
    cases hcounted

/-- Interceptors and listeners that go by numbers.  The first ones crash, and of the second ones the
interceptor rejects each packet and the listener handles each event; the third interceptor swallows
presences. -/
def staff : Hosts (PacketPipeline Nat × RoomPipeline Nat) Nat Nat where
  packets :=
    { pipeline := Prod.fst
      intercept := fun _ handle _ packet s =>
        (match handle with
          | 1 => .crashed none
          | 2 => .faulted (.rejected .silent)
          | 3 => .returned (if packet.kind = .presence then .swallow else .carryOn)
          | _ => .returned .carryOn, packet, s)
      labelOf := toString
      report := fun _ s => s }
  rooms :=
    { pipeline := Prod.snd
      before := fun handle _ s =>
        (match handle with
          | 1 => .crashed none
          | 2 => .returned true
          | _ => .returned false, s)
      hear := fun handle _ s => (if handle = 1 then .crashed none else .returned (), s)
      labelOf := toString
      report := fun _ s => s }

/-- The first and the third interceptor are required, and the second one sees all packets; an absent
one guards messages.  The first and the second listener are required, and the first one is in the
audience too. -/
def staffed : PacketPipeline Nat × RoomPipeline Nat :=
  let stored := Table.ofList
    [("interceptors.required", "spool"), ("interceptor.blocking.type.spool", "Message")]
  let packets : PacketPipeline Nat := PacketPipeline.loaded "here" stored
  let rooms : RoomPipeline Nat := RoomPipeline.loaded Table.empty
  let seat {G : Type} [Guard G] (guard : G) (gate : Gate G Nat) (handle : Nat) : Gate G Nat :=
    (gate.settled (.register (toString handle) handle guard)).2
  ({ packets with gate := [1, 3].foldl (seat PacketGuard.everything) packets.gate, chain := [2] },
    { rooms with gate := [1, 2].foldl (seat RoomGuard.everything) rooms.gate, audience := [1] })

/-- A blocked message; a packet that survives a crash and whose rejection comes too late; another one
that survives the crash and is swallowed.  Then, after the metrics have been told of the size of a
roll, an event that is announced and told of. -/
theorem counters_of_the_staff :
    let mine : Address := { node := some "me", domain := "here" }
    let coming : Passage := ⟨mine, ⟨.inbound, .pre⟩⟩
    let gone : Passage := ⟨mine, ⟨.inbound, .post⟩⟩
    let event := RoomEvent.roomCreated { domain := "hall" } mine
    let turns : List (Turn ((PacketPipeline Nat × RoomPipeline Nat) × Metrics) Traffic) :=
      [.calm (.passing coming { kind := .message }), .calm (.passing gone { kind := .iq }),
        .calm (.passing coming { kind := .presence }),
        ⟨fun t => (t.1, t.2.record (.sized "packet" 2 3)), .announcing event⟩,
        .calm (.telling event)]
    let metrics := (staff.metered.after turns (staffed, {})).2
    staff.outcomes (.passing coming { kind := .message }) staffed =
        [.counted "packet" .gateBlocked] ∧
      staff.rooms.tells event staffed = [.told 1 event, .told 2 event, .told 1 event] ∧
      metrics.counter "packet" .gateBlocked = 1 ∧ metrics.counter "packet" .componentFault = 2 ∧
      metrics.counter "packet" .componentRejected = 1 ∧ metrics.counter "packet" .swallowed = 1 ∧
      metrics.counter "room" .gateBlocked = 0 ∧ metrics.counter "room" .componentFault = 3 ∧
      metrics.counter "room" .vetoed = 1 := by
  intro mine coming gone event turns metrics
  obtain ⟨hpackets, -, htelling, hrun, -⟩ := outcomes_are_accounted_for staff
  have hcounters (gate : String) (tally : Tally) : metrics.counter gate tally =
      (staff.ledger turns (staffed, {})).count (.counted gate tally) := by
    refine (hrun turns (staffed, {}) gate tally fun turn hturn t => ?_).trans (Nat.zero_add _)
    simp only [turns, List.mem_cons, List.not_mem_nil, or_false] at hturn
    rcases hturn with rfl | rfl | rfl | rfl | rfl <;> rfl
  have hledger : staff.ledger turns (staffed, {}) =
      [.counted "packet" .gateBlocked, .counted "packet" .componentFault,
        .counted "packet" .componentRejected, .counted "packet" .componentFault,
        .counted "packet" .swallowed, .counted "room" .componentFault, .counted "room" .vetoed,
        .counted "room" .componentFault, .counted "room" .componentFault] := by decide +kernel
  simp only [hcounters, hledger]
  exact ⟨(hpackets coming { kind := .message } staffed).1 (by decide +kernel),
    (htelling event staffed).1.trans (by decide +kernel), by decide, by decide, by decide, by decide,
    by decide, by decide, by decide⟩

end Hosts

end TrafficGate
