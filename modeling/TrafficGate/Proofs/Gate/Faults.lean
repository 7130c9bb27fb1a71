import TrafficGate.Proofs.Gate.Storing

/-!
# Gate — Store faults

What fails in a store, or is written into it by others, does not reach the gate
(`faults_never_reach_the_roll`), and the next time the declarations are stored by a store that works
everything the layout owns is right again, whatever it held.

A run is compared with a calm one, over any other store, in which the same requests are made and
nothing befalls the store.
-/

namespace TrafficGate.Gate

variable {S G H : Type} [Guard G] [Store S]

/-- **Store faults never reach the roll.**  Let a gate be loaded, and let anything befall its store
between the requests of a run.

* Every answer, and the gate after every request with its declarations, its live components and its
  posting, are those of the calm run of the same requests over any store, one that never fails among
  them.
* Wherever the run has led, a registration that succeeds or a name that is forgotten, at a moment
  when the store works, leaves under the keys of the layout exactly the stored form of the
  declarations, and under every other key what was there before. -/
theorem faults_never_reach_the_roll {label : String} {layout : Layout}
    (hstems : Guard.dimensions G ≤ layout.stems.length) {store left : S} {gate : Gate G H}
    {entries : List Log.Entry} (hload : load label layout store = (.ok gate, left, entries))
    (turns : List (Turn S (Request G H))) :
    (∀ {S' : Type} [Store S'] (calm : S'),
      Run.trace serve gate left turns =
        Run.trace serve gate calm (turns.map fun turn => Turn.calm turn.request)) ∧
    (∀ (keeps : S → Properties → Prop) (present : S) (properties : Properties)
      (request : Request G H), Store.Works keeps present properties →
      let change := (Run.final serve gate left turns).1.serve present request
      request.persists change.result = true →
      ∃ stored, keeps change.store stored ∧ ∀ key, stored.get? key =
        if layout.owns key then (layout.encode change.changed.roll.declarations).get? key
        else properties.get? key) := by
  obtain ⟨properties₀, -, rfl⟩ := loaded_of_load hload
  refine ⟨fun calm => ?_, fun keeps present properties request hworks => ?_⟩
  · -- no answer and no gate depends on the store
    refine Run.trace_congr (fun reached store store' request => ?_) _ _ _ _
    rw [serve_result, serve_result, serve_changed, serve_changed]
    exact ⟨rfl, rfl⟩
  · -- the names declared by then are tokens, so all that is planned is about owned keys
    have hnamed := final_named (named_loaded (H := H) label layout properties₀) left turns
    have hsite := final_sameSite (loaded label layout properties₀) left turns
    generalize (Run.final serve (loaded label layout properties₀) left turns).1 = reached
      at hnamed hsite
    intro change hpersists
    have hlayout : (reached.settled request).2.layout = layout :=
      (reached.settled_sameSite request).layout.trans hsite.layout
    rw [serve_result] at hpersists
    simp only [change, serve_store, serve_changed, hpersists, if_true]
    have hstored := get?_persist hworks (hlayout.symm ▸ hstems) (settled_named hnamed request)
    rw [hlayout] at hstored
    exact hstored

/-- A packet gate whose store can at first not be read and then not be written, and which then
forgets a name over a store that has drifted: a key of the layout is left over in it, and a key of
someone else has come. -/
theorem faults_of_a_packet_gate :
    let stored : Properties := Table.ofList [("interceptors.required", "audit")]
    let store : MemoryStore := { properties := stored }
    let gate : Gate PacketGuard Nat := loaded "packet" Layout.packets stored
    let turns : List (Turn MemoryStore (Request PacketGuard Nat)) :=
      [⟨fun s => { s with failsReading := true }, .register "audit" 1 PacketGuard.everything⟩,
        ⟨fun s => { s with failsWriting := true }, .register "spool" 2 PacketGuard.everything⟩]
    let drifted : Properties := Table.ofList
      [("interceptor.blocking.type.gone", "Message"), ("server.name", "here")]
    let present : MemoryStore := { properties := drifted }
    let change := (Run.final serve gate store turns).1.serve present (.unregister "audit" true)
    (∃ entries, load "packet" Layout.packets store = (.ok gate, store, entries)) ∧
    Run.trace serve gate store turns =
      Run.trace serve gate store (turns.map fun turn => Turn.calm turn.request) ∧
    ∃ left, change.store.Keeps left ∧ ∀ key, left.get? key =
      if Layout.packets.owns key then
        (Layout.packets.encode change.changed.roll.declarations).get? key
      else drifted.get? key := by
  intro stored store gate turns drifted present change
  obtain ⟨entries, hload⟩ := load_of_read (G := PacketGuard) (H := Nat) "packet" Layout.packets
    (show Store.load store = (.ok stored, store) from rfl)
  obtain ⟨htrace, hrepair⟩ := faults_never_reach_the_roll (Nat.le_refl 2) hload turns
  refine ⟨⟨entries, hload⟩, htrace store, ?_⟩
  have hworks : Store.Works MemoryStore.Keeps present drifted :=
    MemoryStore.neverFails _ _ ⟨rfl, rfl, rfl⟩
  obtain ⟨left, hkeeps, hkeys⟩ :=
    hrepair MemoryStore.Keeps present drifted (.unregister "audit" true) hworks rfl
  exact ⟨left, hkeeps, fun key => by rw [hkeys key]⟩

end TrafficGate.Gate
