import TrafficGate.Proofs.Declarations.Synchronization
import TrafficGate.Proofs.Gate.Registration
import TrafficGate.Proofs.Gate.Storing

/-!
# Gate — Writing

When a gate writes into the memory that keeps its declarations (`one_batch_iff_out_of_line`): a
registration that succeeds, or a name that is forgotten, writes one batch if the memory is out of line
with the declarations, and nothing else ever writes.  So a component that comes back after a restart
and declares what it declared before writes nothing, and after anything else that befell the memory
one batch repairs it.

* `persist_of_inLine`, `persist_of_outOfLine`: storing the declarations, in both cases.
-/

namespace TrafficGate.Gate

variable {G H : Type} [Guard G]

/-! ### Storing the declarations in memory -/

section

variable {gate : Gate G H} (hstems : Guard.dimensions G ≤ gate.layout.stems.length)
  (hnamed : gate.roll.declarations.Named) {present : MemoryStore} {stored : Properties}
  (hkeeps : present.Keeps stored)

include hstems hnamed hkeeps

/-- Memory that is in line with the declarations is not written. -/
theorem persist_of_inLine
    (h : gate.layout.ownedPart stored = gate.layout.encode gate.roll.declarations) :
    (gate.persist present).1 = present :=
  persist_of_plan_eq_nil hkeeps.load_eq ((Layout.plan_eq_nil_iff hstems hnamed).mpr h)

/-- Memory that is out of line is written once, and then it is in line. -/
theorem persist_of_outOfLine
    (h : gate.layout.ownedPart stored ≠ gate.layout.encode gate.roll.declarations) :
    ∃ batch, (gate.persist present).1 = present.written batch ∧
      gate.layout.ownedPart (present.written batch).properties =
        gate.layout.encode gate.roll.declarations := by
  have hplan : gate.layout.plan gate.roll.declarations stored ≠ [] :=
    mt (Layout.plan_eq_nil_iff hstems hnamed).mp h
  refine ⟨gate.layout.plan gate.roll.declarations stored, ?_, ?_⟩
  · rw [persist_of_plan_ne_nil hkeeps.load_eq hplan, hkeeps.apply_eq]
  · refine (Layout.ownedPart_eq_encode_iff hstems hnamed).mpr fun key howned => ?_
    rw [MemoryStore.written, hkeeps.properties_eq,
      Layout.get?_applyAll_plan hstems hnamed (fun _ => Iff.rfl) fun _ _ => rfl, if_pos howned]

end

/-! ### Any request -/

/-- The requests after which the declarations are stored. -/
theorem persists_settled_iff (gate : Gate G H) (request : Request G H) :
    request.persists (gate.settled request).1 = true ↔
      (gate.settled request).1 = .registered (.ok ()) ∨ ∃ name, request = .unregister name true := by
  cases request with
  | register name handle guard =>
      simp only [settled]
      cases gate.roll.register name handle guard <;> simp [Request.persists]
  | unregister name forget => cases forget <;> simp [settled, Request.persists]
  | releaseAll => simp [settled, Request.persists]

theorem load_store (label : String) (layout : Layout) (store : MemoryStore) :
    (load (G := G) (H := H) label layout store).2.1 = store := by
  rw [load]
  split <;> rename_i hread <;> exact (congrArg Prod.snd hread).symm

/-- **One batch, exactly when the memory is out of line.**  Loading never writes into memory, whether
it succeeds or not.  Let a gate be loaded from memory, and let any requests be made, with anything
befalling the memory between them; then let one more request be made while the memory works, whatever
it keeps by then.

* If the request is a registration that succeeds, or forgets a name, and what is kept under the keys
  of the layout is not the stored form of the declarations after the request, exactly one batch is
  applied, and makes it so.
* In every other case no batch is applied, and the memory stays as it is. -/
theorem one_batch_iff_out_of_line {layout : Layout} (fits : layout.Fits (Guard.dimensions G))
    {label : String} {store left : MemoryStore} {gate : Gate G H} {entries : List Log.Entry}
    (hload : load label layout store = (.ok gate, left, entries))
    (turns : List (Turn MemoryStore (Request G H))) :
    (∀ other : MemoryStore, (load (G := G) (H := H) label layout other).2.1 = other) ∧
    ∀ (present : MemoryStore) (stored : Properties) (request : Request G H),
      present.Keeps stored →
      let change := (Run.final serve gate left turns).1.serve present request
      let wanted := layout.encode change.changed.roll.declarations
      let writes := (change.result = .registered (.ok ()) ∨ ∃ name, request = .unregister name true) ∧
        layout.ownedPart stored ≠ wanted
      (writes → ∃ batch, change.store = present.written batch ∧
        layout.ownedPart change.store.properties = wanted) ∧
      (¬ writes → change.store = present) := by
  refine ⟨load_store label layout, fun present stored request hkeeps => ?_⟩
  obtain ⟨stored₀, -, rfl⟩ := loaded_of_load hload
  have hnamed := final_named (named_loaded (H := H) label layout stored₀) left turns
  have hsite := final_sameSite (loaded label layout stored₀) left turns
  generalize (Run.final serve (loaded label layout stored₀) left turns).1 = reached at hnamed hsite
  intro change wanted writes
  have hlayout : (reached.settled request).2.layout = layout :=
    (reached.settled_sameSite request).layout.trans hsite.layout
  have hstems : Guard.dimensions G ≤ (reached.settled request).2.layout.stems.length :=
    hlayout ▸ Nat.le_of_eq fits.length_stems.symm
  have hafter := settled_named hnamed request
  have hpersists : request.persists (reached.settled request).1 = true ↔
      change.result = .registered (.ok ()) ∨ ∃ name, request = .unregister name true := by
    rw [persists_settled_iff, ← serve_result reached present]
  have hwanted : (reached.settled request).2.layout.encode
      (reached.settled request).2.roll.declarations = wanted := by
    rw [hlayout, ← serve_changed reached present]
  have hstore : change.store = _ := serve_store reached present request
  rw [hstore]
  constructor
  · rintro ⟨hstores, hout⟩
    rw [if_pos (hpersists.mpr hstores)]
    obtain ⟨batch, hbatch, hinLine⟩ := persist_of_outOfLine hstems hafter hkeeps
      (by rwa [hwanted, hlayout])
    rw [hwanted, hlayout] at hinLine
    rw [hbatch]
    exact ⟨batch, rfl, hinLine⟩
  · intro hnot
    split
    · rename_i hstores
      refine persist_of_inLine hstems hafter hkeeps ?_
      rw [hwanted, hlayout]
      by_contra hout
      exact hnot ⟨hpersists.mp hstores, hout⟩
    · rfl

/-- Both gates over one memory that was filled by hand.  The stored form of what the room gate reads
is another one. -/
def filledByHand : MemoryStore where
  properties := Table.ofList
    [("interceptors.required", "audit"), ("interceptor.blocking.event.audit", "Incoming"),
      ("muc.listeners.required", "log"), ("muc.listener.blocking.event.log", "BeforeJoined,All")]

/-- Memory that cannot be written for now, and an interceptor that comes to life meanwhile. -/
def unwritten : List (Turn MemoryStore (Request PacketGuard Nat)) :=
  [⟨fun memory => { memory with failsWriting := true }, .register "spool" 1 {}⟩]

/-- An interceptor that declares what is stored of it writes nothing.  When the declaration of another
one could not be written, forgetting a third one writes it.  A listener that declares what is stored
of it brings that into the stored form, and when it goes nothing is written. -/
theorem batches_filled_by_hand :
    let packets : Gate PacketGuard Nat := loaded "packet" Layout.packets filledByHand.properties
    let rooms : Gate RoomGuard Nat := loaded "room" Layout.rooms filledByHand.properties
    let again := packets.serve filledByHand (.register "audit" 2 ⟨Selection.ofList [.incoming], ∅⟩)
    let forgetting := (Run.final serve packets filledByHand unwritten).1.serve filledByHand
      (.unregister "gone" true)
    let coming := rooms.serve filledByHand (.register "log" 3 RoomGuard.everything)
    let going := rooms.serve filledByHand (.unregister "log" false)
    again.store = filledByHand ∧
    (∃ batch, forgetting.store = filledByHand.written batch ∧
      Layout.packets.ownedPart forgetting.store.properties = Table.ofList
        [("interceptors.required", "audit,spool"),
          ("interceptor.blocking.event.audit", "Incoming")]) ∧
    (∃ batch, coming.store = filledByHand.written batch ∧
      Layout.rooms.ownedPart coming.store.properties = Table.ofList
        [("muc.listeners.required", "log"), ("muc.listener.blocking.event.log", "All")]) ∧
    going.store = filledByHand := by
  intro packets rooms again forgetting coming going
  have hkeeps : filledByHand.Keeps filledByHand.properties := ⟨rfl, rfl, rfl⟩
  obtain ⟨entries, hpackets⟩ := load_of_read (G := PacketGuard) (H := Nat) "packet" Layout.packets
    hkeeps.load_eq
  obtain ⟨entries', hrooms⟩ := load_of_read (G := RoomGuard) (H := Nat) "room" Layout.rooms
    hkeeps.load_eq
  have hcalm := (one_batch_iff_out_of_line Layout.fits_packets hpackets []).2 _ _
    (.register "audit" 2 ⟨Selection.ofList [.incoming], ∅⟩) hkeeps
  have hfailing := (one_batch_iff_out_of_line Layout.fits_packets hpackets unwritten).2 _ _
    (.unregister "gone" true) hkeeps
  have hcoming := (one_batch_iff_out_of_line Layout.fits_rooms hrooms []).2 _ _
    (.register "log" 3 RoomGuard.everything) hkeeps
  have hgoing := (one_batch_iff_out_of_line Layout.fits_rooms hrooms []).2 _ _
    (.unregister "log" false) hkeeps
  rw [Run.final] at hcoming
  have hcame : coming.result = .registered (.ok ()) :=
    congrArg Answer.registered
      (result_register_eq_ok_iff.mpr ⟨nameFault?_eq_none_iff.mp (by decide +kernel), by decide +kernel⟩)
  refine ⟨hcalm.2 fun h => h.2 (by decide +kernel), ?_, ?_, hgoing.2 ?_⟩
  · obtain ⟨batch, hbatch, hinLine⟩ := hfailing.1 ⟨.inr ⟨_, rfl⟩, by decide +kernel⟩
    refine ⟨batch, hbatch, ?_⟩
    rw [hinLine]
    decide +kernel
  · obtain ⟨batch, hbatch, hinLine⟩ := hcoming.1 ⟨.inl hcame, by decide +kernel⟩
    refine ⟨batch, hbatch, ?_⟩
    rw [hinLine]
    decide +kernel
  · rintro ⟨hcame | ⟨name, hname⟩, -⟩
    · cases hcame
    · cases hname

end TrafficGate.Gate
