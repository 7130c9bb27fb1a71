import TrafficGate.Proofs.Declarations.Blocked
import TrafficGate.Proofs.Gate.Requests
import TrafficGate.Store.Memory

/-!
# Gate — The posting

After every request of every run a gate posts what its roll calls for, whatever befalls its store
(`posting_follows_the_roll`): in each dimension it blocks the categories that the guards of declared
and absent components cover, a blocked wildcard stands alone, and the components posted as required
are the live ones.
-/

namespace TrafficGate

open DimensionalGuard

variable {S G H : Type} [Guard G]

namespace Gate

variable [DimensionalGuard G] [Store S]

/-- **The posting follows the roll.**  Let a gate be loaded from any store that can be read, and let
any requests be made, with anything befalling the store between them.  Then in each dimension a
category is blocked exactly when some declared guard covers it whose name no required member has; a
dimension with the wildcard in it holds nothing else; the required members are the live ones, in
their order and with their handles; and the whole posting is that of one roll, the present one. -/
theorem posting_follows_the_roll {label : String} {layout : Layout} {store left : S}
    {gate : Gate G H} {entries : List Log.Entry}
    (hload : Gate.load label layout store = (.ok gate, left, entries))
    (turns : List (Turn S (Request G H))) :
    let reached := (Run.final Gate.serve gate left turns).1
    (∀ d (c : Kind d), (selection reached.posting.blocked d).covers c = true ↔
      ∃ name guard, reached.roll.declarations.get? name = some guard ∧
        (∀ member ∈ reached.posting.required, member.name ≠ name) ∧
        (selection guard d).covers c = true) ∧
    (∀ d, Category.all ∈ selection reached.posting.blocked d →
      selection reached.posting.blocked d = Selection.wildcard) ∧
    reached.posting.required = reached.roll.live ∧
    reached.posting = reached.roll.posting := by
  intro reached
  obtain ⟨stored, -, rfl⟩ := loaded_of_load hload
  have hposted : reached.posting = reached.roll.posting :=
    final_posted (posted_loaded label layout stored) left turns
  rw [hposted]
  refine ⟨fun d c => ?_, fun d h => ?_, rfl, rfl⟩
  · refine (Declarations.covers_blocked _ _ d c).trans ?_
    simp only [Declarations.Absent, Roll.isLive_eq_false_iff, and_assoc]
    exact Iff.rfl
  · exact Declarations.selection_blocked_eq_wildcard h

/-- A packet gate over a stored declaration, with a registration while nothing can be written and
then, while nothing can be read, a component that goes and a release. -/
theorem posting_over_a_failing_store :
    let stored : Properties := Table.ofList
      [("interceptors.required", "audit,spool"), ("interceptor.blocking.event.audit", "Incoming")]
    let store : MemoryStore := { properties := stored }
    let gate : Gate PacketGuard Nat := Gate.loaded "packet" Layout.packets stored
    let turns : List (Turn MemoryStore (Request PacketGuard Nat)) :=
      [⟨fun s => { s with failsWriting := true }, .register "audit" 7 ⟨∅, Selection.wildcard⟩⟩,
        ⟨fun s => { s with failsReading := true }, .unregister "spool" true⟩,
        Turn.calm .releaseAll]
    let reached := (Run.final Gate.serve gate store turns).1
    ∃ entries, Gate.load "packet" Layout.packets store = (.ok gate, store, entries) ∧
      ∀ (d : Fin (Guard.dimensions PacketGuard)) (c : Kind d),
        (selection reached.posting.blocked d).covers c = true ↔
          ∃ name guard, reached.roll.declarations.get? name = some guard ∧
            (∀ member ∈ reached.posting.required, member.name ≠ name) ∧
            (selection guard d).covers c = true := by
  intro stored store gate turns reached
  obtain ⟨entries, hload⟩ :=
    Gate.load_of_read (G := PacketGuard) (H := Nat) "packet" Layout.packets
      (show Store.load store = (.ok stored, store) from rfl)
  obtain ⟨hcovers, -⟩ := posting_follows_the_roll hload turns
  exact ⟨entries, hload, fun d c => by rw [hcovers d c]⟩

end Gate

end TrafficGate
