import TrafficGate.Proofs.Declarations.Blocked
import TrafficGate.Proofs.Room.Pipeline
import TrafficGate.Proofs.Room.Recording
import TrafficGate.Store.Memory

/-!
# Room — Gating

Announcing an event and telling of it are gated by one condition (`RoomPipeline.Guarded`): some
declared listener is not live and its guard covers the event's category.

* `blocks_iff_guarded`: the posting of a gate that posts what its roll calls for blocks exactly the
  categories that are guarded.
* `both_verbs_gate_alike`: what either verb does, in both cases, wherever a run has led.
-/

namespace TrafficGate.RoomPipeline

variable {S H σ : Type} [Store S] [DecidableEq H]

/-- Some declared listener is not live, and its guard has the category or the wildcard. -/
def Guarded (pipeline : RoomPipeline H) (category : RoomCategory) : Prop :=
  ∃ name guard, pipeline.gate.roll.declarations.Absent pipeline.gate.roll.isLive name guard ∧
    (category ∈ guard.events ∨ RoomCategory.all ∈ guard.events)

omit [DecidableEq H] in
theorem blocks_iff_guarded {pipeline : RoomPipeline H} (h : pipeline.gate.Posted)
    {category : RoomCategory} :
    pipeline.gate.posting.blocked.blocks category = true ↔ pipeline.Guarded category := by
  rw [h, Roll.posting, Roll.blocked]
  refine (Declarations.covers_blocked pipeline.gate.roll.declarations pipeline.gate.roll.isLive
    ⟨0, Nat.one_pos⟩ category).trans ?_
  have hcovers : ∀ guard : RoomGuard, guard.events.covers category = true ↔
      category ∈ guard.events ∨ RoomCategory.all ∈ guard.events :=
    fun guard => Selection.covers_iff.trans or_comm
  constructor
  · rintro ⟨name, guard, habsent, hc⟩
    exact ⟨name, guard, habsent, (hcovers guard).mp hc⟩
  · rintro ⟨name, guard, habsent, hc⟩
    exact ⟨name, guard, habsent, (hcovers guard).mpr hc⟩

/-- **Both verbs gate alike.**  Let a pipeline be loaded from any store that can be read, and let any
requests be made, with anything befalling the store between them; and let an event come to any host
with that pipeline.

* If the event's category is guarded by a listener that is declared and not live, announcing the
  event answers that nobody handled it and asks nobody, and telling of it tells the audience only.
* If it is not, announcing asks the first live listener first, and nobody if there is none, and
  telling tells every live listener, in the order of registration, and then the audience.
* The audience that is told is the present one, unless listeners change it while they are told. -/
theorem both_verbs_gate_alike {store left : S} {pipeline : RoomPipeline H}
    {entries : List Log.Entry} (hload : load store = (.ok pipeline, left, entries))
    (turns : List (Turn S (RoomRequest H))) (host : RoomHost σ H) (s : σ)
    (hreached : host.pipeline s = (Run.final attend pipeline left turns).1) (event : RoomEvent) :
    let reached := (Run.final attend pipeline left turns).1
    (reached.Guarded event.category →
      (host.announce event s).1 = .ok false ∧ host.asks event s = [] ∧
      host.tells event s = reached.audience.map (.told · event)) ∧
    (¬ reached.Guarded event.category →
      (host.asks event s).head? =
        reached.gate.roll.live.head?.map (fun member => .asked member.handle event) ∧
      host.tells event s =
        (reached.gate.roll.live.map fun member => .told member.handle event) ++
          (host.pipeline (host.afterRequired event s)).audience.map (.told · event)) ∧
    (host.Steady → (host.pipeline (host.afterRequired event s)).audience = reached.audience) := by
  intro reached
  have hposted : reached.gate.Posted := final_posted hload turns
  have hblocks : (host.pipeline s).gate.posting.blocked.blocks event.category = true ↔
      reached.Guarded event.category := by
    rw [hreached]
    exact blocks_iff_guarded hposted
  have hrequired : (host.pipeline s).gate.posting.required = reached.gate.roll.live := by
    rw [hreached, hposted]
    rfl
  refine ⟨fun hguarded => ?_, fun hfree => ?_, fun hsteady => ?_⟩
  · have hblocked := hblocks.mpr hguarded
    refine ⟨RoomHost.announce_of_blocks hblocked, RoomHost.asks_of_blocks hblocked, ?_⟩
    rw [RoomHost.tells_of_blocks hblocked, hreached]
  · have hopen := Bool.eq_false_iff.mpr fun h => hfree (hblocks.mp h)
    rw [RoomHost.head?_asks hopen, RoomHost.tells_of_not_blocks hopen, hrequired]
    exact ⟨rfl, rfl⟩
  · rw [hsteady.pipeline_afterRequired, hreached]

/-- A host that is nothing but a pipeline, and whose listeners handle no event. -/
def silent : RoomHost (RoomPipeline Nat) Nat where
  pipeline := id
  before _ _ s := (.returned false, s)
  hear _ _ s := (.returned (), s)
  labelOf := toString
  report _ s := s

omit [Store S] [DecidableEq H] in
theorem steady_silent : silent.Steady := ⟨fun _ _ _ => rfl, fun _ _ => rfl⟩

/-- Two stored listeners; the guard of the second one is the wildcard. -/
def auditAndLog : Properties := Table.ofList
  [("muc.listeners.required", "audit,log"), ("muc.listener.blocking.event.log", "All")]

/-- Both come to life, and a listener joins the audience between them. -/
def coming : List (Turn MemoryStore (RoomRequest Nat)) :=
  [Turn.calm (.toGate (.register "audit" 1 ⟨Selection.ofList [.joined]⟩)),
    Turn.calm (.addListener 3), Turn.calm (.toGate (.register "log" 2 RoomGuard.everything))]

/-- Both come to life, and the second one goes. -/
def going : List (Turn MemoryStore (RoomRequest Nat)) :=
  coming ++ [Turn.calm (.toGate (.unregister "log" false))]

/-- The pipeline over them after some turns. -/
def after (turns : List (Turn MemoryStore (RoomRequest Nat))) : RoomPipeline Nat :=
  (Run.final attend (loaded auditAndLog) ({ properties := auditAndLog } : MemoryStore) turns).1

theorem load_auditAndLog : ∃ entries,
    load ({ properties := auditAndLog } : MemoryStore) =
      (.ok (loaded auditAndLog : RoomPipeline Nat), { properties := auditAndLog }, entries) :=
  load_of_read rfl

theorem posted_after (turns : List (Turn MemoryStore (RoomRequest Nat))) :
    (after turns).gate.Posted := by
  obtain ⟨entries, hload⟩ := load_auditAndLog
  exact final_posted hload turns

/-- While both are live, a room that is created is announced to the first one and told of to both and
to the audience.  Once the second one has gone, its wildcard guards every event: nobody is asked, and
only the audience is told. -/
theorem wildcard_comes_and_goes :
    let event := RoomEvent.roomCreated { domain := "hall" } { domain := "here" }
    (silent.asks event (after coming)).head? = some (.asked 1 event) ∧
      silent.tells event (after coming) = [.told 1 event, .told 2 event, .told 3 event] ∧
      (silent.announce event (after going)).1 = .ok false ∧ silent.asks event (after going) = [] ∧
      silent.tells event (after going) = [.told 3 event] := by
  intro event
  obtain ⟨entries, hload⟩ := load_auditAndLog
  have hlive : (after coming).gate.roll.live = [⟨"audit", 1⟩, ⟨"log", 2⟩] := by decide +kernel
  have haudience : (after coming).audience = [3] := by decide +kernel
  have hrest : (after going).audience = [3] := by decide +kernel
  have hfree : ¬ (after coming).Guarded event.category := by
    rw [← blocks_iff_guarded (posted_after coming)]
    decide +kernel
  have hguarded : (after going).Guarded event.category := by
    rw [← blocks_iff_guarded (posted_after going)]
    decide +kernel
  obtain ⟨-, hopen, hsteady⟩ :=
    both_verbs_gate_alike hload coming silent (after coming) rfl event
  obtain ⟨hblocked, -⟩ := both_verbs_gate_alike hload going silent (after going) rfl event
  obtain ⟨hasks, htells⟩ := hopen hfree
  obtain ⟨hannounce, hnone, hothers⟩ := hblocked hguarded
  rw [← after, hlive] at hasks
  rw [hsteady steady_silent, ← after, hlive, haudience] at htells
  rw [← after, hrest] at hothers
  exact ⟨hasks, htells, hannounce, hnone, hothers⟩

end TrafficGate.RoomPipeline
