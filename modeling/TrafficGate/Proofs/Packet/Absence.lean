import TrafficGate.Proofs.Packet.Journey
import TrafficGate.Proofs.Packet.Pipeline
import TrafficGate.Proofs.Packet.Rule
import TrafficGate.Store.Memory

/-!
# Packet — Absent interceptors

When packets that an absent interceptor guards are turned away.

The guards of all absent interceptors are united dimension by dimension, and then both dimensions
have to cover a packet.

* `NeverBypassed`: a packet that the guard of one absent interceptor blocks by itself is turned
  away.  It does not hold (`not_neverBypassed`): a second absent interceptor that restricts the other
  dimension can let the packet through.
* `turned_away_iff_dimensions_covered`: such a packet is turned away exactly when each dimension
  that some absent guard restricts is covered by some absent guard.
-/

namespace TrafficGate

variable {S H σ : Type} [Store S]

/-- The packet is rejected at the point, and no interceptor is called. -/
def PacketHost.TurnsAway (host : PacketHost σ H) (passage : Passage) (packet : Packet) (s : σ) :
    Prop :=
  (∃ r, (host.traverse passage packet s).1 = .rejected r) ∧ host.calls passage packet s = []

/-- Before processing, a packet is turned away exactly when the gate blocks it. -/
theorem PacketHost.turnsAway_iff {host : PacketHost σ H} {passage : Passage} {packet : Packet}
    {s : σ} (hpre : passage.point.isProcessed = false) :
    host.TurnsAway passage packet s ↔
      (host.pipeline s).gate.posting.blocked.blocks packet.kind passage.point = true := by
  constructor
  · rintro ⟨⟨r, hrejected⟩, hcalls⟩
    cases hblocks : (host.pipeline s).gate.posting.blocked.blocks packet.kind passage.point with
    | true => rfl
    | false => exact absurd hcalls (calls_ne_nil_of_rejected hblocks hrejected)
  · intro hblocks
    have hrejected := (verdict_of_blocks hblocks).trans (if_neg (Bool.eq_false_iff.mp hpre))
    exact ⟨⟨_, hrejected⟩, calls_of_blocks hblocks⟩

namespace PacketPipeline

open PacketGuard

/-! ### A second absent interceptor -/

/-- No absent interceptor is bypassed: wherever a run has led, a packet that comes to a point before
processing is turned away if the guard of some absent declaration blocks it by itself. -/
def NeverBypassed : Prop :=
  ∀ {S H σ : Type} [Store S] {domain : String} {store left : S} {pipeline : PacketPipeline H}
    {entries : List Log.Entry}, load store domain = (.ok pipeline, left, entries) →
    ∀ (turns : List (Turn S (Request PacketGuard H))) (host : PacketHost σ H) (s : σ),
      (host.pipeline s).gate = (Run.final serve pipeline left turns).1.gate →
      ∀ (passage : Passage), passage.point.isProcessed = false →
        ∀ (packet : Packet) {name : String} {guard : PacketGuard},
          (host.pipeline s).gate.roll.declarations.Absent (host.pipeline s).gate.roll.isLive
            name guard →
          guard.blocks packet.kind passage.point = true → host.TurnsAway passage packet s

/-- Two stored declarations: the one restricts points and the other one kinds. -/
def oneOfEach : Properties := Table.ofList
  [("interceptors.required", "a,b"), ("interceptor.blocking.event.a", "Incoming"),
    ("interceptor.blocking.type.b", "Message")]

/-- A pipeline over them in which a third interceptor, which guards nothing, has come to life. -/
def bothAbsent : PacketPipeline Nat :=
  (Run.final serve (loaded "localhost" oneOfEach) ({ properties := oneOfEach } : MemoryStore)
    [Turn.calm (.register "c" 7 {})]).1

theorem absent_a : bothAbsent.gate.roll.declarations.Absent bothAbsent.gate.roll.isLive "a"
    ⟨Selection.ofList [.incoming], ∅⟩ := by
  constructor <;> decide +kernel

theorem absent_b : bothAbsent.gate.roll.declarations.Absent bothAbsent.gate.roll.isLive "b"
    ⟨∅, Selection.ofList [.message]⟩ := by
  constructor <;> decide +kernel

theorem load_oneOfEach : ∃ entries,
    load ({ properties := oneOfEach } : MemoryStore) "localhost" =
      (.ok (loaded "localhost" oneOfEach : PacketPipeline Nat), { properties := oneOfEach },
        entries) :=
  load_of_read "localhost" rfl

/-- A host that is nothing but a pipeline, and whose interceptors let every packet pass. -/
def passive : PacketHost (PacketPipeline Nat) Nat where
  pipeline := id
  intercept _ _ _ packet s := (.returned .carryOn, packet, s)
  labelOf := toString
  report _ s := s

/-- An info/query packet that comes in is blocked by the first declaration alone, but the second one
restricts packets to messages: it passes, and the live interceptor sees it. -/
theorem let_through_by_second_absence :
    let passage : Passage := ⟨{ domain := "localhost" }, ⟨.inbound, .pre⟩⟩
    let packet : Packet := { kind := .iq }
    (passive.traverse passage packet bothAbsent).1 = .allowed ∧
      passive.calls passage packet bothAbsent = [⟨.required, 7, packet⟩] := by
  constructor <;> decide +kernel

/-- **`NeverBypassed` does not hold.** -/
theorem not_neverBypassed : ¬ NeverBypassed := by
  intro h
  obtain ⟨hallowed, -⟩ := let_through_by_second_absence
  obtain ⟨entries, hload⟩ := load_oneOfEach
  obtain ⟨⟨r, hrejected⟩, -⟩ := h hload [Turn.calm (.register "c" 7 {})] passive bothAbsent rfl
    ⟨{ domain := "localhost" }, ⟨.inbound, .pre⟩⟩ rfl { kind := .iq } absent_a rfl
  rw [hallowed] at hrejected
  cases hrejected

/-! ### What is turned away -/

/-- **When the gate turns a packet away.**  Let a pipeline be loaded and any requests be made, and
let a packet come to a point before processing, at any host whose pipeline has that gate.  If the
guard of some absent declaration blocks the packet by itself, then the packet is rejected without any
interceptor being called exactly when each dimension that is restricted by the guard of some absent
declaration is covered by the guard of some absent declaration. -/
theorem turned_away_iff_dimensions_covered {domain : String} {store left : S}
    {pipeline : PacketPipeline H} {entries : List Log.Entry}
    (hload : load store domain = (.ok pipeline, left, entries))
    (turns : List (Turn S (Request PacketGuard H))) (host : PacketHost σ H) (s : σ)
    (hgate : (host.pipeline s).gate = (Run.final serve pipeline left turns).1.gate)
    {passage : Passage} (hpre : passage.point.isProcessed = false) (packet : Packet)
    {name : String} {guard : PacketGuard}
    (habsent : (host.pipeline s).gate.roll.declarations.Absent
      (host.pipeline s).gate.roll.isLive name guard)
    (hguards : guard.blocks packet.kind passage.point = true) :
    let absent := (host.pipeline s).gate.roll.declarations.Absent (host.pipeline s).gate.roll.isLive
    host.TurnsAway passage packet s ↔
      ((∃ name guard, absent name guard ∧ guard.points ≠ ∅) →
        ∃ name guard, absent name guard ∧ coversPoint guard.points passage.point = true) ∧
      ((∃ name guard, absent name guard ∧ guard.kinds ≠ ∅) →
        ∃ name guard, absent name guard ∧ coversKind guard.kinds packet.kind = true) := by
  intro absent
  have hposted : (host.pipeline s).gate.posting = (host.pipeline s).gate.roll.posting := by
    have hfinal := final_posted hload turns
    rw [← hgate] at hfinal
    exact hfinal
  rw [PacketHost.turnsAway_iff hpre, hposted, Roll.posting, Roll.blocked, blocks_iff,
    points_blocked_ne_empty_iff, kinds_blocked_ne_empty_iff, coversPoint_blocked_iff,
    coversKind_blocked_iff]
  -- the guard at hand restricts some dimension, so what is blocked is not empty
  refine and_iff_right ?_
  rcases (blocks_iff.mp hguards).1 with hpoints | hkinds
  · exact .inl ⟨name, guard, habsent, hpoints⟩
  · exact .inr ⟨name, guard, habsent, hkinds⟩

/-- A message that comes in is covered by both declarations together, and is turned away. -/
theorem message_turned_away_by_both :
    passive.TurnsAway ⟨{ domain := "localhost" }, ⟨.inbound, .pre⟩⟩ { kind := .message }
      bothAbsent := by
  obtain ⟨entries, hload⟩ := load_oneOfEach
  refine (turned_away_iff_dimensions_covered hload [Turn.calm (.register "c" 7 {})] passive
    bothAbsent rfl rfl { kind := .message } absent_a rfl).mpr ⟨fun _ => ?_, fun _ => ?_⟩
  · exact ⟨"a", _, absent_a, rfl⟩
  · exact ⟨"b", _, absent_b, rfl⟩

end PacketPipeline

end TrafficGate
