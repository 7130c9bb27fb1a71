import TrafficGate.Packet.Rule
import TrafficGate.Proofs.Declarations.Blocked

/-!
# Packet — The rule

When a block set blocks a packet, one dimension at a time.

* `coversPoint_iff`, `coversKind_iff`: a point or a kind is covered when one of the categories it
  counts as is.
* `blocks_iff`: a packet is blocked when some dimension is not empty and every dimension that is not
  empty covers it.
* `coversPoint_blocked_iff`, `coversKind_blocked_iff`: what is blocked for absent components covers
  what the guard of one of them covers, in each dimension by itself.
-/

namespace TrafficGate

/-- A selection covers one of some categories when it holds the wildcard or one of them. -/
theorem Selection.mem_all_or_any_iff {C : Type} [DecidableEq C] [Category C] {s : Selection C}
    {cs : List C} (hne : cs ≠ []) :
    (decide (Category.all ∈ s) || cs.any (· ∈ s)) = true ↔ ∃ c ∈ cs, s.covers c = true := by
  simp only [Selection.covers_iff, Bool.or_eq_true, decide_eq_true_eq, List.any_eq_true]
  constructor
  · rintro (hall | ⟨c, hc, hmem⟩)
    · obtain ⟨c, hc⟩ := List.exists_mem_of_ne_nil cs hne
      exact ⟨c, hc, .inl hall⟩
    · exact ⟨c, hc, .inr hmem⟩
  · rintro ⟨c, hc, hall | hmem⟩
    · exact .inl hall
    · exact .inr ⟨c, hc, hmem⟩

namespace PacketGuard

theorem coversPoint_iff {points : Selection TrafficCategory} {point : Point} :
    coversPoint points point = true ↔ ∃ c ∈ point.categories, points.covers c = true :=
  Selection.mem_all_or_any_iff (List.cons_ne_nil _ _)

theorem coversKind_iff {kinds : Selection PacketCategory} {kind : PacketKind} :
    coversKind kinds kind = true ↔ ∃ c ∈ kind.categories, kinds.covers c = true :=
  Selection.mem_all_or_any_iff (by cases kind <;> exact List.cons_ne_nil _ _)

/-- Some dimension is not empty, and every dimension that is not empty covers the packet. -/
theorem blocks_iff {blocked : PacketGuard} {kind : PacketKind} {point : Point} :
    blocked.blocks kind point = true ↔
      (blocked.points ≠ ∅ ∨ blocked.kinds ≠ ∅) ∧
        (blocked.points ≠ ∅ → coversPoint blocked.points point = true) ∧
        (blocked.kinds ≠ ∅ → coversKind blocked.kinds kind = true) := by
  have hpoints : blocked.points.isEmpty = true ↔ blocked.points = ∅ := Selection.isEmpty_iff
  have hkinds : blocked.kinds.isEmpty = true ↔ blocked.kinds = ∅ := Selection.isEmpty_iff
  unfold blocks
  cases hp : blocked.points.isEmpty <;> cases hk : blocked.kinds.isEmpty <;>
    simp [hp, hk] at hpoints hkinds ⊢ <;> simp [hpoints, hkinds]

variable {declarations : Declarations PacketGuard} {isLive : String → Bool}

theorem coversPoint_blocked_iff {point : Point} :
    coversPoint (declarations.blocked isLive).points point = true ↔
      ∃ name guard, declarations.Absent isLive name guard ∧
        coversPoint guard.points point = true := by
  simp only [coversPoint_iff]
  exact Declarations.exists_covers_blocked declarations isLive 0 (· ∈ point.categories)

theorem coversKind_blocked_iff {kind : PacketKind} :
    coversKind (declarations.blocked isLive).kinds kind = true ↔
      ∃ name guard, declarations.Absent isLive name guard ∧
        coversKind guard.kinds kind = true := by
  simp only [coversKind_iff]
  exact Declarations.exists_covers_blocked declarations isLive 1 (· ∈ kind.categories)

/-- Points are blocked when some absent guard has points. -/
theorem points_blocked_ne_empty_iff :
    (declarations.blocked isLive).points ≠ ∅ ↔
      ∃ name guard, declarations.Absent isLive name guard ∧ guard.points ≠ ∅ :=
  Declarations.selection_blocked_ne_empty_iff declarations isLive 0

/-- Kinds are blocked when some absent guard has kinds. -/
theorem kinds_blocked_ne_empty_iff :
    (declarations.blocked isLive).kinds ≠ ∅ ↔
      ∃ name guard, declarations.Absent isLive name guard ∧ guard.kinds ≠ ∅ :=
  Declarations.selection_blocked_ne_empty_iff declarations isLive 1

end PacketGuard

end TrafficGate
