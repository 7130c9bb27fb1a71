import TrafficGate.Proofs.Declarations.RoundTrip
import TrafficGate.Proofs.Packet.Rule

/-!
# Packet — The decision

The decision of the packet gate, said of the declarations themselves and not of the block set that
is computed from them.

* `coversPoint_iff_mem`, `coversKind_iff_mem`: a dimension covers a packet when it holds the wildcard
  or one of the categories that the packet counts as there.
* `blocks_collapse`, `Declarations.blocked_collapsed`: collapsing changes no decision, neither of a
  block set nor of the guards that it is made of.
* `blocks_blocked_iff`: **the decision**.  Some absent guard restricts something, and each dimension
  that some absent guard restricts is covered by an absent guard.
-/

namespace TrafficGate

/-- The category of the packets that pass in a direction. -/
def Direction.category : Direction → TrafficCategory
  | .inbound => .incoming
  | .outbound => .outgoing

/-- The category of the packets at a stage. -/
def Stage.category : Stage → TrafficCategory
  | .pre => .unprocessed
  | .post => .processed

theorem Point.categories_eq (point : Point) :
    point.categories = [point.stage.category, point.direction.category] := by
  obtain ⟨direction, stage⟩ := point
  cases direction <;> cases stage <;> rfl

/-! ### Collapsing -/

namespace Declarations

open DimensionalGuard

variable {G : Type} [Guard G]

theorem absent_collapsed_iff {declarations : Declarations G} {isLive : String → Bool}
    {name : String} {guard : G} :
    declarations.collapsed.Absent isLive name guard ↔
      ∃ original, declarations.Absent isLive name original ∧ Guard.collapse original = guard := by
  rw [Absent, collapsed, Table.get?_mapValues, Option.map_eq_some_iff]
  constructor
  · rintro ⟨⟨original, hget, hcollapse⟩, hlive⟩
    exact ⟨original, ⟨hget, hlive⟩, hcollapse⟩
  · rintro ⟨original, ⟨hget, hlive⟩, hcollapse⟩
    exact ⟨⟨original, hget, hcollapse⟩, hlive⟩

/-- What is blocked is the same whether the declared guards are collapsed or not. -/
theorem blocked_collapsed [DimensionalGuard G] (declarations : Declarations G)
    (isLive : String → Bool) :
    declarations.collapsed.blocked isLive = declarations.blocked isLive := by
  rw [← collapse_blocked declarations.collapsed, ← collapse_blocked declarations]
  refine ext_selection fun d => ?_
  rw [selection_collapse, selection_collapse]
  refine Selection.collapse_eq_of_covers fun c => Bool.eq_iff_iff.mpr ?_
  rw [covers_blocked, covers_blocked]
  constructor
  · rintro ⟨name, guard, habsent, hc⟩
    obtain ⟨original, horiginal, rfl⟩ := absent_collapsed_iff.mp habsent
    rw [selection_collapse, Selection.covers_collapse] at hc
    exact ⟨name, original, horiginal, hc⟩
  · rintro ⟨name, guard, habsent, hc⟩
    refine ⟨name, Guard.collapse guard, absent_collapsed_iff.mpr ⟨guard, habsent, rfl⟩, ?_⟩
    rw [selection_collapse, Selection.covers_collapse]
    exact hc

end Declarations

namespace PacketGuard

theorem coversPoint_iff_mem {points : Selection TrafficCategory} {point : Point} :
    coversPoint points point = true ↔
      .all ∈ points ∨ point.direction.category ∈ points ∨ point.stage.category ∈ points := by
  rw [coversPoint, Point.categories_eq]
  simp only [List.any_cons, List.any_nil, Bool.or_false, Bool.or_eq_true, decide_eq_true_eq]
  rw [or_comm (a := point.stage.category ∈ points)]

theorem coversKind_iff_mem {kinds : Selection PacketCategory} {kind : PacketKind} :
    coversKind kinds kind = true ↔ .all ∈ kinds ∨ ∃ c ∈ kind.categories, c ∈ kinds := by
  simp only [coversKind, Bool.or_eq_true, decide_eq_true_eq, List.any_eq_true]

/-- Collapsing a block set changes no decision. -/
theorem blocks_collapse (blocked : PacketGuard) (kind : PacketKind) (point : Point) :
    (Guard.collapse blocked).blocks kind point = blocked.blocks kind point := by
  have hpoints : blocked.points.collapse ≠ ∅ ↔ blocked.points ≠ ∅ :=
    not_congr Selection.collapse_eq_empty_iff
  have hkinds : blocked.kinds.collapse ≠ ∅ ↔ blocked.kinds ≠ ∅ :=
    not_congr Selection.collapse_eq_empty_iff
  have hpoint : coversPoint blocked.points.collapse point = true ↔
      coversPoint blocked.points point = true := by
    simp only [coversPoint_iff, Selection.covers_collapse]
  have hkind : coversKind blocked.kinds.collapse kind = true ↔
      coversKind blocked.kinds kind = true := by
    simp only [coversKind_iff, Selection.covers_collapse]
  refine Bool.eq_iff_iff.mpr ?_
  rw [blocks_iff, blocks_iff, ← hpoints, ← hkinds, ← hpoint, ← hkind]
  exact Iff.rfl

/-- A guard is not empty when one of its dimensions is not. -/
theorem ne_empty_iff {guard : PacketGuard} :
    guard ≠ {} ↔ guard.points ≠ ∅ ∨ guard.kinds ≠ ∅ := by
  obtain ⟨points, kinds⟩ := guard
  rw [ne_eq, mk.injEq, not_and_or]

section

variable {declarations : Declarations PacketGuard} {isLive : String → Bool}

/-- Something is blocked when some absent guard is not empty. -/
theorem blocked_ne_empty_iff :
    ((declarations.blocked isLive).points ≠ ∅ ∨ (declarations.blocked isLive).kinds ≠ ∅) ↔
      ∃ name guard, declarations.Absent isLive name guard ∧ guard ≠ {} := by
  rw [points_blocked_ne_empty_iff, kinds_blocked_ne_empty_iff]
  constructor
  · rintro (⟨name, guard, habsent, hne⟩ | ⟨name, guard, habsent, hne⟩)
    · exact ⟨name, guard, habsent, ne_empty_iff.mpr (.inl hne)⟩
    · exact ⟨name, guard, habsent, ne_empty_iff.mpr (.inr hne)⟩
  · rintro ⟨name, guard, habsent, hne⟩
    rcases ne_empty_iff.mp hne with hpoints | hkinds
    · exact .inl ⟨name, guard, habsent, hpoints⟩
    · exact .inr ⟨name, guard, habsent, hkinds⟩

/-- The points do not stand against blocking: no absent guard has any, or one covers the point. -/
theorem points_decision_iff {point : Point} :
    ((declarations.blocked isLive).points ≠ ∅ →
        coversPoint (declarations.blocked isLive).points point = true) ↔
      (∀ name guard, declarations.Absent isLive name guard → guard.points = ∅) ∨
        ∃ name guard, declarations.Absent isLive name guard ∧
          coversPoint guard.points point = true := by
  rw [points_blocked_ne_empty_iff, coversPoint_blocked_iff, imp_iff_not_or]
  simp only [not_exists, not_and, ne_eq, not_not]

/-- The kinds do not stand against blocking: no absent guard has any, or one covers the kind. -/
theorem kinds_decision_iff {kind : PacketKind} :
    ((declarations.blocked isLive).kinds ≠ ∅ →
        coversKind (declarations.blocked isLive).kinds kind = true) ↔
      (∀ name guard, declarations.Absent isLive name guard → guard.kinds = ∅) ∨
        ∃ name guard, declarations.Absent isLive name guard ∧
          coversKind guard.kinds kind = true := by
  rw [kinds_blocked_ne_empty_iff, coversKind_blocked_iff, imp_iff_not_or]
  simp only [not_exists, not_and, ne_eq, not_not]

end

/-- **The decision, on the declarations.**  Whatever the declared guards are and whoever is live,
packets of a kind are blocked at a point if and only if some absent guard is not empty, the absent
guards have no points or one of them has the wildcard, the direction or the stage of the point among
its points, and the absent guards have no kinds or one of them has the wildcard or a category of the
kind among its kinds.  Collapsing decides nothing: neither that of a block set, nor that of the
declared guards. -/
theorem blocks_blocked_iff (declarations : Declarations PacketGuard) (isLive : String → Bool)
    (kind : PacketKind) (point : Point) :
    let absent := declarations.Absent isLive
    ((declarations.blocked isLive).blocks kind point = true ↔
      (∃ name guard, absent name guard ∧ guard ≠ {}) ∧
      ((∀ name guard, absent name guard → guard.points = ∅) ∨
        ∃ name guard, absent name guard ∧
          (.all ∈ guard.points ∨ point.direction.category ∈ guard.points ∨
            point.stage.category ∈ guard.points)) ∧
      ((∀ name guard, absent name guard → guard.kinds = ∅) ∨
        ∃ name guard, absent name guard ∧
          (.all ∈ guard.kinds ∨ ∃ c ∈ kind.categories, c ∈ guard.kinds))) ∧
    (∀ blocked : PacketGuard,
      (Guard.collapse blocked).blocks kind point = blocked.blocks kind point) ∧
    (declarations.collapsed.blocked isLive).blocks kind point =
      (declarations.blocked isLive).blocks kind point := by
  intro absent
  refine ⟨?_, fun blocked => blocks_collapse blocked kind point, ?_⟩
  · rw [blocks_iff, blocked_ne_empty_iff, points_decision_iff, kinds_decision_iff]
    simp only [coversPoint_iff_mem, coversKind_iff_mem]
    exact Iff.rfl
  · rw [Declarations.blocked_collapsed]

end PacketGuard

end TrafficGate
