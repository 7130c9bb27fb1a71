import TrafficGate.Declarations
import TrafficGate.Proofs.Guard.Dimensions
import TrafficGate.Proofs.Table.Lookups

/-!
# Declarations — What is blocked

What is blocked is folded together from the guards of the absent declarations and collapsed.  In
each dimension it covers what some absent guard covers (`covers_blocked`), and it is empty only when
every absent guard is (`selection_blocked_ne_empty_iff`).
-/

namespace TrafficGate

open DimensionalGuard

variable {G : Type} [Guard G]

/-- The name is declared with the guard, and nothing live has it. -/
def Declarations.Absent (declarations : Declarations G) (isLive : String → Bool) (name : String)
    (guard : G) : Prop :=
  declarations.get? name = some guard ∧ isLive name = false

namespace Declarations

variable [DimensionalGuard G]

theorem covers_foldl_union (l : List (String × G)) (pending : G) (d : Fin (Guard.dimensions G))
    (c : Kind d) :
    (selection (l.foldl (fun pending (_, guard) => Guard.union pending guard) pending) d).covers c
        = true ↔
      (selection pending d).covers c = true ∨
        ∃ entry ∈ l, (selection entry.2 d).covers c = true := by
  induction l generalizing pending with
  | nil => simp
  | cons entry l ih =>
      rw [List.foldl_cons, ih, selection_union, Selection.covers_union, or_assoc]
      simp only [List.mem_cons, exists_eq_or_imp]

/-- **The block rule.**  In each dimension a category is blocked exactly when the guard of some
absent declaration covers it. -/
theorem covers_blocked (declarations : Declarations G) (isLive : String → Bool)
    (d : Fin (Guard.dimensions G)) (c : Kind d) :
    (selection (declarations.blocked isLive) d).covers c = true ↔
      ∃ name guard, declarations.Absent isLive name guard ∧
        (selection guard d).covers c = true := by
  rw [blocked, selection_collapse, Selection.covers_collapse, covers_foldl_union, selection_empty,
    Selection.covers_empty]
  constructor
  · rintro (h | ⟨⟨name, guard⟩, hmem, hc⟩)
    · cases h
    · obtain ⟨hentry, hlive⟩ := List.mem_filter.mp hmem
      exact ⟨name, guard, ⟨Table.get?_eq_some_iff.mpr hentry, by simpa using hlive⟩, hc⟩
  · rintro ⟨name, guard, ⟨hget, hlive⟩, hc⟩
    exact .inr ⟨(name, guard),
      List.mem_filter.mpr ⟨Table.get?_eq_some_iff.mp hget, by simp [hlive]⟩, hc⟩

/-- What is blocked is collapsed. -/
theorem collapse_blocked (declarations : Declarations G) (isLive : String → Bool) :
    Guard.collapse (declarations.blocked isLive) = declarations.blocked isLive :=
  collapse_collapse _

theorem selection_blocked_eq_wildcard {declarations : Declarations G} {isLive : String → Bool}
    {d : Fin (Guard.dimensions G)}
    (h : Category.all ∈ selection (declarations.blocked isLive) d) :
    selection (declarations.blocked isLive) d = Selection.wildcard := by
  rw [← collapse_blocked, selection_collapse] at h ⊢
  exact Selection.eq_wildcard_of_mem_collapse h

/-- What is blocked covers one of some categories when the guard of some absent declaration covers
one of them. -/
theorem exists_covers_blocked (declarations : Declarations G) (isLive : String → Bool)
    (d : Fin (Guard.dimensions G)) (p : Kind d → Prop) :
    (∃ c, p c ∧ (selection (declarations.blocked isLive) d).covers c = true) ↔
      ∃ name guard, declarations.Absent isLive name guard ∧
        ∃ c, p c ∧ (selection guard d).covers c = true := by
  simp only [covers_blocked]
  constructor
  · rintro ⟨c, hp, name, guard, habsent, hc⟩
    exact ⟨name, guard, habsent, c, hp, hc⟩
  · rintro ⟨name, guard, habsent, c, hp, hc⟩
    exact ⟨c, hp, name, guard, habsent, hc⟩

/-- A dimension of what is blocked is not empty when that of some absent guard is not. -/
theorem selection_blocked_ne_empty_iff (declarations : Declarations G) (isLive : String → Bool)
    (d : Fin (Guard.dimensions G)) :
    selection (declarations.blocked isLive) d ≠ Selection.empty ↔
      ∃ name guard, declarations.Absent isLive name guard ∧
        selection guard d ≠ Selection.empty := by
  simpa only [Selection.ne_empty_iff_covers, true_and] using
    exists_covers_blocked declarations isLive d fun _ => True

end Declarations

end TrafficGate
