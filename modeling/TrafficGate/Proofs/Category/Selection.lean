import TrafficGate.Category.Selection

/-!
# Category — Selection laws

What a selection covers, and what collapsing keeps.

* `covers_union`, `covers_collapse`: a union covers what either side covers, and collapsing changes
  nothing about what is covered.
* `collapse_eq_of_covers`: what a selection covers determines what it is collapsed to.
* `collapse_union_collapse`: a union is collapsed alike whether or not its sides were.
-/

namespace TrafficGate

namespace Selection

variable {C : Type} [DecidableEq C] [Category C]

/-! ### Covering -/

theorem covers_iff {s : Selection C} {c : C} :
    s.covers c = true ↔ Category.all ∈ s ∨ c ∈ s := by
  simp [covers]

theorem covers_all {s : Selection C} : s.covers Category.all = true ↔ Category.all ∈ s := by
  rw [covers_iff, or_self]

@[simp] theorem covers_empty (c : C) : (empty : Selection C).covers c = false := by
  simp [covers]

@[simp] theorem covers_wildcard (c : C) : (wildcard : Selection C).covers c = true := by
  simp [covers]

theorem covers_union {s t : Selection C} {c : C} :
    (s.union t).covers c = true ↔ s.covers c = true ∨ t.covers c = true := by
  simp only [covers_iff, mem_union]
  constructor
  · rintro ((h | h) | (h | h))
    · exact .inl (.inl h)
    · exact .inr (.inl h)
    · exact .inl (.inr h)
    · exact .inr (.inr h)
  · rintro ((h | h) | (h | h))
    · exact .inl (.inl h)
    · exact .inr (.inl h)
    · exact .inl (.inr h)
    · exact .inr (.inr h)

/-- Only the empty selection covers nothing. -/
theorem ne_empty_iff_covers {s : Selection C} : s ≠ empty ↔ ∃ c, s.covers c = true := by
  constructor
  · intro h
    refine Classical.byContradiction fun hnone => ?_
    refine h (ext_mem fun c => ⟨fun hc => ?_, fun hc => absurd hc not_mem_empty⟩)
    exact absurd ⟨c, covers_iff.mpr (.inr hc)⟩ hnone
  · rintro ⟨c, hc⟩ rfl
    rw [covers_empty] at hc
    cases hc

theorem isEmpty_iff {s : Selection C} : s.isEmpty = true ↔ s = empty := by
  rw [isEmpty, List.isEmpty_iff]
  exact ⟨fun h => ext h, fun h => h ▸ rfl⟩

/-! ### Collapsing -/

theorem collapse_of_mem {s : Selection C} (h : Category.all ∈ s) : s.collapse = wildcard :=
  if_pos h

theorem collapse_of_not_mem {s : Selection C} (h : ¬ Category.all ∈ s) : s.collapse = s :=
  if_neg h

@[simp] theorem collapse_empty : (empty : Selection C).collapse = empty :=
  collapse_of_not_mem not_mem_empty

@[simp] theorem collapse_collapse (s : Selection C) : s.collapse.collapse = s.collapse := by
  by_cases h : Category.all ∈ s
  · rw [collapse_of_mem h, collapse_of_mem (mem_wildcard.mpr rfl)]
  · rw [collapse_of_not_mem h, collapse_of_not_mem h]

@[simp] theorem covers_collapse (s : Selection C) (c : C) : s.collapse.covers c = s.covers c := by
  by_cases h : Category.all ∈ s
  · rw [collapse_of_mem h, covers_wildcard, covers_iff.mpr (.inl h)]
  · rw [collapse_of_not_mem h]

/-- A collapsed selection with the wildcard in it holds nothing else. -/
theorem eq_wildcard_of_mem_collapse {s : Selection C} (h : Category.all ∈ s.collapse) :
    s.collapse = wildcard := by
  rw [← collapse_collapse s, collapse_of_mem h]

/-- Selections that cover the same categories are collapsed to the same selection. -/
theorem collapse_eq_of_covers {s t : Selection C} (h : ∀ c, s.covers c = t.covers c) :
    s.collapse = t.collapse := by
  have hall : Category.all ∈ s ↔ Category.all ∈ t := by rw [← covers_all, ← covers_all, h]
  by_cases hs : Category.all ∈ s
  · rw [collapse_of_mem hs, collapse_of_mem (hall.mp hs)]
  · have ht : ¬ Category.all ∈ t := fun e => hs (hall.mpr e)
    rw [collapse_of_not_mem hs, collapse_of_not_mem ht]
    -- without the wildcard a selection covers its members and nothing else
    refine ext_mem fun c => ?_
    have hc : s.covers c = true ↔ t.covers c = true := by rw [h]
    rwa [covers_iff, covers_iff, or_iff_right hs, or_iff_right ht] at hc

/-- Collapsing both sides of a union first makes no difference once the union is collapsed. -/
theorem collapse_union_collapse (s t : Selection C) :
    (s.collapse.union t.collapse).collapse = (s.union t).collapse := by
  refine collapse_eq_of_covers fun c => Bool.eq_iff_iff.mpr ?_
  rw [covers_union, covers_union, covers_collapse, covers_collapse]

theorem collapse_eq_empty_iff {s : Selection C} : s.collapse = empty ↔ s = empty := by
  refine ⟨fun h => ?_, fun h => h ▸ collapse_empty⟩
  by_cases hall : Category.all ∈ s
  · have hmem : Category.all ∈ (empty : Selection C) :=
      h ▸ (collapse_of_mem hall).symm ▸ mem_wildcard.mpr rfl
    exact absurd hmem not_mem_empty
  · exact (collapse_of_not_mem hall) ▸ h

end Selection

end TrafficGate
