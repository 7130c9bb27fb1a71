import TrafficGate.Proofs.Declarations.Codec

/-!
# Declarations — Plan

What the planned writes do to stored properties.

* `get?_applyAll_of_mem`, `get?_applyAll_of_not_mem`: a batch of writes in which no two disagree
  about a key, by look-ups.  The order of the batch does not matter.
* `mem_plan`: which writes are planned.
* `get?_applyAll_plan`: **the synchronization**.  After the planned writes the owned keys hold what
  the declarations call for, and every other key holds what it held.
-/

namespace TrafficGate

/-! ### Batches of writes -/

namespace Write

/-- What stands under the key of a write after it. -/
def effect : Write → Option String
  | .set _ value => some value
  | .remove _ => none

theorem get?_apply (properties : Properties) (write : Write) (k : String) :
    (write.apply properties).get? k =
      if k = write.key then write.effect else properties.get? k := by
  cases write with
  | set key value => exact Table.get?_insert properties key value k
  | remove key => exact Table.get?_erase properties key k

/-- A key that no write of the batch is about keeps what it holds. -/
theorem get?_applyAll_of_not_mem {batch : List Write} {k : String} (h : ∀ w ∈ batch, w.key ≠ k)
    (properties : Properties) : (applyAll properties batch).get? k = properties.get? k := by
  induction batch generalizing properties with
  | nil => rfl
  | cons w ws ih =>
      have hw : k ≠ w.key := (h w List.mem_cons_self).symm
      rw [applyAll, List.foldl_cons]
      exact (ih (fun v hv => h v (List.mem_cons_of_mem _ hv)) _).trans
        ((get?_apply properties w k).trans (if_neg hw))

/-- A key about which all writes of the batch say the same holds that afterwards, wherever in the
batch they stand. -/
theorem get?_applyAll_of_mem {batch : List Write} {k : String} {effect : Option String}
    (h : ∃ w ∈ batch, w.key = k) (hall : ∀ w ∈ batch, w.key = k → w.effect = effect)
    (properties : Properties) : (applyAll properties batch).get? k = effect := by
  induction batch generalizing properties with
  | nil => simp at h
  | cons w ws ih =>
      rw [applyAll, List.foldl_cons]
      by_cases hlater : ∃ v ∈ ws, v.key = k
      · exact ih hlater (fun v hv => hall v (List.mem_cons_of_mem _ hv)) _
      · -- the first write is the only one about the key
        have hnone : ∀ v ∈ ws, v.key ≠ k := fun v hv hk => hlater ⟨v, hv, hk⟩
        have hw : w.key = k := by
          obtain ⟨v, hv, hk⟩ := h
          rcases List.mem_cons.mp hv with rfl | hv
          · exact hk
          · exact absurd hk (hnone v hv)
        refine (get?_applyAll_of_not_mem hnone _).trans ?_
        rw [get?_apply, if_pos hw.symm]
        exact hall w List.mem_cons_self hw

end Write

/-! ### The planned writes -/

namespace Layout

variable {G : Type} [Guard G] {layout : Layout} {declarations : Declarations G}
  {stored : Properties}

/-- A stored key that is owned and not wanted is removed, and a wanted value that is not stored is
set. -/
theorem mem_plan {w : Write} :
    w ∈ layout.plan declarations stored ↔
      (w.effect = none ∧ (∃ value, stored.get? w.key = some value) ∧ layout.owns w.key = true ∧
        (layout.encode declarations).get? w.key = none) ∨
      (∃ value, w.effect = some value ∧ (layout.encode declarations).get? w.key = some value ∧
        stored.get? w.key ≠ some value) := by
  simp only [plan, List.mem_append, List.mem_map, List.mem_filter, Table.mem_keys_iff,
    Table.contains_eq_false_iff, Bool.and_eq_true, Bool.not_eq_true', decide_eq_true_eq,
    Prod.exists]
  constructor
  · rintro (⟨k, ⟨hstored, howned, hwanted⟩, rfl⟩ | ⟨k, v, ⟨hwanted, hstored⟩, rfl⟩)
    · exact .inl ⟨rfl, hstored, howned, hwanted⟩
    · exact .inr ⟨v, rfl, Table.get?_eq_some_iff.mpr hwanted, hstored⟩
  · cases w with
    | set k v =>
        rintro (⟨h, -⟩ | ⟨value, h, hwanted, hstored⟩)
        · cases h
        · cases h
          exact .inr ⟨k, v, ⟨Table.get?_eq_some_iff.mp hwanted, hstored⟩, rfl⟩
    | remove k =>
        rintro (⟨-, hstored, howned, hwanted⟩ | ⟨value, h, -⟩)
        · exact .inl ⟨k, ⟨hstored, howned, hwanted⟩, rfl⟩
        · cases h

/-- A planned write brings its key to what the declarations call for. -/
theorem effect_of_mem_plan {w : Write} (h : w ∈ layout.plan declarations stored) :
    w.effect = (layout.encode declarations).get? w.key := by
  rcases mem_plan.mp h with ⟨heffect, -, -, hwanted⟩ | ⟨value, heffect, hwanted, -⟩
  · rw [heffect, hwanted]
  · rw [heffect, hwanted]

variable (hstems : Guard.dimensions G ≤ layout.stems.length) (hnamed : declarations.Named)

include hstems hnamed

/-- Planned writes are about owned keys. -/
theorem owns_of_mem_plan {w : Write} (h : w ∈ layout.plan declarations stored) :
    layout.owns w.key = true := by
  rcases mem_plan.mp h with ⟨-, -, howned, -⟩ | ⟨value, -, hwanted, -⟩
  · exact howned
  · exact owns_of_get?_encode hstems hnamed hwanted

/-- **The synchronization.**  The planned writes, in any order, bring the owned keys to what the
declarations call for and leave the others alone.  The properties they are applied to may be others
than those they were planned against, if the two agree on owned keys. -/
theorem get?_applyAll_plan {batch : List Write}
    (hbatch : ∀ w, w ∈ batch ↔ w ∈ layout.plan declarations stored) {properties : Properties}
    (hagree : ∀ k, layout.owns k = true → properties.get? k = stored.get? k) (k : String) :
    (Write.applyAll properties batch).get? k =
      if layout.owns k then (layout.encode declarations).get? k else properties.get? k := by
  by_cases h : ∃ w ∈ batch, w.key = k
  · have heffect : ∀ w ∈ batch, w.key = k → w.effect = (layout.encode declarations).get? k :=
      fun w hw hk => hk ▸ effect_of_mem_plan ((hbatch w).mp hw)
    rw [Write.get?_applyAll_of_mem h heffect]
    obtain ⟨w, hw, rfl⟩ := h
    rw [if_pos (owns_of_mem_plan hstems hnamed ((hbatch w).mp hw))]
  · have hnone : ∀ w ∈ batch, w.key ≠ k := fun w hw hk => h ⟨w, hw, hk⟩
    rw [Write.get?_applyAll_of_not_mem hnone]
    split
    · rename_i howned
      rw [hagree k howned]
      -- an owned key that nothing is planned for holds what is wanted already
      cases hwanted : (layout.encode declarations).get? k with
      | some value =>
          by_contra hstored
          exact hnone _ ((hbatch (.set k value)).mpr
            (mem_plan.mpr (.inr ⟨value, rfl, hwanted, hstored⟩))) rfl
      | none =>
          refine Option.eq_none_iff_forall_ne_some.mpr fun value hstored => ?_
          exact hnone _ ((hbatch (.remove k)).mpr
            (mem_plan.mpr (.inl ⟨rfl, ⟨value, hstored⟩, howned, hwanted⟩))) rfl
    · rfl

end Layout

end TrafficGate
