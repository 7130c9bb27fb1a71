/-!
# Stopping

Going through a list until something in it decides.

* `through`: the elements up to the first one that decides, this one included; all of them if none
  does.
* `StopsAt`: what pins these elements down, said without `through` (`stopsAt_through`,
  `StopsAt.eq_through`).
* `through_append_of_forall`, `through_append_of_exists`: going on behind a first part.
-/

namespace TrafficGate

variable {α : Type} (decisive : α → Prop)

/-- The elements up to the first decisive one, and that one; all of them if none is decisive. -/
def through [DecidablePred decisive] : List α → List α
  | [] => []
  | x :: rest => if decisive x then [x] else x :: through rest

/-- `made` is the shortest front of `all` that ends with a decisive element, and it is the whole of
`all` if there is none. -/
structure StopsAt (made all : List α) : Prop where
  front : made <+: all
  undecided : ∀ x ∈ made.dropLast, ¬ decisive x
  ended : made = all ∨ ∃ x, made.getLast? = some x ∧ decisive x

variable {decisive} [DecidablePred decisive]

theorem through_of_forall {l : List α} (h : ∀ x ∈ l, ¬ decisive x) : through decisive l = l := by
  induction l with
  | nil => rfl
  | cons x rest ih =>
      rw [through, if_neg (h x List.mem_cons_self), ih fun y hy => h y (List.mem_cons_of_mem _ hy)]

theorem through_append_of_forall {l : List α} (h : ∀ x ∈ l, ¬ decisive x) (m : List α) :
    through decisive (l ++ m) = l ++ through decisive m := by
  induction l with
  | nil => rfl
  | cons x rest ih =>
      rw [List.cons_append, through, if_neg (h x List.mem_cons_self),
        ih fun y hy => h y (List.mem_cons_of_mem _ hy), List.cons_append]

theorem through_append_of_exists {l : List α} (h : ∃ x ∈ l, decisive x) (m : List α) :
    through decisive (l ++ m) = through decisive l := by
  induction l with
  | nil => simp at h
  | cons x rest ih =>
      rw [List.cons_append, through, through]
      by_cases hx : decisive x
      · rw [if_pos hx, if_pos hx]
      · obtain ⟨y, hy, hdecisive⟩ := h
        have hrest : y ∈ rest := (List.mem_cons.mp hy).resolve_left fun e => hx (e ▸ hdecisive)
        rw [if_neg hx, if_neg hx, ih ⟨y, hrest, hdecisive⟩]

/-- Where something is decisive, the last element that is reached is. -/
theorem getLast?_through {l : List α} (h : ∃ x ∈ l, decisive x) :
    ∃ x, (through decisive l).getLast? = some x ∧ decisive x := by
  induction l with
  | nil => simp at h
  | cons x rest ih =>
      rw [through]
      by_cases hx : decisive x
      · rw [if_pos hx]
        exact ⟨x, rfl, hx⟩
      · obtain ⟨y, hy, hdecisive⟩ := h
        have hrest : y ∈ rest := (List.mem_cons.mp hy).resolve_left fun e => hx (e ▸ hdecisive)
        obtain ⟨z, hz, hlast⟩ := ih ⟨y, hrest, hdecisive⟩
        rw [if_neg hx, List.getLast?_cons, hz]
        exact ⟨z, rfl, hlast⟩

/-- **Through stops at the first decisive element.** -/
theorem stopsAt_through (l : List α) : StopsAt decisive (through decisive l) l := by
  refine ⟨?_, ?_, ?_⟩
  · induction l with
    | nil => exact List.prefix_refl _
    | cons x rest ih =>
        rw [through]
        split
        · exact ⟨rest, rfl⟩
        · exact (List.prefix_cons_inj x).mpr ih
  · induction l with
    | nil => intro x hx; cases hx
    | cons x rest ih =>
        rw [through]
        split
        · intro y hy; cases hy
        · rename_i hx
          intro y hy
          by_cases hrest : through decisive rest = []
          · rw [hrest] at hy
            cases hy
          · rw [List.dropLast_cons_of_ne_nil hrest] at hy
            rcases List.mem_cons.mp hy with rfl | hy
            · exact hx
            · exact ih y hy
  · by_cases h : ∃ x ∈ l, decisive x
    · exact .inr (getLast?_through h)
    · exact .inl (through_of_forall fun x hx hdecisive => h ⟨x, hx, hdecisive⟩)

omit [DecidablePred decisive] in
/-- Behind an element that does not decide, the rest stops as it would by itself. -/
theorem StopsAt.tail {x : α} {made rest : List α} (h : StopsAt decisive (x :: made) (x :: rest))
    (hx : ¬ decisive x) : StopsAt decisive made rest := by
  obtain ⟨front, undecided, ended⟩ := h
  refine ⟨(List.prefix_cons_inj x).mp front, fun y hy => ?_, ?_⟩
  · have hne : made ≠ [] := by
      rintro rfl
      cases hy
    rw [List.dropLast_cons_of_ne_nil hne] at undecided
    exact undecided y (List.mem_cons_of_mem _ hy)
  · rcases ended with hall | ⟨y, hlast, hdecisive⟩
    · exact .inl (List.cons.inj hall).2
    · -- the last element decides, so it is not the first one
      refine .inr ⟨y, ?_, hdecisive⟩
      rw [List.getLast?_cons] at hlast
      cases hmade : made.getLast? with
      | none =>
          rw [hmade] at hlast
          cases hlast
          exact absurd hdecisive hx
      | some z =>
          rw [hmade] at hlast
          exact hlast

/-- Nothing else stops there. -/
theorem StopsAt.eq_through {made all : List α} (h : StopsAt decisive made all) :
    made = through decisive all := by
  induction all generalizing made with
  | nil => exact List.prefix_nil.mp h.front
  | cons x rest ih =>
      rw [through]
      rcases List.prefix_cons_iff.mp h.front with rfl | ⟨more, rfl, -⟩
      · rcases h.ended with hall | ⟨y, hlast, -⟩
        · cases hall
        · cases hlast
      · by_cases hx : decisive x
        · rw [if_pos hx]
          cases more with
          | nil => rfl
          | cons y more => exact absurd hx (h.undecided x List.mem_cons_self)
        · rw [if_neg hx, ← ih (h.tail hx)]

end TrafficGate
