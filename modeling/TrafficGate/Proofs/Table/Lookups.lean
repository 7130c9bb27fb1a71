import TrafficGate.Table

/-!
# Table — Look-ups

What look-ups say about entries, names and tables made from lists.

* `get?_eq_some_iff`, `mem_keys_iff`: entries and names through look-ups.
* `get?_ofList_eq_some`, `get?_ofList_eq_none`: a table of given entries, when those under one name
  agree.  Their order does not matter then.
* `ofList_entries`: a table is the table of its entries.
* `get?_mapValues`: a table whose values are changed one by one.
-/

namespace TrafficGate.Table

variable {V : Type}

/-! ### Entries -/

theorem mem_of_lookup {k : String} {v : V} {l : List (String × V)} (h : lookup k l = some v) :
    (k, v) ∈ l := by
  induction l with
  | nil => simp [lookup] at h
  | cons hd tl ih =>
      rw [lookup] at h
      split at h
      · rename_i hk
        cases h
        exact hk ▸ List.mem_cons_self
      · exact List.mem_cons_of_mem _ (ih h)

theorem lookup_eq_none {k : String} {l : List (String × V)} (h : ∀ v, (k, v) ∉ l) :
    lookup k l = none :=
  Option.eq_none_iff_forall_not_mem.mpr fun v hv => h v (mem_of_lookup hv)

/-- A list in which everything under a name is one value finds that value. -/
theorem lookup_eq_some {k : String} {v : V} {l : List (String × V)} (h : (k, v) ∈ l)
    (hall : ∀ w, (k, w) ∈ l → w = v) : lookup k l = some v := by
  cases hl : lookup k l with
  | some w => rw [hall w (mem_of_lookup hl)]
  | none =>
      induction l with
      | nil => cases h
      | cons hd tl ih =>
          rw [lookup] at hl
          split at hl
          · cases hl
          · rename_i hk
            have hmem : (k, v) ∈ tl := (List.mem_cons.mp h).resolve_left fun e => hk (by rw [← e])
            exact ih hmem (fun w hw => hall w (List.mem_cons_of_mem _ hw)) hl

/-- Names ascend, so a name has one value. -/
theorem eq_of_mem_of_mem {k : String} {v w : V} {l : List (String × V)}
    (hl : l.Pairwise fun a b => a.1 < b.1) (hv : (k, v) ∈ l) (hw : (k, w) ∈ l) : w = v := by
  induction hl with
  | nil => cases hv
  | cons hlt _ ih =>
      rcases List.mem_cons.mp hv with ev | hv' <;> rcases List.mem_cons.mp hw with ew | hw'
      · exact congrArg Prod.snd (ew.trans ev.symm)
      · subst ev
        exact absurd (hlt _ hw') (String.lt_irrefl k)
      · subst ew
        exact absurd (hlt _ hv') (String.lt_irrefl k)
      · exact ih hv' hw'

theorem get?_eq_some_iff {t : Table V} {k : String} {v : V} :
    t.get? k = some v ↔ (k, v) ∈ t.entries :=
  ⟨mem_of_lookup, fun h => lookup_eq_some h fun _ hw => eq_of_mem_of_mem t.ascending h hw⟩

theorem mem_keys_iff {t : Table V} {k : String} : k ∈ t.keys ↔ ∃ v, t.get? k = some v := by
  simp only [keys, List.mem_map, get?_eq_some_iff]
  constructor
  · rintro ⟨⟨a, v⟩, h, rfl⟩
    exact ⟨v, h⟩
  · rintro ⟨v, h⟩
    exact ⟨(k, v), h, rfl⟩

theorem contains_eq_false_iff {t : Table V} {k : String} :
    t.contains k = false ↔ t.get? k = none :=
  Option.isSome_eq_false_iff.trans Option.isNone_iff_eq_none

theorem isEmpty_iff {t : Table V} : t.isEmpty = true ↔ t = empty := by
  rw [isEmpty, List.isEmpty_iff]
  exact ⟨fun h => ext h, fun h => h ▸ rfl⟩

/-! ### Tables of given entries -/

theorem lookup_append (k : String) (l m : List (String × V)) :
    lookup k (l ++ m) = (lookup k l).or (lookup k m) := by
  induction l with
  | nil => rfl
  | cons hd tl ih =>
      rw [List.cons_append, lookup, lookup, ih]
      split <;> rfl

/-- Of the entries under one name the last one is found. -/
theorem get?_foldl_insert (l : List (String × V)) (t : Table V) (k : String) :
    (l.foldl (fun t (k, v) => t.insert k v) t).get? k = (lookup k l.reverse).or (t.get? k) := by
  induction l generalizing t with
  | nil => rfl
  | cons hd tl ih =>
      rw [List.foldl_cons, ih, List.reverse_cons, lookup_append, Option.or_assoc, get?_insert,
        lookup, lookup]
      split <;> rfl

theorem get?_ofList (l : List (String × V)) (k : String) :
    (ofList l).get? k = lookup k l.reverse := by
  rw [ofList, get?_foldl_insert, get?_empty, Option.or_none]

theorem get?_ofList_eq_some {k : String} {v : V} {l : List (String × V)} (h : (k, v) ∈ l)
    (hall : ∀ w, (k, w) ∈ l → w = v) : (ofList l).get? k = some v := by
  rw [get?_ofList]
  exact lookup_eq_some (List.mem_reverse.mpr h) fun w hw => hall w (List.mem_reverse.mp hw)

theorem get?_ofList_eq_none {k : String} {l : List (String × V)} (h : ∀ v, (k, v) ∉ l) :
    (ofList l).get? k = none := by
  rw [get?_ofList]
  exact lookup_eq_none fun v hv => h v (List.mem_reverse.mp hv)

theorem mem_of_get?_ofList {k : String} {v : V} {l : List (String × V)}
    (h : (ofList l).get? k = some v) : (k, v) ∈ l := by
  rw [get?_ofList] at h
  exact List.mem_reverse.mp (mem_of_lookup h)

/-- A table is the table of its entries. -/
@[simp] theorem ofList_entries (t : Table V) : ofList t.entries = t := by
  refine ext_get? fun k => ?_
  cases hget : t.get? k with
  | some v =>
      have hmem := get?_eq_some_iff.mp hget
      exact get?_ofList_eq_some hmem fun w hw => eq_of_mem_of_mem t.ascending hmem hw
  | none =>
      refine get?_ofList_eq_none fun v hv => ?_
      rw [get?_eq_some_iff.mpr hv] at hget
      cases hget

/-! ### Changed values -/

/-- The table with `f v` wherever `v` stood. -/
def mapValues {W : Type} (f : V → W) (t : Table V) : Table W where
  entries := t.entries.map fun (k, v) => (k, f v)
  ascending := t.ascending.map _ fun _ _ h => h

theorem lookup_map_values {W : Type} (f : V → W) (k : String) (l : List (String × V)) :
    lookup k (l.map fun (a, v) => (a, f v)) = (lookup k l).map f := by
  induction l with
  | nil => rfl
  | cons hd tl ih =>
      rw [List.map_cons, lookup, lookup, ih]
      split <;> rfl

@[simp] theorem get?_mapValues {W : Type} (f : V → W) (t : Table V) (k : String) :
    (t.mapValues f).get? k = (t.get? k).map f :=
  lookup_map_values f k t.entries

end TrafficGate.Table
