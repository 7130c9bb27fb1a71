/-!
# Table

Finite maps from names to values, kept in ascending order of the names (by code point, which is
also the order of the bytes of their UTF-8 form).  The order is part of the type, so two tables with
the same look-ups are equal.

* `get?_insert`, `get?_erase`: what a look-up finds after a change.
* `Table.ext_get?`: a table is determined by its look-ups.
-/

namespace TrafficGate

/-- A finite map from names to values, in ascending order of the names. -/
structure Table (V : Type) where
  entries : List (String × V)
  ascending : entries.Pairwise (fun a b => a.1 < b.1)

namespace Table

variable {V : Type}

/-- The table without entries. -/
def empty : Table V := ⟨[], .nil⟩

instance : Inhabited (Table V) := ⟨empty⟩

instance : EmptyCollection (Table V) := ⟨empty⟩

theorem ext {t u : Table V} (h : t.entries = u.entries) : t = u := by
  cases t; cases u; cases h; rfl

instance [DecidableEq V] : DecidableEq (Table V) := fun t u =>
  decidable_of_iff (t.entries = u.entries) ⟨ext, congrArg entries⟩

/-- The names, ascending. -/
def keys (t : Table V) : List String := t.entries.map (·.1)

/-- The table has no entries. -/
def isEmpty (t : Table V) : Bool := t.entries.isEmpty

/-- The number of entries. -/
def size (t : Table V) : Nat := t.entries.length

/-- The value of the first entry under the name. -/
def lookup (k : String) : List (String × V) → Option V
  | [] => none
  | (a, w) :: rest => if k = a then some w else lookup k rest

/-- The value under a name. -/
def get? (t : Table V) (k : String) : Option V := lookup k t.entries

/-- The table has an entry under the name. -/
def contains (t : Table V) (k : String) : Bool := (t.get? k).isSome

/-! ### Changing one entry -/

/-- The entries with `v` under `k`, whatever stood there before. -/
def insertEntry (k : String) (v : V) : List (String × V) → List (String × V)
  | [] => [(k, v)]
  | (a, w) :: rest =>
    if k < a then (k, v) :: (a, w) :: rest
    else if a < k then (a, w) :: insertEntry k v rest
    else (k, v) :: rest

theorem mem_insertEntry {k : String} {v : V} {x : String × V} {l : List (String × V)}
    (h : x ∈ insertEntry k v l) : x = (k, v) ∨ x ∈ l := by
  induction l with
  | nil => simpa [insertEntry] using h
  | cons hd tl ih =>
    obtain ⟨a, w⟩ := hd
    rw [insertEntry] at h
    split at h
    · simpa using h
    · split at h
      · rcases List.mem_cons.mp h with rfl | h
        · simp
        · rcases ih h with rfl | h
          · simp
          · simp [h]
      · rcases List.mem_cons.mp h with rfl | h
        · simp
        · simp [h]

theorem eq_of_not_lt {a k : String} (h₁ : ¬ k < a) (h₂ : ¬ a < k) : a = k :=
  String.le_antisymm (String.not_lt.mp h₁) (String.not_lt.mp h₂)

theorem pairwise_insertEntry (k : String) (v : V) {l : List (String × V)}
    (h : l.Pairwise (fun a b => a.1 < b.1)) :
    (insertEntry k v l).Pairwise (fun a b => a.1 < b.1) := by
  induction l with
  | nil => simp [insertEntry]
  | cons hd tl ih =>
    obtain ⟨a, w⟩ := hd
    have htl := (List.pairwise_cons.mp h).2
    have hhd := (List.pairwise_cons.mp h).1
    rw [insertEntry]
    split
    · next hlt =>
      refine List.pairwise_cons.mpr ⟨fun x hx => ?_, h⟩
      rcases List.mem_cons.mp hx with rfl | hx
      · exact hlt
      · exact String.lt_trans hlt (hhd x hx)
    · next hnot =>
      split
      · next hlt =>
        refine List.pairwise_cons.mpr ⟨fun x hx => ?_, ih htl⟩
        rcases mem_insertEntry hx with rfl | hx
        · exact hlt
        · exact hhd x hx
      · next hnot' =>
        have hak : a = k := eq_of_not_lt hnot hnot'
        exact List.pairwise_cons.mpr ⟨fun x hx => hak ▸ hhd x hx, htl⟩

/-- The table with `v` under `k`, whatever stood there before. -/
def insert (t : Table V) (k : String) (v : V) : Table V :=
  ⟨insertEntry k v t.entries, pairwise_insertEntry k v t.ascending⟩

/-- The table with nothing under `k`. -/
def erase (t : Table V) (k : String) : Table V :=
  ⟨t.entries.filter (·.1 ≠ k), t.ascending.filter _⟩

/-- The table of the given entries; of two under one name the later one counts. -/
def ofList (entries : List (String × V)) : Table V :=
  entries.foldl (fun t (k, v) => t.insert k v) empty

/-! ### Look-ups -/

theorem lookup_insertEntry (k : String) (v : V) (l : List (String × V)) (q : String) :
    lookup q (insertEntry k v l) = if q = k then some v else lookup q l := by
  induction l with
  | nil => simp [insertEntry, lookup]
  | cons hd tl ih =>
    obtain ⟨a, w⟩ := hd
    rw [insertEntry]
    split
    · simp [lookup]
    · next hnot =>
      split
      · next hlt =>
        have hne : a ≠ k := fun e => String.lt_irrefl k (e ▸ hlt)
        by_cases h : q = a
        · subst h; simp [lookup, hne]
        · simp [lookup, h, ih]
      · next hnot' =>
        have hak : a = k := eq_of_not_lt hnot hnot'
        by_cases h : q = k <;> simp [lookup, h, hak]

@[simp] theorem get?_empty (q : String) : (empty : Table V).get? q = none := rfl

theorem get?_insert (t : Table V) (k : String) (v : V) (q : String) :
    (t.insert k v).get? q = if q = k then some v else t.get? q :=
  lookup_insertEntry k v t.entries q

theorem lookup_filter_ne (l : List (String × V)) (k q : String) :
    lookup q (l.filter (·.1 ≠ k)) = if q = k then none else lookup q l := by
  induction l with
  | nil => simp [lookup]
  | cons hd tl ih =>
    obtain ⟨a, w⟩ := hd
    by_cases hak : a = k
    · subst hak
      simp only [ne_eq, not_true_eq_false, decide_false, Bool.false_eq_true, not_false_eq_true,
        List.filter_cons_of_neg, ih, lookup]
      split <;> simp_all
    · by_cases hqa : q = a
      · subst hqa; simp [lookup, hak]
      · rw [List.filter_cons_of_pos (by simpa using hak), lookup, lookup, if_neg hqa, if_neg hqa, ih]

theorem get?_erase (t : Table V) (k q : String) :
    (t.erase k).get? q = if q = k then none else t.get? q :=
  lookup_filter_ne t.entries k q

/-! ### A table is its look-ups -/

theorem lookup_eq_none_of_lt {l : List (String × V)} {k : String}
    (h : ∀ x ∈ l, k < x.1) : lookup k l = none := by
  induction l with
  | nil => rfl
  | cons hd tl ih =>
    have hlt := h hd List.mem_cons_self
    have hne : k ≠ hd.1 := fun e => String.lt_irrefl k (by rw [← e] at hlt; exact hlt)
    rw [lookup, if_neg hne]
    exact ih fun x hx => h x (List.mem_cons_of_mem _ hx)

theorem entries_eq_of_lookup_eq {l m : List (String × V)}
    (hl : l.Pairwise (fun a b => a.1 < b.1)) (hm : m.Pairwise (fun a b => a.1 < b.1))
    (h : ∀ k, lookup k l = lookup k m) : l = m := by
  induction l generalizing m with
  | nil =>
    cases m with
    | nil => rfl
    | cons hd tl => have := h hd.1; simp [lookup] at this
  | cons a l ih =>
    cases m with
    | nil => have := h a.1; simp [lookup] at this
    | cons b m =>
      have ha := List.pairwise_cons.mp hl
      have hb := List.pairwise_cons.mp hm
      have hab : a.1 = b.1 := by
        refine eq_of_not_lt (fun hlt => ?_) (fun hlt => ?_)
        · have hb₁ := h b.1
          have hne : b.1 ≠ a.1 := fun e => String.lt_irrefl a.1 (by rw [e] at hlt; exact hlt)
          rw [lookup, lookup, if_neg hne, if_pos rfl,
            lookup_eq_none_of_lt fun x hx => String.lt_trans hlt (ha.1 x hx)] at hb₁
          cases hb₁
        · have ha₁ := h a.1
          have hne : a.1 ≠ b.1 := fun e => String.lt_irrefl a.1 (by rw [← e] at hlt; exact hlt)
          rw [lookup, lookup, if_neg hne, if_pos rfl,
            lookup_eq_none_of_lt fun x hx => String.lt_trans hlt (hb.1 x hx)] at ha₁
          cases ha₁
      have hval : a.2 = b.2 := by
        have := h a.1
        simpa [lookup, hab] using this
      have heq : a = b := Prod.ext hab hval
      subst heq
      congr 1
      refine ih ha.2 hb.2 fun k => ?_
      by_cases hk : k = a.1
      · subst hk
        rw [lookup_eq_none_of_lt ha.1, lookup_eq_none_of_lt hb.1]
      · have := h k
        simpa [lookup, hk] using this

theorem ext_get? {t u : Table V} (h : ∀ k, t.get? k = u.get? k) : t = u :=
  ext (entries_eq_of_lookup_eq t.ascending u.ascending h)

end Table

end TrafficGate
