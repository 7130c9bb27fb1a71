import TrafficGate.Json.Value
import TrafficGate.Json.Writer

/-!
# Json — Records

What a record is read as that was written as an object with its fields in order.

* `record?_ofFields`: the fields of the object, if no two have one name.
* `maybe_ofOption`: a field that may be missing.
* `mapM_map_eq_some`: the items of an array.
-/

namespace TrafficGate.Json

/-- Reading what was written of each item gives what each item stands for. -/
theorem mapM_map_eq_some {α β γ : Type} {read : β → Option γ} {write : α → β} {value : α → γ}
    {items : List α} (h : ∀ item ∈ items, read (write item) = some (value item)) :
    (items.map write).mapM read = some (items.map value) := by
  induction items with
  | nil => rfl
  | cons item items ih =>
      obtain ⟨hitem, hitems⟩ := List.forall_mem_cons.mp h
      rw [List.map_cons, List.mapM_cons, hitem, ih hitems]
      rfl

/-- Under the name of one of several fields stands that field alone. -/
theorem filter_members {fields : List (String × Json)} (h : (fields.map (·.1)).Nodup)
    {field : String × Json} (hfield : field ∈ fields) :
    (fields.map fun (name, value) => (Literal.text name, value)).filter (·.1 = .text field.1) =
      [(.text field.1, field.2)] := by
  induction fields with
  | nil => cases hfield
  | cons first rest ih =>
      obtain ⟨hfirst, hrest⟩ := List.nodup_cons.mp h
      rw [List.map_cons]
      rcases List.mem_cons.mp hfield with rfl | hfield
      · -- no further field has the name
        have hothers : (rest.map fun (name, value) => (Literal.text name, value)).filter
            (·.1 = .text field.1) = [] := by
          refine List.filter_eq_nil_iff.mpr fun member hmember => ?_
          obtain ⟨other, hother, rfl⟩ := List.mem_map.mp hmember
          have hne : other.1 ≠ field.1 := fun e => hfirst (List.mem_map.mpr ⟨other, hother, e⟩)
          simpa using hne
        rw [List.filter_cons_of_pos (by simp), hothers]
      · have hne : first.1 ≠ field.1 := fun e =>
          hfirst (List.mem_map.mpr ⟨field, hfield, e.symm⟩)
        rw [List.filter_cons_of_neg (by simpa using hne), ih hrest hfield]

/-- **A written record is read field by field.** -/
theorem record?_ofFields {fields : List (String × Json)} (names : List String)
    (hnames : fields.map (·.1) = names) (h : names.Nodup) :
    (ofFields fields).record? names = some (fields.map fun field => some field.2) := by
  subst hnames
  have hpaired : (fields.map fun (name, value) => (Literal.text name, value)).any
      (·.1 = .unpaired) = false := by
    refine List.any_eq_false.mpr fun member hmember => ?_
    obtain ⟨field, -, rfl⟩ := List.mem_map.mp hmember
    simp
  rw [ofFields, record?, hpaired, if_neg Bool.false_ne_true]
  refine mapM_map_eq_some fun field hfield => ?_
  rw [filter_members h hfield]

theorem optional_of_ne_null {α : Type} {read : Json → Option α} {j : Json} (h : j ≠ .null) :
    optional read j = (read j).map some := by
  cases j with
  | null => exact absurd rfl h
  | _ => rfl

/-- A field that may be missing is read back, if nothing that is there is written as null. -/
theorem maybe_ofOption {α : Type} {read : Json → Option α} {write : α → Json}
    (hread : ∀ a, read (write a) = some a) (hnull : ∀ a, write a ≠ .null) (value : Option α) :
    maybe read (some (ofOption write value)) = some value := by
  cases value with
  | none => rfl
  | some a =>
      rw [maybe, ofOption, Option.elim_some, optional_of_ne_null (hnull a), hread]
      rfl

/-- An array of written items is read back. -/
theorem list?_map {α : Type} {read : Json → Option α} {write : α → Json}
    (h : ∀ a, read (write a) = some a) (items : List α) :
    list? read (.array (items.map write)) = some items := by
  rw [list?, mapM_map_eq_some fun a _ => h a, List.map_id']

end TrafficGate.Json
