import Mathlib.Data.List.Basic
import TrafficGate.Proofs.Declarations.Keys
import TrafficGate.Proofs.Guard.Dimensions
import TrafficGate.Proofs.Table.Lookups

/-!
# Declarations — Codec

Declarations as properties, and back, by look-ups.

* `get?_encode_listKey`, `get?_encode_key`: what is stored under the key of the list and under the
  key of a dimension of a name.
* `owns_of_get?_encode`: nothing else is stored.
* `get?_decode`, `selection_decodeGuard`: what is read.
* `decode_congr`: what is read depends on the keys that the layout owns and on nothing else.
* `get?_decode_encode`, `decode_encode`: **the round trip**.  It needs every name to be a token
  (`Declarations.Named`), and gives every guard back collapsed.
-/

namespace TrafficGate

variable {G : Type} [Guard G]

/-- Every declared name can stand in a list with commas. -/
def Declarations.Named (declarations : Declarations G) : Prop :=
  ∀ name guard, declarations.get? name = some guard → Text.IsToken name

/-- Every declared guard is collapsed. -/
def Declarations.Collapsed (declarations : Declarations G) : Prop :=
  ∀ name guard, declarations.get? name = some guard → Guard.collapse guard = guard

namespace Layout

/-! ### What is stored -/

theorem mem_guardEntries {layout : Layout} {name k v : String} {guard : G} :
    (k, v) ∈ layout.guardEntries name guard ↔
      ∃ d < Guard.dimensions G, k = layout.key d name ∧ v = Guard.encode (Guard.collapse guard) d ∧
        v ≠ "" := by
  simp only [guardEntries, List.mem_filterMap, List.mem_range]
  constructor
  · rintro ⟨d, hd, h⟩
    split at h
    · cases h
    · rename_i hv
      cases h
      exact ⟨d, hd, rfl, rfl, hv⟩
  · rintro ⟨d, hd, rfl, rfl, hv⟩
    exact ⟨d, hd, if_neg hv⟩

/-- The properties of declarations, in the order in which they are made. -/
def encodedEntries (layout : Layout) (declarations : Declarations G) : List (String × String) :=
  (layout.listKey, Text.joined "," declarations.keys) ::
    declarations.entries.flatMap fun (name, guard) => layout.guardEntries name guard

theorem encode_empty (layout : Layout) :
    layout.encode (Table.empty : Declarations G) = Table.empty := rfl

theorem encode_of_not_isEmpty {layout : Layout} {declarations : Declarations G}
    (h : ¬ declarations.isEmpty = true) :
    layout.encode declarations = Table.ofList (layout.encodedEntries declarations) :=
  if_neg h

theorem mem_encodedEntries {layout : Layout} {declarations : Declarations G} {k v : String} :
    (k, v) ∈ layout.encodedEntries declarations ↔
      (k = layout.listKey ∧ v = Text.joined "," declarations.keys) ∨
        ∃ name guard, declarations.get? name = some guard ∧
          ∃ d < Guard.dimensions G, k = layout.key d name ∧
            v = Guard.encode (Guard.collapse guard) d ∧ v ≠ "" := by
  simp only [encodedEntries, List.mem_cons, Prod.mk.injEq, List.mem_flatMap, Prod.exists,
    mem_guardEntries, Table.get?_eq_some_iff]

/-- Only owned keys are stored. -/
theorem owns_of_get?_encode {layout : Layout} (hstems : Guard.dimensions G ≤ layout.stems.length)
    {declarations : Declarations G} (hnamed : declarations.Named) {k v : String}
    (h : (layout.encode declarations).get? k = some v) : layout.owns k = true := by
  by_cases hempty : declarations.isEmpty = true
  · rw [Table.isEmpty_iff.mp hempty, encode_empty, Table.get?_empty] at h
    cases h
  · rw [encode_of_not_isEmpty hempty] at h
    rcases mem_encodedEntries.mp (Table.mem_of_get?_ofList h) with
      ⟨rfl, -⟩ | ⟨name, guard, hget, d, hd, rfl, -, -⟩
    · exact layout.owns_listKey
    · exact owns_key (Nat.lt_of_lt_of_le hd hstems) (hnamed name guard hget).ne_empty

section

variable {layout : Layout} (fits : layout.Fits (Guard.dimensions G))

include fits

/-- The list is stored unless nothing is declared. -/
theorem get?_encode_listKey (declarations : Declarations G) :
    (layout.encode declarations).get? layout.listKey =
      if declarations.isEmpty then none else some (Text.joined "," declarations.keys) := by
  split
  · rename_i hempty
    rw [Table.isEmpty_iff.mp hempty, encode_empty, Table.get?_empty]
  · rename_i hempty
    rw [encode_of_not_isEmpty hempty]
    refine Table.get?_ofList_eq_some (mem_encodedEntries.mpr (.inl ⟨rfl, rfl⟩)) fun w hw => ?_
    rcases mem_encodedEntries.mp hw with ⟨-, hw⟩ | ⟨name, _, _, d, hd, hkey, -⟩
    · exact hw
    · exact absurd hkey.symm (fits.key_ne_listKey hd name)

/-- An entry under the key of a dimension of a name is about this dimension of this name. -/
theorem mem_encodedEntries_key {declarations : Declarations G} {d : Nat}
    (hd : d < Guard.dimensions G) {name v : String} :
    (layout.key d name, v) ∈ layout.encodedEntries declarations ↔
      ∃ guard, declarations.get? name = some guard ∧
        v = Guard.encode (Guard.collapse guard) d ∧ v ≠ "" := by
  rw [mem_encodedEntries]
  constructor
  · rintro (⟨hkey, -⟩ | ⟨other, guard, hget, e, he, hkey, hrest⟩)
    · exact absurd hkey (fits.key_ne_listKey hd name)
    · obtain ⟨rfl, rfl⟩ := fits.key_inj hd he hkey
      exact ⟨guard, hget, hrest⟩
  · rintro ⟨guard, hget, hv⟩
    exact .inr ⟨name, guard, hget, d, hd, rfl, hv⟩

/-- A dimension of a name is stored when the name is declared and its guard is not empty there. -/
theorem get?_encode_key (declarations : Declarations G) {d : Nat} (hd : d < Guard.dimensions G)
    (name : String) :
    (layout.encode declarations).get? (layout.key d name) =
      (declarations.get? name).bind fun guard =>
        if Guard.encode (Guard.collapse guard) d = "" then none
        else some (Guard.encode (Guard.collapse guard) d) := by
  by_cases hempty : declarations.isEmpty = true
  · rw [Table.isEmpty_iff.mp hempty, encode_empty]
    rfl
  · rw [encode_of_not_isEmpty hempty]
    have hentry : ∀ v, (layout.key d name, v) ∈ layout.encodedEntries declarations ↔
        ∃ guard, declarations.get? name = some guard ∧
          v = Guard.encode (Guard.collapse guard) d ∧ v ≠ "" :=
      fun v => mem_encodedEntries_key fits hd
    cases hget : declarations.get? name with
    | none =>
        refine Table.get?_ofList_eq_none fun v hv => ?_
        obtain ⟨guard, hguard, -⟩ := (hentry v).mp hv
        rw [hget] at hguard
        cases hguard
    | some guard =>
        simp only [hget, Option.some.injEq, exists_eq_left'] at hentry
        rw [Option.bind_some]
        split
        · rename_i hnone
          exact Table.get?_ofList_eq_none fun v hv =>
            ((hentry v).mp hv).2 (((hentry v).mp hv).1.trans hnone)
        · rename_i hsome
          exact Table.get?_ofList_eq_some ((hentry _).mpr ⟨rfl, hsome⟩)
            fun v hv => ((hentry v).mp hv).1

end

/-! ### What is read -/

/-- One dimension of a guard, read on top of what is read already. -/
def readDimension (layout : Layout) (properties : Properties) (name : String)
    (read : G × List UnknownCategory) (dimension : Nat) : G × List UnknownCategory :=
  match properties.get? (layout.key dimension name) with
  | none => read
  | some raw =>
    ((Guard.decode read.1 dimension raw).1, read.2 ++ (Guard.decode read.1 dimension raw).2)

theorem decodeGuard_eq (layout : Layout) (properties : Properties) (name : String) :
    layout.decodeGuard (G := G) properties name =
      let read := (List.range (Guard.dimensions G)).foldl (layout.readDimension properties name)
        (Guard.empty, [])
      (Guard.collapse read.1, read.2) := rfl

/-- Every stored name is a token. -/
theorem isToken_of_mem_storedNames {layout : Layout} {properties : Properties} {name : String}
    (h : name ∈ layout.storedNames properties) : Text.IsToken name := by
  unfold storedNames at h
  split at h
  · cases h
  · exact Text.isToken_of_mem_tokens h

/-- A name is declared by what is stored when it is in the stored list, with the guard stored for
it. -/
theorem get?_decode (layout : Layout) (properties : Properties) (name : String) :
    (layout.decode (G := G) properties).1.get? name =
      if name ∈ layout.storedNames properties then
        some (layout.decodeGuard (G := G) properties name).1
      else none := by
  have hentries : ∀ {k : String} {v : G},
      (k, v) ∈ ((layout.storedNames properties).map fun name =>
          (name, layout.decodeGuard (G := G) properties name)).map
        (fun read => (read.1, read.2.1)) ↔
      k ∈ layout.storedNames properties ∧ v = (layout.decodeGuard properties k).1 := by
    intro k v
    simp only [List.map_map, List.mem_map, Function.comp, Prod.mk.injEq]
    constructor
    · rintro ⟨name, hname, rfl, rfl⟩
      exact ⟨hname, rfl⟩
    · rintro ⟨hname, rfl⟩
      exact ⟨k, hname, rfl, rfl⟩
  split
  · rename_i hname
    exact Table.get?_ofList_eq_some (hentries.mpr ⟨hname, rfl⟩) fun w hw => (hentries.mp hw).2
  · rename_i hname
    exact Table.get?_ofList_eq_none fun w hw => hname (hentries.mp hw).1

theorem named_decode (layout : Layout) (properties : Properties) :
    (layout.decode (G := G) properties).1.Named := by
  intro name guard h
  rw [get?_decode] at h
  split at h
  · rename_i hname
    exact isToken_of_mem_storedNames hname
  · cases h

section

variable {layout : Layout} (hstems : Guard.dimensions G ≤ layout.stems.length)
  {p q : Properties} (h : ∀ k, layout.owns k = true → p.get? k = q.get? k)

include h

theorem storedNames_congr : layout.storedNames p = layout.storedNames q := by
  unfold storedNames
  rw [h _ layout.owns_listKey]

include hstems

theorem decodeGuard_congr {name : String} (hname : name ≠ "") :
    layout.decodeGuard (G := G) p name = layout.decodeGuard q name := by
  rw [decodeGuard_eq, decodeGuard_eq]
  have hread : (List.range (Guard.dimensions G)).foldl (layout.readDimension (G := G) p name)
      (Guard.empty, []) = (List.range (Guard.dimensions G)).foldl
        (layout.readDimension (G := G) q name) (Guard.empty, []) := by
    refine List.foldl_ext _ _ _ fun read d hd => ?_
    have howned := owns_key (Nat.lt_of_lt_of_le (List.mem_range.mp hd) hstems) hname
    rw [readDimension, readDimension, h _ howned]
  rw [hread]

/-- **What is read depends on owned keys only.** -/
theorem decode_congr : layout.decode (G := G) p = layout.decode q := by
  have hread : (layout.storedNames p).map (fun name => (name, layout.decodeGuard (G := G) p name)) =
      (layout.storedNames q).map fun name => (name, layout.decodeGuard q name) := by
    rw [storedNames_congr h]
    refine List.map_congr_left fun name hname => ?_
    rw [decodeGuard_congr hstems h (isToken_of_mem_storedNames hname).ne_empty]
  simp only [decode, hread]

end

/-! ### The round trip -/

open DimensionalGuard

section

variable [DimensionalGuard G]

/-- Each dimension that is read comes from its own property. -/
theorem selection_foldl_readDimension (layout : Layout) (properties : Properties) (name : String)
    (d : Fin (Guard.dimensions G)) {ds : List Nat} (hds : ∀ e ∈ ds, e < Guard.dimensions G)
    (read : G × List UnknownCategory) :
    selection (ds.foldl (layout.readDimension properties name) read).1 d =
      if d.val ∈ ds then
        (properties.get? (layout.key d name)).elim (selection read.1 d)
          fun raw => (Selection.ofProperty raw).1
      else selection read.1 d := by
  induction ds generalizing read with
  | nil => rfl
  | cons e es ih =>
      have he := hds e List.mem_cons_self
      rw [List.foldl_cons, ih (fun e' h => hds e' (List.mem_cons_of_mem _ h))]
      by_cases hed : d.val = e
      · -- the dimension itself: what is read does not depend on what was read before
        subst hed
        simp only [List.mem_cons_self, if_true, readDimension]
        cases properties.get? (layout.key d name) with
        | none => simp
        | some raw => simp [selection_decode_self]
      · have hother : selection (layout.readDimension properties name read e).1 d =
            selection read.1 d := by
          unfold readDimension
          split
          · rfl
          · rename_i raw _
            exact selection_decode_of_ne (d := ⟨e, he⟩) read.1 raw fun h =>
              hed (congrArg Fin.val h).symm
        simp only [hother, List.mem_cons, hed, false_or]

/-- Each dimension of the guard stored for a name is what its property selects, collapsed. -/
theorem selection_decodeGuard (layout : Layout) (properties : Properties) (name : String)
    (d : Fin (Guard.dimensions G)) :
    selection (layout.decodeGuard (G := G) properties name).1 d =
      ((properties.get? (layout.key d name)).elim Selection.empty
        fun raw => (Selection.ofProperty raw).1).collapse := by
  rw [decodeGuard_eq, selection_collapse,
    selection_foldl_readDimension layout properties name d fun e h => List.mem_range.mp h,
    if_pos (List.mem_range.mpr d.isLt), selection_empty]

theorem collapsed_decode (layout : Layout) (properties : Properties) :
    (layout.decode (G := G) properties).1.Collapsed := by
  intro name guard h
  rw [get?_decode] at h
  split at h
  · cases h
    exact collapse_collapse _
  · cases h

variable {layout : Layout} (fits : layout.Fits (Guard.dimensions G))
  {declarations : Declarations G} (hnamed : declarations.Named)

include fits

/-- A declared guard is read back collapsed. -/
theorem decodeGuard_encode {name : String} {guard : G} (h : declarations.get? name = some guard) :
    (layout.decodeGuard (G := G) (layout.encode declarations) name).1 = Guard.collapse guard := by
  refine ext_selection fun d => ?_
  rw [selection_decodeGuard, get?_encode_key fits declarations d.isLt, h, Option.bind_some,
    encode_eq, selection_collapse]
  split
  · rename_i hv
    rw [Selection.property_eq_empty_iff.mp hv, Option.elim_none, Selection.collapse_empty]
  · rw [Option.elim_some, Selection.ofProperty_property, Selection.collapse_collapse,
      Selection.collapse_collapse]

include hnamed

omit [DimensionalGuard G] in
/-- The names that are stored are the declared ones. -/
theorem storedNames_encode :
    layout.storedNames (layout.encode declarations) = declarations.keys := by
  rw [storedNames, get?_encode_listKey fits]
  split
  · rename_i h
    split at h
    · rename_i hempty
      rw [Table.isEmpty_iff.mp hempty]
      rfl
    · cases h
  · rename_i h
    split at h
    · cases h
    · cases h
      refine Text.tokens_joined fun name hname => ?_
      obtain ⟨guard, hget⟩ := Table.mem_keys_iff.mp hname
      exact hnamed name guard hget

theorem get?_decode_encode (name : String) :
    (layout.decode (G := G) (layout.encode declarations)).1.get? name =
      (declarations.get? name).map Guard.collapse := by
  rw [get?_decode, storedNames_encode fits hnamed]
  cases hget : declarations.get? name with
  | none =>
      refine if_neg fun hmem => ?_
      obtain ⟨guard, h⟩ := Table.mem_keys_iff.mp hmem
      rw [hget] at h
      cases h
  | some guard =>
      rw [if_pos (Table.mem_keys_iff.mpr ⟨guard, hget⟩), decodeGuard_encode fits hget]
      rfl

/-- **The round trip.**  Declarations under tokens, with collapsed guards, are read back. -/
theorem decode_encode (hcollapsed : declarations.Collapsed) :
    (layout.decode (G := G) (layout.encode declarations)).1 = declarations := by
  refine Table.ext_get? fun name => ?_
  rw [get?_decode_encode fits hnamed]
  cases hget : declarations.get? name with
  | none => rfl
  | some guard => rw [Option.map_some, hcollapsed name guard hget]

end

end Layout

end TrafficGate
