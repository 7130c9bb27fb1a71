import TrafficGate.Declarations

/-!
# Declarations — Keys

The keys under which a layout stores declarations.  A layout fits guards with a number of dimensions
when it has a stem for each of them and none of its keys can stand for two things (`Layout.Fits`).

* `Fits.key_inj`, `Fits.key_ne_listKey`: a key tells its dimension and its name, and is not the key
  of the list.
* `owns_listKey`, `owns_key`: a layout owns the keys that it makes of names that are not empty.
* `Apart.not_owns`: layouts whose keys start with different texts have no key in common, whatever
  names stand in the keys.
-/

namespace TrafficGate.Layout

/-- What the keys of a dimension start with: its stem and a dot. -/
def front (layout : Layout) (dimension : Nat) : List Char :=
  (layout.stems.getD dimension "").toList ++ ['.']

theorem toList_key (layout : Layout) (dimension : Nat) (name : String) :
    (layout.key dimension name).toList = layout.front dimension ++ name.toList := by
  simp only [key, front, String.toList_append]
  rfl

/-- The layout has a stem for each dimension, and neither the keys of another dimension nor the key
of the list start with what the keys of a dimension start with. -/
structure Fits (layout : Layout) (dimensions : Nat) : Prop where
  length_stems : layout.stems.length = dimensions
  fronts_apart : ∀ d < dimensions, ∀ e < dimensions, layout.front d <+: layout.front e → d = e
  list_apart : ∀ d < dimensions, ¬ layout.front d <+: layout.listKey.toList

theorem fits_packets : packets.Fits 2 := ⟨rfl, by decide, by decide⟩

theorem fits_rooms : rooms.Fits 1 := ⟨rfl, by decide, by decide⟩

section

variable {layout : Layout} {dimensions : Nat} (fits : layout.Fits dimensions)

include fits

/-- A key tells its dimension and its name. -/
theorem Fits.key_inj {d e : Nat} (hd : d < dimensions) (he : e < dimensions) {name other : String}
    (h : layout.key d name = layout.key e other) : d = e ∧ name = other := by
  have hchars : layout.front d ++ name.toList = layout.front e ++ other.toList := by
    rw [← toList_key, ← toList_key, h]
  have hde : d = e := by
    have hd' : layout.front d <+: layout.front e ++ other.toList := hchars ▸ List.prefix_append _ _
    have he' : layout.front e <+: layout.front e ++ other.toList := List.prefix_append _ _
    rcases List.prefix_or_prefix_of_prefix hd' he' with h | h
    · exact fits.fronts_apart d hd e he h
    · exact (fits.fronts_apart e he d hd h).symm
  subst hde
  exact ⟨rfl, String.toList_inj.mp (List.append_cancel_left hchars)⟩

theorem Fits.key_ne_listKey {d : Nat} (hd : d < dimensions) (name : String) :
    layout.key d name ≠ layout.listKey := fun h =>
  fits.list_apart d hd (by rw [← h, toList_key]; exact List.prefix_append _ _)

end

/-! ### Owned keys -/

theorem owns_listKey (layout : Layout) : layout.owns layout.listKey = true := by simp [owns]

theorem afterStem_append (stem rest : String) : Text.afterStem stem (stem ++ rest) = some rest := by
  have hfront : stem.toList.isPrefixOf (stem ++ rest).toList = true := by
    rw [String.toList_append]
    exact List.isPrefixOf_iff_prefix.mpr (List.prefix_append _ _)
  rw [Text.afterStem, if_pos hfront, String.toList_append, ← String.length_toList, List.drop_left,
    String.ofList_toList]

theorem isDottedName_append {name : String} (h : name ≠ "") :
    isDottedName ("." ++ name) = true := by
  have hdot : ("." ++ name).toList = '.' :: name.toList := by simp
  rw [isDottedName, hdot]
  cases hname : name.toList with
  | nil => exact absurd (String.toList_inj.mp (hname.trans String.toList_empty.symm)) h
  | cons c cs => rfl

theorem owns_key {layout : Layout} {d : Nat} (hd : d < layout.stems.length) {name : String}
    (h : name ≠ "") : layout.owns (layout.key d name) = true := by
  have hmem : layout.stems.getD d "" ∈ layout.stems := by
    rw [List.getD_eq_getElem?_getD, List.getElem?_eq_getElem hd, Option.getD_some]
    exact List.getElem_mem hd
  simp only [owns, Bool.or_eq_true, List.any_eq_true]
  refine .inr ⟨_, hmem, ?_⟩
  rw [key, String.append_assoc, afterStem_append, Option.any_some]
  exact isDottedName_append h

/-! ### Keys of two layouts -/

/-- What the keys of a layout start with: the key of the list, or a stem. -/
def starts (layout : Layout) : List String := layout.listKey :: layout.stems

theorem exists_start_of_owns {layout : Layout} {key : String} (h : layout.owns key = true) :
    ∃ start ∈ layout.starts, start.toList <+: key.toList := by
  simp only [owns, Bool.or_eq_true, decide_eq_true_eq, List.any_eq_true] at h
  rcases h with rfl | ⟨stem, hstem, hafter⟩
  · exact ⟨_, List.mem_cons_self, List.prefix_refl _⟩
  · refine ⟨stem, List.mem_cons_of_mem _ hstem, ?_⟩
    -- something follows the stem, so the key starts with it
    unfold Text.afterStem at hafter
    split at hafter
    · rename_i hfront
      exact List.isPrefixOf_iff_prefix.mp hfront
    · cases hafter

/-- Nothing that the keys of one layout start with is the front of such a text of the other. -/
def Apart (layout other : Layout) : Prop :=
  ∀ start ∈ layout.starts, ∀ start' ∈ other.starts,
    ¬ start.toList <+: start'.toList ∧ ¬ start'.toList <+: start.toList

theorem Apart.symm {layout other : Layout} (h : layout.Apart other) : other.Apart layout :=
  fun start hstart start' hstart' => (h start' hstart' start hstart).symm

theorem apart_packets_rooms : packets.Apart rooms := by unfold Apart; decide

/-- No key belongs to both layouts. -/
theorem Apart.not_owns {layout other : Layout} (apart : layout.Apart other) {key : String}
    (h : layout.owns key = true) : other.owns key = false := by
  refine Bool.eq_false_iff.mpr fun hother => ?_
  obtain ⟨start, hstart, hfront⟩ := exists_start_of_owns h
  obtain ⟨start', hstart', hfront'⟩ := exists_start_of_owns hother
  obtain ⟨hshort, hlong⟩ := apart start hstart start' hstart'
  rcases List.prefix_or_prefix_of_prefix hfront hfront' with h | h
  · exact hshort h
  · exact hlong h

end TrafficGate.Layout
