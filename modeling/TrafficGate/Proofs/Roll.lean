import Mathlib.Data.List.Perm.Subperm
import TrafficGate.Proofs.Declarations.Codec
import TrafficGate.Roll

/-!
# Roll — Changes

What a change of the roll does, said once.

* `nameFault?_eq_none_iff`: nothing is wrong with a name exactly when it is a token.
* `register_eq_ok_iff`: when a registration succeeds, and the roll it makes.
* `register_eq_invalidName_iff`, `register_eq_duplicateName_iff`: when it is refused, and why.
* `foldl_unregister`: unregistering every live component, one after the other, leaves the
  declarations.
* `Roll.Listed`: live components have different names and are declared, so that there are at most as
  many of them as are declared (`Roll.Listed.length_live_le`).
* `Roll.Sound`: what holds of every roll that is built by these changes, each of which keeps it.
-/

namespace TrafficGate

/-- **Names are tokens.**  The names that can be registered are the texts that a list with commas
can hold. -/
theorem nameFault?_eq_none_iff {name : String} : nameFault? name = none ↔ Text.IsToken name := by
  unfold nameFault?
  constructor
  · intro h
    split at h
    · cases h
    · rename_i hblank
      split at h
      · cases h
      · rename_i htrim
        split at h
        · cases h
        · rename_i hcomma
          have htrim : Text.trim name = name := Decidable.not_not.mp htrim
          exact ⟨fun e => hblank (htrim.trans e), htrim, by simpa using hcomma⟩
  · intro h
    rw [h.trim_eq, if_neg h.ne_empty, if_neg (not_not.mpr rfl),
      if_neg (by simpa using h.no_comma)]

namespace Declarations

variable {G : Type} [Guard G] {declarations : Declarations G}

omit [Guard G] in
theorem Named.insert (h : declarations.Named) {name : String} (hname : Text.IsToken name)
    (guard : G) : Declarations.Named (declarations.insert name guard) := by
  intro other guard' hget
  rw [Table.get?_insert] at hget
  split at hget
  · rename_i hother
    exact hother ▸ hname
  · exact h other guard' hget

omit [Guard G] in
theorem Named.erase (h : declarations.Named) (name : String) :
    Declarations.Named (declarations.erase name) := by
  intro other guard hget
  rw [Table.get?_erase] at hget
  split at hget
  · cases hget
  · exact h other guard hget

theorem Collapsed.insert (h : declarations.Collapsed) {guard : G}
    (hguard : Guard.collapse guard = guard) (name : String) :
    Declarations.Collapsed (declarations.insert name guard) := by
  intro other guard' hget
  rw [Table.get?_insert] at hget
  split at hget
  · cases hget
    exact hguard
  · exact h other guard' hget

theorem Collapsed.erase (h : declarations.Collapsed) (name : String) :
    Declarations.Collapsed (declarations.erase name) := by
  intro other guard hget
  rw [Table.get?_erase] at hget
  split at hget
  · cases hget
  · exact h other guard hget

end Declarations

namespace Roll

variable {G H : Type}

/-- A name is not live when no member has it. -/
theorem isLive_eq_false_iff {roll : Roll G H} {name : String} :
    roll.isLive name = false ↔ ∀ member ∈ roll.live, member.name ≠ name := by
  simp [isLive]

/-- A registration succeeds for a token that is not live. -/
theorem register_eq_ok_iff [Guard G] {roll after : Roll G H} {name : String} {handle : H}
    {guard : G} :
    roll.register name handle guard = .ok after ↔
      Text.IsToken name ∧ roll.isLive name = false ∧
        after = ⟨roll.declarations.insert name (Guard.collapse guard),
          roll.live ++ [⟨name, handle⟩]⟩ := by
  rw [register, ← nameFault?_eq_none_iff]
  cases nameFault? name with
  | some fault => simp
  | none =>
      cases roll.isLive name with
      | true => simp
      | false => simp [eq_comm]

theorem register_eq_invalidName_iff [Guard G] {roll : Roll G H} {name : String} {handle : H}
    {guard : G} {fault : NameFault} :
    roll.register name handle guard = .error (.invalidName fault) ↔ nameFault? name = some fault := by
  rw [register]
  cases nameFault? name with
  | some fault' => simp
  | none => cases roll.isLive name <;> simp

theorem register_eq_duplicateName_iff [Guard G] {roll : Roll G H} {name : String} {handle : H}
    {guard : G} {other : String} :
    roll.register name handle guard = .error (.duplicateName other) ↔
      Text.IsToken name ∧ roll.isLive name = true ∧ name = other := by
  rw [register, ← nameFault?_eq_none_iff]
  cases nameFault? name with
  | some fault => simp
  | none => cases roll.isLive name <;> simp

/-- Unregistering name after name leaves nothing live and every declaration as it was. -/
theorem foldl_unregister (declarations : Declarations G) (live : List (Member H)) :
    (live.map (·.name)).foldl (fun roll name => roll.unregister name false)
        (⟨declarations, live⟩ : Roll G H) = ⟨declarations, []⟩ := by
  induction live with
  | nil => rfl
  | cons member rest ih =>
      -- the first member is the one with its name
      have hstep : Roll.unregister (⟨declarations, member :: rest⟩ : Roll G H) member.name false =
          ⟨declarations, rest⟩ := by simp [Roll.unregister]
      rw [List.map_cons, List.foldl_cons, hstep, ih]

/-- When no two live components share a name, the ones that stay are those with other names. -/
theorem eraseP_name_eq_filter {live : List (Member H)} (h : (live.map (·.name)).Nodup)
    (name : String) :
    live.eraseP (·.name = name) = live.filter (·.name ≠ name) := by
  induction live with
  | nil => rfl
  | cons member rest ih =>
      obtain ⟨hmember, hrest⟩ := List.nodup_cons.mp h
      by_cases hname : member.name = name
      · rw [List.eraseP_cons_of_pos (by simpa using hname),
          List.filter_cons_of_neg (by simpa using hname)]
        refine (List.filter_eq_self.mpr fun other hother => ?_).symm
        have hne : other.name ≠ name := fun e =>
          hmember (List.mem_map.mpr ⟨other, hother, e.trans hname.symm⟩)
        simpa using hne
      · rw [List.eraseP_cons_of_neg (by simpa using hname),
          List.filter_cons_of_pos (by simpa using hname), ih hrest]

/-! ### Listed components -/

/-- No two live components share a name, and every live component is declared. -/
structure Listed (roll : Roll G H) : Prop where
  distinct : (roll.live.map (·.name)).Nodup
  declared : ∀ member ∈ roll.live, ∃ guard, roll.declarations.get? member.name = some guard

namespace Listed

variable {roll : Roll G H}

theorem of_declarations (declarations : Declarations G) :
    (⟨declarations, []⟩ : Roll G H).Listed :=
  ⟨List.nodup_nil, fun _ h => absurd h List.not_mem_nil⟩

theorem register [Guard G] {after : Roll G H} (h : roll.Listed) {name : String} {handle : H}
    {guard : G} (hok : roll.register name handle guard = .ok after) : after.Listed := by
  obtain ⟨-, hfresh, rfl⟩ := register_eq_ok_iff.mp hok
  refine ⟨?_, fun member hmember => ?_⟩
  · have hnew : name ∉ roll.live.map (·.name) := by
      intro hmem
      obtain ⟨member, hmember, heq⟩ := List.mem_map.mp hmem
      exact isLive_eq_false_iff.mp hfresh member hmember heq
    simpa [List.nodup_append] using ⟨h.distinct, by simpa using hnew⟩
  · simp only [Table.get?_insert]
    split
    · exact ⟨_, rfl⟩
    · rename_i hother
      rcases List.mem_append.mp hmember with hold | hnew
      · exact h.declared member hold
      · exact absurd (congrArg Member.name (List.mem_singleton.mp hnew)) hother

/-- A live component other than the one that goes stays, and so does its declaration. -/
theorem unregister (h : roll.Listed) (name : String) (forget : Bool) :
    (roll.unregister name forget).Listed := by
  have hlive : (roll.unregister name forget).live = roll.live.filter (·.name ≠ name) :=
    eraseP_name_eq_filter h.distinct name
  refine ⟨?_, fun member hmember => ?_⟩
  · rw [hlive]
    exact h.distinct.sublist (List.filter_sublist.map _)
  · rw [hlive] at hmember
    obtain ⟨hmember, hne⟩ := List.mem_filter.mp hmember
    obtain ⟨guard, hget⟩ := h.declared member hmember
    refine ⟨guard, ?_⟩
    cases forget with
    | false => exact hget
    | true => exact (Table.get?_erase _ _ _).trans ((if_neg (by simpa using hne)).trans hget)

/-- **At most as many components are live as are declared.** -/
theorem length_live_le (h : roll.Listed) : roll.live.length ≤ roll.declarations.size := by
  have hnames : roll.live.map (·.name) ⊆ roll.declarations.keys := by
    intro name hname
    obtain ⟨member, hmember, rfl⟩ := List.mem_map.mp hname
    exact Table.mem_keys_iff.mpr (h.declared member hmember)
  calc roll.live.length
      = (roll.live.map (·.name)).length := (List.length_map _).symm
    _ ≤ roll.declarations.keys.length := (h.distinct.subperm hnames).length_le
    _ = roll.declarations.size := List.length_map _

end Listed

/-! ### Sound rolls -/

/-- No two live components share a name, every live component is declared, and the declarations can
be stored and read back as they are. -/
structure Sound [Guard G] (roll : Roll G H) : Prop where
  distinct : (roll.live.map (·.name)).Nodup
  declared : ∀ member ∈ roll.live, ∃ guard, roll.declarations.get? member.name = some guard
  named : roll.declarations.Named
  collapsed : roll.declarations.Collapsed

namespace Sound

theorem listed [Guard G] {roll : Roll G H} (h : roll.Sound) : roll.Listed := ⟨h.distinct, h.declared⟩

theorem of_listed [Guard G] {roll : Roll G H} (h : roll.Listed) (named : roll.declarations.Named)
    (collapsed : roll.declarations.Collapsed) : roll.Sound :=
  ⟨h.distinct, h.declared, named, collapsed⟩

/-- A roll on which nothing is live is as sound as its declarations. -/
theorem of_declarations [Guard G] {declarations : Declarations G} (named : declarations.Named)
    (collapsed : declarations.Collapsed) : (⟨declarations, []⟩ : Roll G H).Sound :=
  of_listed (.of_declarations declarations) named collapsed

theorem register [Guard G] [DimensionalGuard G] {roll after : Roll G H} (h : roll.Sound)
    {name : String} {handle : H} {guard : G} (hok : roll.register name handle guard = .ok after) :
    after.Sound := by
  have hlisted := h.listed.register hok
  obtain ⟨hname, -, rfl⟩ := register_eq_ok_iff.mp hok
  exact of_listed hlisted (h.named.insert hname _)
    (h.collapsed.insert (DimensionalGuard.collapse_collapse guard) name)

theorem unregister [Guard G] {roll : Roll G H} (h : roll.Sound) (name : String) (forget : Bool) :
    (roll.unregister name forget).Sound := by
  refine of_listed (h.listed.unregister name forget) ?_ ?_
  · cases forget with
    | false => exact h.named
    | true => exact h.named.erase name
  · cases forget with
    | false => exact h.collapsed
    | true => exact h.collapsed.erase name

end Sound

end Roll

end TrafficGate
