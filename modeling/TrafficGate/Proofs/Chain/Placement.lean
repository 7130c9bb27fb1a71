import Mathlib.Data.Nat.PSub
import TrafficGate.Proofs.Chain

/-!
# Chain — Where an inserted item stands

What inserting does to any list of members, also to one in which members stand several times.

* `insertInSteps?`: insertion in its single steps, where a step that looks for a place outside the
  members fails.
* `insertInSteps?_eq`: no step ever fails.
* `inserted_between_front_and_back`: **the item stands between the members before its index and those
  behind it**, and its first place among them is given up.
-/

namespace TrafficGate.Chain

variable {H : Type} [DecidableEq H]

/-! ### The single steps -/

omit [DecidableEq H] in
/-- The members without the one at a place.  Somebody has to stand there. -/
def takeOut? (members : List H) (place : Nat) : Option (List H) :=
  if place < members.length then some (members.eraseIdx place) else none

omit [DecidableEq H] in
/-- The members with one more at a place, which may be the end but not behind it. -/
def putIn? (members : List H) (place : Nat) (item : H) : Option (List H) :=
  if place ≤ members.length then some (members.insertIdx place item) else none

/-- The place for which an index stands once the member at `old` is taken out: one place down, which has
to be there, if that member stood before. -/
def shifted? (old index : Nat) : Option Nat := if old < index then index.ppred else some index

/-- Insertion in its single steps.  Going down by one place, taking a member out and putting one in
can each fail. -/
def insertInSteps? (members : List H) (index : Nat) (item : H) :
    Option (Except ChainError (List H)) :=
  if members.length < index then some (.error ⟨index, members.length⟩)
  else
    match members.findIdx? (· = item) with
    | none => (putIn? members index item).map .ok
    | some old => do
      let place ← shifted? old index
      let others ← takeOut? members old
      (putIn? others place item).map .ok

/-- **No step fails**: whatever is inserted where, the single steps come to what inserting comes to. -/
theorem insertInSteps?_eq (members : List H) (index : Nat) (item : H) :
    insertInSteps? members index item = some (insert? members index item) := by
  rw [insertInSteps?, insert?]
  by_cases hindex : members.length < index
  · rw [if_pos hindex, if_pos hindex]
  rw [if_neg hindex, if_neg hindex]
  cases hold : members.findIdx? (· = item) with
  | none => simp only [putIn?, if_pos (Nat.not_lt.mp hindex), Option.map_some]
  | some old =>
      have hfound : old < members.length := by
        obtain ⟨h, -⟩ := List.findIdx?_eq_some_iff_getElem.mp hold
        exact h
      have hothers : (members.eraseIdx old).length = members.length - 1 :=
        List.length_eraseIdx_of_lt hfound
      have hshifted : shifted? old index = some (if old < index then index - 1 else index) := by
        rw [shifted?]
        split
        · rename_i hbefore
          exact Nat.ppred_eq_some.mpr (Nat.succ_pred_eq_of_pos (Nat.zero_lt_of_lt hbefore))
        · rfl
      -- one member fewer, but the place is lower by one or was not the end
      have hplace : (if old < index then index - 1 else index) ≤ (members.eraseIdx old).length := by
        rw [hothers]
        split <;> omega
      simp only [hshifted, Option.bind_eq_bind, Option.bind_some, takeOut?, if_pos hfound, putIn?,
        if_pos hplace, Option.map_some]

/-! ### The place -/

/-- Inserting is refused exactly behind the end. -/
theorem insert?_eq_error_iff {members : List H} {index : Nat} {item : H} {e : ChainError} :
    insert? members index item = .error e ↔ members.length < index ∧ e = ⟨index, members.length⟩ := by
  by_cases h : members.length < index
  · simp [insert?, h, eq_comm]
  · simp [insert?_eq_ok (Nat.not_lt.mp h), h]

/-- Removing an item that was put in anew gives back what was there. -/
theorem remove?_of_insert?_eq_ok {members placed : List H} {index : Nat} {item : H}
    (hnew : item ∉ members) (h : insert? members index item = .ok placed) :
    remove? placed item = some members := by
  by_cases hindex : members.length < index
  · rw [insert?_eq_error_iff.mpr ⟨hindex, rfl⟩] at h
    cases h
  · have hfront : item ∉ members.take index := fun hmem => hnew (List.mem_of_mem_take hmem)
    have hback : item ∉ members.drop index := fun hmem => hnew (List.mem_of_mem_drop hmem)
    rw [insert?_eq_ok (Nat.not_lt.mp hindex), if_neg hfront, List.erase_of_not_mem hback] at h
    obtain rfl := Except.ok.inj h
    have hmem : item ∈ members.take index ++ item :: members.drop index :=
      List.mem_append_right _ List.mem_cons_self
    rw [remove?_eq, if_pos hmem, List.erase_append_right _ hfront, List.erase_cons_head,
      List.take_append_drop]

/-- **Where an inserted item stands.**  Let members be listed in any way, several times as they may.

* Inserting fails exactly when the index is more than the length, and the error tells both.
* Otherwise the item comes to stand between the members before the index and the members from the index
  on.  If it stood before the index its first place there is given up; if not, its first place from the
  index on.
* Going down by one place, taking the item out of its old place and putting it in are always possible.
* If the item was not there, removing it from the result gives back the members. -/
theorem inserted_between_front_and_back (members : List H) (index : Nat) (item : H) :
    (∀ e, insert? members index item = .error e ↔
      members.length < index ∧ e = ⟨index, members.length⟩) ∧
    (index ≤ members.length → insert? members index item = .ok
      (if item ∈ members.take index then
        (members.take index).erase item ++ [item] ++ members.drop index
      else members.take index ++ [item] ++ (members.drop index).erase item)) ∧
    insertInSteps? members index item = some (insert? members index item) ∧
    (item ∉ members → ∀ placed, insert? members index item = .ok placed →
      remove? placed item = some members) := by
  refine ⟨fun e => insert?_eq_error_iff, fun h => ?_, insertInSteps?_eq members index item,
    fun hnew placed => remove?_of_insert?_eq_ok hnew⟩
  rw [insert?_eq_ok h]
  simp only [List.append_assoc, List.singleton_append]

/-- Members of which one stands three times: it is moved from before its index, at its index and from
behind it; somebody new comes and goes; and there is no place behind the end. -/
theorem inserted_among_repeated_members :
    let members := [1, 2, 1, 3, 1]
    insert? members 3 1 = .ok [2, 1, 1, 3, 1] ∧ insert? members 0 1 = .ok [1, 2, 1, 3, 1] ∧
      insert? members 1 3 = .ok [1, 3, 2, 1, 1] ∧
      (4 ∉ members ∧ insert? members 5 4 = .ok [1, 2, 1, 3, 1, 4] ∧
        remove? [1, 2, 1, 3, 1, 4] 4 = some members) ∧
      insert? members 6 1 = .error ⟨6, 5⟩ := by
  intro members
  have hlast : insert? members 5 4 = .ok [1, 2, 1, 3, 1, 4] :=
    (inserted_between_front_and_back members 5 4).2.1 (by decide)
  exact ⟨(inserted_between_front_and_back members 3 1).2.1 (by decide),
    (inserted_between_front_and_back members 0 1).2.1 (by decide),
    (inserted_between_front_and_back members 1 3).2.1 (by decide),
    ⟨by decide, hlast,
      (inserted_between_front_and_back members 5 4).2.2.2 (by decide) _ hlast⟩,
    ((inserted_between_front_and_back members 6 1).1 _).mpr ⟨by decide, rfl⟩⟩

end TrafficGate.Chain
