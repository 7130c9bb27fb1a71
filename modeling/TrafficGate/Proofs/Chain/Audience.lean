import Mathlib.Data.List.Induction
import TrafficGate.Proofs.Chain

/-!
# Chain — An audience and its history

In an audience somebody may stand several times, and whoever leaves gives up the first of these places.

* `standing`: the additions that are left when the earliest ones of everybody are struck out, so many of
  each as there were removals.
* `standing_concat`, `count_standing`, `standing_of_removed`: one more addition stands, and one more
  removal takes away the first place that stands.
* `audience_follows_its_history`: **an audience is what its history leaves standing**, and a removal
  succeeds exactly when there were more additions than removals before.
-/

namespace TrafficGate

/-- What is asked of an audience. -/
inductive AudienceEdit (H : Type) where
  | add (item : H)
  | remove (item : H)

/-- What an audience answers. -/
inductive AudienceAnswer where
  | added
  | removed (found : Bool)
  deriving DecidableEq

namespace Audience

variable {H : Type}

/-! ### The history -/

/-- Who was added, if this was an addition. -/
def addition? : AudienceEdit H × AudienceAnswer → Option H
  | (.add item, _) => some item
  | (.remove _, _) => none

/-- Everybody who was added, in order, as often as it happened. -/
def additions (history : List (AudienceEdit H × AudienceAnswer)) : List H :=
  history.filterMap addition?

variable [DecidableEq H]

/-- The item was removed, with success. -/
def removes (item : H) : AudienceEdit H × AudienceAnswer → Bool
  | (.remove other, .removed true) => other = item
  | _ => false

/-- How often the item was removed with success. -/
def removals (history : List (AudienceEdit H × AudienceAnswer)) (item : H) : Nat :=
  history.countP (removes item)

omit [DecidableEq H] in
theorem additions_concat_add (history : List (AudienceEdit H × AudienceAnswer)) (item : H)
    (answer : AudienceAnswer) :
    additions (history ++ [(.add item, answer)]) = additions history ++ [item] :=
  List.filterMap_append

omit [DecidableEq H] in
theorem additions_concat_remove (history : List (AudienceEdit H × AudienceAnswer)) (item : H)
    (answer : AudienceAnswer) :
    additions (history ++ [(.remove item, answer)]) = additions history :=
  List.filterMap_append.trans (List.append_nil _)

theorem removals_concat (history : List (AudienceEdit H × AudienceAnswer))
    (served : AudienceEdit H × AudienceAnswer) (item : H) :
    removals (history ++ [served]) item =
      removals history item + if removes item served then 1 else 0 := by
  rw [removals, List.countP_append, List.countP_singleton]
  rfl

/-- Anything but a successful removal leaves the number of removals as it is. -/
theorem removals_concat_of_not_removes (history : List (AudienceEdit H × AudienceAnswer))
    {served : AudienceEdit H × AudienceAnswer} (h : ∀ item, removes item served = false) :
    removals (history ++ [served]) = removals history := by
  funext item
  rw [removals_concat, h, if_neg Bool.false_ne_true, Nat.add_zero]

/-! ### What stands -/

/-- The items in order without the earliest ones of each, of which so many are struck out as were
removed: an item stands if at least that many of its kind are in front of it. -/
def standing (removed : H → Nat) (added : List H) : List H :=
  (added.zipIdx.filter fun (item, place) => removed item ≤ (added.take place).count item).map (·.1)

theorem standing_concat (removed : H → Nat) (added : List H) (item : H) :
    standing removed (added ++ [item]) =
      standing removed added ++ if removed item ≤ added.count item then [item] else [] := by
  rw [standing, List.zipIdx_append, List.filter_append, List.map_append, List.zipIdx_singleton,
    Nat.zero_add]
  refine congrArg₂ (· ++ ·) (congrArg _ (List.filter_congr fun (other, place) hentry => ?_)) ?_
  · have hplace : place ≤ added.length := Nat.le_of_lt (List.snd_lt_of_mem_zipIdx hentry)
    simp only [List.take_append_of_le_length hplace]
  · have hlast : (added ++ [item]).take added.length = added := List.take_left
    by_cases h : removed item ≤ added.count item
    · simp [hlast, h]
    · simp [hlast, h]

theorem count_standing (removed : H → Nat) (added : List H) (item : H) :
    (standing removed added).count item = added.count item - removed item := by
  induction added using List.reverseRecOn with
  | nil => simp [standing]
  | append_singleton added last ih =>
      rw [standing_concat, List.count_append, List.count_append, ih]
      by_cases hlast : last = item
      · subst hlast
        split <;> simp <;> omega
      · split <;> simp [hlast]

theorem mem_standing_iff {removed : H → Nat} {added : List H} {item : H} :
    item ∈ standing removed added ↔ removed item < added.count item := by
  rw [← List.count_pos_iff, count_standing, Nat.sub_pos_iff_lt]

/-- One more removal strikes out the first place that stood. -/
theorem standing_of_removed {removed removed' : H → Nat} {item : H}
    (hitem : removed' item = removed item + 1)
    (hothers : ∀ other, other ≠ item → removed' other = removed other) (added : List H) :
    standing removed' added = (standing removed added).erase item := by
  induction added using List.reverseRecOn with
  | nil => rfl
  | append_singleton added last ih =>
      rw [standing_concat, standing_concat, List.erase_append, ih]
      by_cases hmem : item ∈ standing removed added
      · -- an earlier place goes, so the last one stands as it did
        have hstands : removed' last ≤ added.count last ↔ removed last ≤ added.count last := by
          by_cases hlast : last = item
          · have hbefore := mem_standing_iff.mp hmem
            rw [hlast, hitem]
            omega
          · rw [hothers last hlast]
        rw [if_pos hmem]
        exact congrArg _ (if_congr hstands rfl rfl)
      · have hbefore : added.count item ≤ removed item := Nat.not_lt.mp (mt mem_standing_iff.mpr hmem)
        rw [if_neg hmem, List.erase_of_not_mem hmem]
        refine congrArg _ ?_
        by_cases hlast : last = item
        · -- the last place is the only one that can stand, and it goes
          have hgone : ¬ removed' last ≤ added.count last := by
            rw [hlast, hitem]
            omega
          rw [if_neg hgone, hlast]
          split <;> simp
        · have hother : item ∉ [last] := fun h => hlast (List.mem_singleton.mp h).symm
          rw [hothers last hlast]
          split
          · exact (List.erase_of_not_mem hother).symm
          · rfl

/-! ### One request -/

/-- Removing takes away the first place of somebody who is there, and nothing else. -/
theorem remove_eq (members : List H) (item : H) :
    remove members item = (decide (item ∈ members), members.erase item) := by
  rw [remove, Chain.findIdx?_eq]
  by_cases hmem : item ∈ members
  · rw [if_pos hmem, decide_eq_true hmem]
    exact congrArg _ (List.eraseIdx_idxOf_eq_erase item members)
  · rw [if_neg hmem, decide_eq_false hmem, List.erase_of_not_mem hmem]

/-- Serves a request. -/
def serve (members : List H) : AudienceEdit H → AudienceAnswer × List H
  | .add item => (.added, add members item)
  | .remove item =>
    let (found, changed) := remove members item
    (.removed found, changed)

theorem serve_remove (members : List H) (item : H) :
    serve members (.remove item) = (.removed (decide (item ∈ members)), members.erase item) := by
  rw [serve, remove_eq]

/-- Whoever is not there cannot be removed, and the audience stays as it is. -/
theorem serve_remove_of_not_mem {members : List H} {item : H} (h : item ∉ members) :
    serve members (.remove item) = (.removed false, members) := by
  rw [serve_remove, decide_eq_false h, List.erase_of_not_mem h]

/-! ### Every course -/

/-- The members are what the history leaves standing, and nobody was removed more often than added. -/
structure Follows (history : List (AudienceEdit H × AudienceAnswer)) (members : List H) : Prop where
  members_eq : members = standing (removals history) (additions history)
  removals_le : ∀ item, removals history item ≤ (additions history).count item

theorem follows_nil : Follows [] ([] : List H) := ⟨rfl, fun _ => Nat.le_refl 0⟩

namespace Follows

variable {history : List (AudienceEdit H × AudienceAnswer)} {members : List H}

theorem mem_iff (h : Follows history members) (item : H) :
    item ∈ members ↔ removals history item < (additions history).count item := by
  rw [h.members_eq, mem_standing_iff]

theorem add (h : Follows history members) (item : H) :
    Follows (history ++ [(.add item, .added)]) (members ++ [item]) := by
  have hremovals : removals (history ++ [(.add item, .added)]) = removals history :=
    removals_concat_of_not_removes history fun _ => rfl
  refine ⟨?_, fun other => ?_⟩
  · rw [hremovals, additions_concat_add, standing_concat, if_pos (h.removals_le item),
      ← h.members_eq]
  · rw [hremovals, additions_concat_add, List.count_append]
    exact Nat.le_add_right_of_le (h.removals_le other)

theorem removeFound (h : Follows history members) {item : H} (hmem : item ∈ members) :
    Follows (history ++ [(.remove item, .removed true)]) (members.erase item) := by
  have hitem : removals (history ++ [(.remove item, .removed true)]) item =
      removals history item + 1 := by
    rw [removals_concat, removes, if_pos (decide_eq_true rfl)]
  have hothers : ∀ other, other ≠ item →
      removals (history ++ [(.remove item, .removed true)]) other = removals history other := by
    intro other hne
    rw [removals_concat, removes, if_neg (by simpa using hne.symm), Nat.add_zero]
  refine ⟨?_, fun other => ?_⟩
  · rw [additions_concat_remove, standing_of_removed hitem hothers, ← h.members_eq]
  · rw [additions_concat_remove]
    by_cases hother : other = item
    · -- there was an addition left to strike out
      rw [hother, hitem]
      exact (h.mem_iff item).mp hmem
    · rw [hothers other hother]
      exact h.removals_le other

theorem removeMissed (h : Follows history members) (item : H) :
    Follows (history ++ [(.remove item, .removed false)]) members := by
  have hremovals : removals (history ++ [(.remove item, .removed false)]) = removals history :=
    removals_concat_of_not_removes history fun _ => rfl
  refine ⟨?_, fun other => ?_⟩
  · rw [hremovals, additions_concat_remove, ← h.members_eq]
  · rw [hremovals, additions_concat_remove]
    exact h.removals_le other

/-- An audience that follows its history does so after any request. -/
theorem serve (h : Follows history members) (edit : AudienceEdit H) :
    Follows (history ++ [(edit, (serve members edit).1)]) (serve members edit).2 := by
  cases edit with
  | add item => exact h.add item
  | remove item =>
      by_cases hmem : item ∈ members
      · rw [serve_remove, decide_eq_true hmem]
        exact h.removeFound hmem
      · rw [serve_remove_of_not_mem hmem]
        exact h.removeMissed item

end Follows

theorem follows_final (edits : List (AudienceEdit H)) :
    Follows (Course.history serve [] edits) (Course.final serve ([] : List H) edits) :=
  Course.final_of_history Follows (fun _ _ edit h => h.serve edit) follows_nil edits

/-- **An audience follows its history.**  After any requests to a new audience,

* its members are everybody who was added, in order, but for the earliest additions of each listener, of
  which so many are struck out as there were successful removals of this listener;
* a listener is removed with success exactly when there were more additions of it than successful
  removals before;
* a removal that does not succeed changes nothing. -/
theorem audience_follows_its_history (edits : List (AudienceEdit H)) :
    let members := Course.final serve [] edits
    let history := Course.history serve [] edits
    members = standing (removals history) (additions history) ∧
    (∀ item, (serve members (.remove item)).1 =
      .removed (decide (removals history item < (additions history).count item))) ∧
    ∀ item, (serve members (.remove item)).1 = .removed false →
      (serve members (.remove item)).2 = members := by
  intro members history
  have hfollows : Follows history members := follows_final edits
  refine ⟨hfollows.members_eq, fun item => ?_, fun item hmissed => ?_⟩
  · rw [serve_remove]
    exact congrArg _ (decide_eq_decide.mpr (hfollows.mem_iff item))
  · have hmem : item ∉ members := by
      rw [serve_remove] at hmissed
      exact of_decide_eq_false (AudienceAnswer.removed.inj hmissed)
    rw [serve_remove_of_not_mem hmem]

/-- Listeners who come several times and go between: one of them stands behind its own first place, one
has gone as often as it came, and one is not found when it leaves too early. -/
theorem audience_of_returning_listeners :
    let edits : List (AudienceEdit Nat) :=
      [.remove 3, .add 1, .add 2, .add 1, .remove 1, .add 3, .remove 2, .remove 2, .add 1]
    let members := Course.final serve [] edits
    members = [1, 3, 1] ∧
      (serve members (.remove 2)).1 = .removed false ∧ (serve members (.remove 2)).2 = members := by
  intro edits members
  obtain ⟨hmembers, hremoved, hmissed⟩ := audience_follows_its_history edits
  have hgone : (serve members (.remove 2)).1 = .removed false :=
    (hremoved 2).trans (by decide +kernel)
  exact ⟨hmembers.trans (by decide +kernel), hgone, hmissed 2 hgone⟩

end Audience

end TrafficGate
