import Mathlib.Data.List.Nodup
import Mathlib.Data.List.TakeDrop
import TrafficGate.Chain
import TrafficGate.Proofs.Course

/-!
# Chain — Members and their order

What can be asked of a chain, and what a chain is like after any course of such requests.

Appending takes away every place of the item, inserting and removing only the first one.  On a chain
in which no member stands twice this is the same, and each change leaves the members other than its
item as they stand.

* `insert?_eq_ok`: where an inserted item comes to stand, whatever the chain.
* `serve_cases`: what a change does to a chain in which no member stands twice.
* `chain_follows_its_history`: **no member ever stands twice**, and the members are the items whose
  latest placement is not followed by a removal.
-/

namespace TrafficGate

/-- What is asked of a chain. -/
inductive ChainEdit (H : Type) where
  | push (item : H)
  | insert (index : Nat) (item : H)
  | remove (item : H)

/-- What a chain answers. -/
inductive ChainAnswer where
  | placed
  | refused (error : ChainError)
  | removed (found : Bool)
  deriving DecidableEq

namespace ChainEdit

variable {H : Type}

/-- The item that is to be placed or removed. -/
def item : ChainEdit H → H
  | .push item | .insert _ item | .remove item => item

/-- The item was pushed or inserted, with success. -/
def Places (item : H) : ChainEdit H × ChainAnswer → Prop
  | (.push other, .placed) | (.insert _ other, .placed) => other = item
  | _ => False

/-- The item was to be removed. -/
def Removes (item : H) : ChainEdit H × ChainAnswer → Prop
  | (.remove other, _) => other = item
  | _ => False

/-- The latest success in placing the item is not followed by a removal. -/
def Stands (item : H) (history : List (ChainEdit H × ChainAnswer)) : Prop :=
  ∃ before placed after, history = before ++ placed :: after ∧ Places item placed ∧
    ∀ served ∈ after, ¬ Places item served ∧ ¬ Removes item served

/-- One more request: it places the item, or the item stood before and is not removed. -/
theorem stands_concat {item : H} {history : List (ChainEdit H × ChainAnswer)}
    {served : ChainEdit H × ChainAnswer} :
    Stands item (history ++ [served]) ↔
      Places item served ∨ (Stands item history ∧ ¬ Removes item served) := by
  constructor
  · rintro ⟨before, placed, after, hhistory, hplaced, hafter⟩
    rcases List.eq_nil_or_concat' after with rfl | ⟨rest, last, rfl⟩
    · obtain ⟨-, rfl⟩ := List.append_singleton_inj.mp hhistory
      exact .inl hplaced
    · rw [← List.cons_append, ← List.append_assoc] at hhistory
      obtain ⟨rfl, rfl⟩ := List.append_singleton_inj.mp hhistory
      exact .inr ⟨⟨before, placed, rest, rfl, hplaced, fun other hother =>
        hafter other (List.mem_append_left _ hother)⟩, (hafter served (by simp)).2⟩
  · intro h
    by_cases hplaces : Places item served
    · exact ⟨history, served, [], rfl, hplaces, fun _ hmem => absurd hmem List.not_mem_nil⟩
    · obtain ⟨⟨before, placed, after, rfl, hplaced, hafter⟩, hkept⟩ := h.resolve_left hplaces
      refine ⟨before, placed, after ++ [served], by simp, hplaced, fun other hother => ?_⟩
      rcases List.mem_append.mp hother with hother | hother
      · exact hafter other hother
      · obtain rfl := List.mem_singleton.mp hother
        exact ⟨hplaces, hkept⟩

end ChainEdit

namespace Chain

variable {H : Type} [DecidableEq H]

/-! ### Each change, without indices -/

theorem findIdx?_eq (members : List H) (item : H) :
    members.findIdx? (· = item) = if item ∈ members then some (members.idxOf item) else none := by
  split
  · rename_i hmem
    exact List.findIdx?_eq_some_iff_findIdx_eq.mpr ⟨List.idxOf_lt_length_iff.mpr hmem, rfl⟩
  · rename_i hmem
    refine List.findIdx?_eq_none_iff.mpr fun other hother => decide_eq_false fun e => hmem ?_
    exact e ▸ hother

/-- Removing takes away the first place of a member, and fails for anything else. -/
theorem remove?_eq (members : List H) (item : H) :
    remove? members item = if item ∈ members then some (members.erase item) else none := by
  rw [remove?, findIdx?_eq]
  split
  · rw [Option.map_some, List.eraseIdx_idxOf_eq_erase]
  · rfl

omit [DecidableEq H] in
theorem insertIdx_append {front back : List H} {index : Nat} (h : front.length = index) (item : H) :
    (front ++ back).insertIdx index item = front ++ item :: back := by
  subst h
  induction front with
  | nil => rfl
  | cons first rest ih =>
      rw [List.cons_append, List.length_cons, List.insertIdx_succ_cons, ih, List.cons_append]

/-- **Where an inserted item stands.**  It stands between the members before its index and those
behind it, and the first place that it had leaves the part in which it was. -/
theorem insert?_eq_ok {members : List H} {index : Nat} (h : index ≤ members.length) (item : H) :
    insert? members index item = .ok
      (if item ∈ members.take index then
        (members.take index).erase item ++ item :: members.drop index
      else members.take index ++ item :: (members.drop index).erase item) := by
  have hlength : (members.take index).length = index := List.length_take_of_le h
  have hsplit : members.erase item =
      if item ∈ members.take index then (members.take index).erase item ++ members.drop index
      else members.take index ++ (members.drop index).erase item := by
    rw [← List.erase_append, List.take_append_drop]
  rw [insert?, if_neg (Nat.not_lt.mpr h), findIdx?_eq]
  by_cases hmem : item ∈ members
  · simp only [if_pos hmem, List.eraseIdx_idxOf_eq_erase, ← List.mem_take_iff_idxOf_lt hmem, hsplit]
    split
    · rename_i hfront
      -- the part in front has become shorter by one
      rw [insertIdx_append]
      rw [List.length_erase_of_mem hfront, hlength]
    · rw [insertIdx_append hlength]
  · have hfront : item ∉ members.take index := fun hfront => hmem (List.mem_of_mem_take hfront)
    have hback : item ∉ members.drop index := fun hback => hmem (List.mem_of_mem_drop hback)
    rw [if_neg hmem, if_neg hfront, List.erase_of_not_mem hback, ← insertIdx_append hlength,
      List.take_append_drop]

theorem insert?_ne_nil {members changed : List H} {index : Nat} {item : H}
    (h : insert? members index item = .ok changed) : changed ≠ [] := by
  by_cases hindex : members.length < index
  · rw [insert?, if_pos hindex] at h
    cases h
  · rw [insert?_eq_ok (Nat.not_lt.mp hindex)] at h
    obtain rfl := Except.ok.inj h
    split <;> simp

/-- Leaving out an item that is not there leaves everything. -/
theorem filter_ne_eq_self {members : List H} {item : H} (h : item ∉ members) :
    members.filter (· ≠ item) = members :=
  List.filter_eq_self.mpr fun _ hother => decide_eq_true fun e => h (e ▸ hother)

theorem filter_ne_filter_ne (members : List H) (item : H) :
    (members.filter (· ≠ item)).filter (· ≠ item) = members.filter (· ≠ item) := by
  rw [List.filter_filter]
  simp only [Bool.and_self]

theorem erase_eq_filter {members : List H} (h : members.Nodup) (item : H) :
    members.erase item = members.filter (· ≠ item) :=
  (h.erase_eq_filter item).trans (List.filter_congr fun _ _ => decide_not.symm)

/-- A chain in which no member stands twice: an item that is inserted leaves its old place. -/
theorem insert?_eq_ok_of_nodup {members : List H} (hmembers : members.Nodup) {index : Nat}
    (h : index ≤ members.length) (item : H) :
    insert? members index item = .ok
      ((members.take index).filter (· ≠ item) ++ item :: (members.drop index).filter (· ≠ item)) := by
  have hparts : (members.take index ++ members.drop index).Nodup := by
    rwa [List.take_append_drop]
  obtain ⟨hfront, hback, hdisjoint⟩ := List.nodup_append'.mp hparts
  rw [insert?_eq_ok h, erase_eq_filter hfront, erase_eq_filter hback]
  split
  · rename_i hmem
    rw [filter_ne_eq_self (hdisjoint hmem)]
  · rename_i hmem
    rw [filter_ne_eq_self hmem]

/-! ### One request -/

open ChainEdit

/-- Serves a request. -/
def serve (members : List H) : ChainEdit H → ChainAnswer × List H
  | .push item => (.placed, append members item)
  | .insert index item =>
    match insert? members index item with
    | .error e => (.refused e, members)
    | .ok changed => (.placed, changed)
  | .remove item =>
    match remove? members item with
    | none => (.removed false, members)
    | some changed => (.removed true, changed)

section

variable {members : List H}

theorem serve_insert_of_lt {index : Nat} (h : members.length < index) (item : H) :
    serve members (.insert index item) = (.refused ⟨index, members.length⟩, members) := by
  rw [serve, insert?, if_pos h]

theorem serve_insert_of_le (hmembers : members.Nodup) {index : Nat} (h : index ≤ members.length)
    (item : H) :
    serve members (.insert index item) =
      (.placed, (members.take index).filter (· ≠ item) ++
        item :: (members.drop index).filter (· ≠ item)) := by
  rw [serve, insert?_eq_ok_of_nodup hmembers h]

theorem serve_remove (hmembers : members.Nodup) (item : H) :
    serve members (.remove item) =
      (.removed (decide (item ∈ members)), members.filter (· ≠ item)) := by
  rw [serve, remove?_eq]
  by_cases hmem : item ∈ members
  · rw [if_pos hmem, erase_eq_filter hmembers, decide_eq_true hmem]
  · rw [if_neg hmem, filter_ne_eq_self hmem, decide_eq_false hmem]

/-- **What a request does.**  It places its item among the other members, or it asks for a place
behind the end and changes nothing, or it leaves its item out. -/
theorem serve_cases (hmembers : members.Nodup) (edit : ChainEdit H) :
    (∃ front back, serve members edit = (.placed, front ++ edit.item :: back) ∧
      front ++ back = members.filter (· ≠ edit.item) ∧
      ∀ item, (Places item (edit, .placed) ↔ edit.item = item) ∧ ¬ Removes item (edit, .placed)) ∨
    (∃ index item, edit = .insert index item ∧ members.length < index ∧
      serve members edit = (.refused ⟨index, members.length⟩, members)) ∨
    (∃ item, edit = .remove item ∧
      serve members edit = (.removed (decide (item ∈ members)), members.filter (· ≠ item))) := by
  cases edit with
  | push item =>
      exact .inl ⟨members.filter (· ≠ item), [], rfl, List.append_nil _, fun _ => ⟨Iff.rfl, id⟩⟩
  | insert index item =>
      by_cases h : members.length < index
      · exact .inr (.inl ⟨index, item, rfl, h, serve_insert_of_lt h item⟩)
      · refine .inl ⟨_, _, serve_insert_of_le hmembers (Nat.not_lt.mp h) item, ?_,
          fun _ => ⟨Iff.rfl, id⟩⟩
        rw [← List.filter_append, List.take_append_drop]
        rfl
  | remove item => exact .inr (.inr ⟨item, rfl, serve_remove hmembers item⟩)

/-- A request leaves the other members as they stand. -/
theorem filter_serve (hmembers : members.Nodup) (edit : ChainEdit H) :
    (serve members edit).2.filter (· ≠ edit.item) = members.filter (· ≠ edit.item) := by
  rcases serve_cases hmembers edit with
    ⟨front, back, hserve, hothers, -⟩ | ⟨index, item, rfl, -, hserve⟩ | ⟨item, rfl, hserve⟩
  · rw [hserve, List.filter_append, List.filter_cons_of_neg (by simp), ← List.filter_append, hothers,
      filter_ne_filter_ne]
  · rw [hserve]
  · rw [hserve]
    exact filter_ne_filter_ne members item

theorem nodup_serve (hmembers : members.Nodup) (edit : ChainEdit H) :
    (serve members edit).2.Nodup := by
  rcases serve_cases hmembers edit with
    ⟨front, back, hserve, hothers, -⟩ | ⟨index, item, rfl, -, hserve⟩ | ⟨item, rfl, hserve⟩
  · rw [hserve, List.nodup_middle, List.nodup_cons, hothers]
    exact ⟨by simp, hmembers.filter _⟩
  · rw [hserve]
    exact hmembers
  · rw [hserve]
    exact hmembers.filter _

/-- The members after a request are those that it places, and those before it that it does not
remove. -/
theorem mem_serve_iff (hmembers : members.Nodup) (edit : ChainEdit H) (item : H) :
    item ∈ (serve members edit).2 ↔
      Places item (edit, (serve members edit).1) ∨
        (item ∈ members ∧ ¬ Removes item (edit, (serve members edit).1)) := by
  rcases serve_cases hmembers edit with
    ⟨front, back, hserve, hothers, hplaces⟩ | ⟨index, other, rfl, -, hserve⟩ | ⟨other, rfl, hserve⟩
  · have hmem : item ∈ front ++ back ↔ item ∈ members ∧ item ≠ edit.item := by
      rw [hothers, List.mem_filter, decide_eq_true_iff]
    rw [hserve, List.mem_append, List.mem_cons, or_left_comm, ← List.mem_append, hmem,
      (hplaces item).1, and_iff_left (hplaces item).2, eq_comm]
    by_cases h : edit.item = item
    · simp [h]
    · simp [h, Ne.symm h]
  · rw [hserve]
    simp [Places, Removes]
  · rw [hserve, List.mem_filter, decide_eq_true_iff, ne_comm]
    simp [Places, Removes]

end

/-! ### Every course -/

/-- No member stands twice, and the members are the items that stand by the history. -/
def Follows (history : List (ChainEdit H × ChainAnswer)) (members : List H) : Prop :=
  members.Nodup ∧ ∀ item, item ∈ members ↔ Stands item history

omit [DecidableEq H] in
theorem follows_nil : Follows [] ([] : List H) := by
  refine ⟨List.nodup_nil, fun item => iff_of_false List.not_mem_nil ?_⟩
  rintro ⟨before, placed, after, hhistory, -⟩
  simp at hhistory

theorem Follows.serve {history : List (ChainEdit H × ChainAnswer)} {members : List H}
    (h : Follows history members) (edit : ChainEdit H) :
    Follows (history ++ [(edit, (serve members edit).1)]) (serve members edit).2 := by
  refine ⟨nodup_serve h.1 edit, fun item => ?_⟩
  rw [mem_serve_iff h.1, stands_concat, h.2]

theorem follows_final (edits : List (ChainEdit H)) :
    Follows (Course.history serve [] edits) (Course.final serve ([] : List H) edits) :=
  Course.final_of_history Follows (fun _ _ edit h => h.serve edit) follows_nil edits

/-- **A chain follows its history.**  After any requests to a new chain no member stands twice, and the
members are exactly the items whose latest successful push or insertion is not followed by a removal.
Whatever is asked next,

* the members other than its item are left as they stand;
* an insertion fails exactly when its index is more than the length, and then changes nothing;
* a removal finds exactly the members, and changes nothing when it finds none;
* a push does the same as an insertion at the end. -/
theorem chain_follows_its_history (edits : List (ChainEdit H)) :
    let members := Course.final serve [] edits
    members.Nodup ∧
    (∀ item, item ∈ members ↔ Stands item (Course.history serve [] edits)) ∧
    (∀ edit, (serve members edit).2.filter (· ≠ edit.item) = members.filter (· ≠ edit.item)) ∧
    (∀ index item,
      ((∃ e, (serve members (.insert index item)).1 = .refused e) ↔ members.length < index) ∧
      (members.length < index →
        serve members (.insert index item) = (.refused ⟨index, members.length⟩, members))) ∧
    (∀ item,
      (serve members (.remove item)).1 = .removed (decide (item ∈ members)) ∧
      (item ∉ members → (serve members (.remove item)).2 = members)) ∧
    ∀ item, serve members (.push item) = serve members (.insert members.length item) := by
  intro members
  obtain ⟨hmembers, hstands⟩ : Follows _ members := follows_final edits
  refine ⟨hmembers, hstands, filter_serve hmembers, fun index item => ⟨?_, ?_⟩,
    fun item => ⟨?_, fun h => ?_⟩, fun item => ?_⟩
  · by_cases h : members.length < index
    · simp [serve_insert_of_lt h, h]
    · simp [serve_insert_of_le hmembers (Nat.not_lt.mp h), h]
  · exact fun h => serve_insert_of_lt h item
  · rw [serve_remove hmembers]
  · rw [serve_remove hmembers, filter_ne_eq_self h]
  · rw [serve_insert_of_le hmembers (Nat.le_refl _), List.take_length, List.drop_length]
    rfl

/-- Members that move forward, backward and to the end, while one goes. -/
def comingAndMoving : List (ChainEdit Nat) :=
  [.push 1, .push 2, .push 3, .insert 2 1, .insert 0 3, .remove 2, .push 3]

/-- What is left of them stands by the history; a place behind the end is refused, and what has gone is
not found again. -/
theorem chain_of_moving_members :
    let members := Course.final serve [] comingAndMoving
    members = [1, 3] ∧ Stands 3 (Course.history serve [] comingAndMoving) ∧
      serve members (.insert 5 4) = (.refused ⟨5, 2⟩, members) ∧
      (serve members (.remove 2)).2 = members := by
  intro members
  have hmembers : members = [1, 3] := by decide +kernel
  obtain ⟨-, hstands, -, hinsert, hremove, -⟩ := chain_follows_its_history comingAndMoving
  refine ⟨hmembers, (hstands 3).mp ?_, (hinsert 5 4).2 ?_, (hremove 2).2 ?_⟩ <;>
    decide +kernel

end Chain

end TrafficGate
