import TrafficGate.Category
import TrafficGate.Text.Pieces

/-!
# Category — Selection

Sets of categories of one enumeration.  A selection lists its members in the order of the
enumeration, so two selections with the same members are equal and the stored form of a selection is
determined by its members.

* `mem_ofPredicate`, `mem_insert`, `mem_union`: the members of what the operations build.
* `Selection.ext_mem`: a selection is determined by its members.
* `property`, `ofProperty`: the stored form of a selection, and what a stored text selects.
-/

namespace TrafficGate

/-- A set of categories, listed in the order of the enumeration. -/
structure Selection (C : Type) [DecidableEq C] [Category C] where
  toList : List C
  sublist : toList.Sublist Category.members

namespace Selection

variable {C : Type} [DecidableEq C] [Category C]

theorem ext {s t : Selection C} (h : s.toList = t.toList) : s = t := by
  cases s; cases t; cases h; rfl

instance : DecidableEq (Selection C) := fun s t =>
  decidable_of_iff (s.toList = t.toList) ⟨ext, congrArg toList⟩

instance : Membership C (Selection C) := ⟨fun s c => c ∈ s.toList⟩

instance (c : C) (s : Selection C) : Decidable (c ∈ s) :=
  inferInstanceAs (Decidable (c ∈ s.toList))

theorem mem_toList {c : C} {s : Selection C} : c ∈ s.toList ↔ c ∈ s := .rfl

/-- The categories that satisfy `p`. -/
def ofPredicate (p : C → Bool) : Selection C :=
  ⟨Category.members.filter p, List.filter_sublist⟩

/-- No category. -/
def empty : Selection C := ⟨[], List.nil_sublist _⟩

instance : EmptyCollection (Selection C) := ⟨empty⟩

instance : Inhabited (Selection C) := ⟨empty⟩

/-- The categories in the list. -/
def ofList (cs : List C) : Selection C := ofPredicate (cs.contains ·)

/-- The wildcard alone. -/
def wildcard : Selection C := ofPredicate (· = Category.all)

/-- The selection with `c` among its members. -/
def insert (s : Selection C) (c : C) : Selection C := ofPredicate fun d => d = c || d ∈ s

/-- The members of both selections together. -/
def union (s t : Selection C) : Selection C := ofPredicate fun c => c ∈ s || c ∈ t

/-- The wildcard alone if it is a member, else the selection itself. -/
def collapse (s : Selection C) : Selection C := if Category.all ∈ s then wildcard else s

/-- The category is a member, or the wildcard is. -/
def covers (s : Selection C) (c : C) : Bool := Category.all ∈ s || c ∈ s

/-- The selection has no member. -/
def isEmpty (s : Selection C) : Bool := s.toList.isEmpty

/-- The selection is the wildcard alone. -/
def isWildcard (s : Selection C) : Bool := s = wildcard

/-- The number of members. -/
def size (s : Selection C) : Nat := s.toList.length

/-- The inspection form of a selection. -/
def inspect (s : Selection C) : String := Text.Inspect.set (s.toList.map Category.inspect)

/-! ### Members -/

@[simp] theorem mem_ofPredicate {p : C → Bool} {c : C} : c ∈ ofPredicate p ↔ p c = true := by
  simp [← mem_toList, ofPredicate, Category.mem_members c]

@[simp] theorem not_mem_empty {c : C} : ¬ c ∈ (empty : Selection C) := by
  simp [← mem_toList, empty]

@[simp] theorem mem_wildcard {c : C} : c ∈ (wildcard : Selection C) ↔ c = Category.all := by
  simp [wildcard]

@[simp] theorem mem_ofList {cs : List C} {c : C} : c ∈ ofList cs ↔ c ∈ cs := by
  simp [ofList]

@[simp] theorem mem_insert {s : Selection C} {c d : C} : d ∈ s.insert c ↔ d = c ∨ d ∈ s := by
  simp [insert]

@[simp] theorem mem_union {s t : Selection C} {c : C} : c ∈ s.union t ↔ c ∈ s ∨ c ∈ t := by
  simp [union]

omit [Category C] in
theorem eq_filter_of_sublist {l m : List C} (h : l.Sublist m) (hm : m.Nodup) :
    l = m.filter (l.contains ·) := by
  induction h with
  | slnil => rfl
  | cons a h ih =>
    have hm' := List.nodup_cons.mp hm
    rw [List.filter_cons_of_neg (by simpa using fun hmem => hm'.1 (h.subset hmem))]
    exact ih hm'.2
  | cons_cons a h ih =>
    have hm' := List.nodup_cons.mp hm
    rw [List.filter_cons_of_pos (by simp)]
    refine congrArg (a :: ·) ((ih hm'.2).trans (List.filter_congr fun x hx => ?_))
    have hxa : x ≠ a := fun e => hm'.1 (e ▸ hx)
    simp [hxa]

theorem toList_eq_filter (s : Selection C) :
    s.toList = Category.members.filter (fun c => decide (c ∈ s)) := by
  refine (eq_filter_of_sublist s.sublist Category.nodup_members).trans
    (List.filter_congr fun c _ => ?_)
  simp [mem_toList]

theorem ext_mem {s t : Selection C} (h : ∀ c, c ∈ s ↔ c ∈ t) : s = t := by
  refine ext ?_
  rw [toList_eq_filter s, toList_eq_filter t]
  exact List.filter_congr fun c _ => by simp [h c]

/-! ### The stored form -/

/-- The stored form: the wildcard's token alone if it is a member, else the tokens of the members
with commas between them. -/
def property (s : Selection C) : String :=
  if Category.all ∈ s then Category.token (Category.all : C)
  else Text.joined "," (s.toList.map Category.token)

/-- Reads tokens on top of `read`: the wildcard's token ends the reading and selects the wildcard
alone, other tokens add their category, and unknown ones are passed over and told of in order. -/
def readTokens (read : Selection C) : List String → Selection C × List UnknownCategory
  | [] => (read, [])
  | token :: rest =>
    match Category.parse? token with
    | some c => if c = Category.all then (wildcard, []) else readTokens (read.insert c) rest
    | none =>
      let (s, unknown) := readTokens read rest
      (s, ⟨Category.kind C, token⟩ :: unknown)

/-- What a stored text selects, and the unknown tokens met on the way. -/
def ofProperty (raw : String) : Selection C × List UnknownCategory := readTokens empty (Text.tokens raw)

end Selection

end TrafficGate
