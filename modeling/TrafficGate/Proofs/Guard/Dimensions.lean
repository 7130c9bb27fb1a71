import TrafficGate.Guard
import TrafficGate.Proofs.Category.Reading

/-!
# Guard — Dimensions

A guard is a family of selections, one for each of its dimensions, and every operation on guards
works dimension by dimension (`DimensionalGuard`).  A dimension is a number below
`Guard.dimensions`, and its selection is over an enumeration of its own.

The guards of packets and of rooms are such families, and so is a selection alone.
-/

namespace TrafficGate

/-- A guard that is a family of selections.  Its operations, its stored form included, are those of
the selections, dimension by dimension. -/
class DimensionalGuard (G : Type) [Guard G] where
  /-- The enumeration of a dimension. -/
  Kind : Fin (Guard.dimensions G) → Type
  /-- Categories of a dimension are compared. -/
  [decidableEq : ∀ d, DecidableEq (Kind d)]
  /-- The categories of a dimension. -/
  [category : ∀ d, Category (Kind d)]
  /-- What the guard selects in a dimension. -/
  selection : G → ∀ d, Selection (Kind d)
  storable : ∀ d, Category.Storable (Kind d)
  ext_selection : ∀ {g h : G}, (∀ d, selection g d = selection h d) → g = h
  selection_empty : ∀ d, selection Guard.empty d = Selection.empty
  selection_union : ∀ g h d, selection (Guard.union g h) d = (selection g d).union (selection h d)
  selection_collapse : ∀ g d, selection (Guard.collapse g) d = (selection g d).collapse
  encode_eq : ∀ g d, Guard.encode g d.val = (selection g d).property
  selection_decode_self :
    ∀ g d raw, selection (Guard.decode g d.val raw).1 d = (Selection.ofProperty raw).1
  selection_decode_of_ne :
    ∀ g {d e} raw, d ≠ e → selection (Guard.decode g d.val raw).1 e = selection g e

attribute [reducible, instance] DimensionalGuard.decidableEq DimensionalGuard.category

attribute [instance] DimensionalGuard.storable

attribute [simp] DimensionalGuard.selection_empty DimensionalGuard.selection_collapse

namespace DimensionalGuard

variable {G : Type} [Guard G] [DimensionalGuard G]

theorem collapse_collapse (g : G) : Guard.collapse (Guard.collapse g) = Guard.collapse g :=
  ext_selection fun d => by simp

end DimensionalGuard

/-! ### A selection alone -/

instance {C : Type} [DecidableEq C] [Category C] [Category.Storable C] :
    DimensionalGuard (Selection C) where
  Kind _ := C
  selection s _ := s
  storable _ := inferInstance
  ext_selection h := h ⟨0, Nat.one_pos⟩
  selection_empty _ := rfl
  selection_union _ _ _ := rfl
  selection_collapse _ _ := rfl
  encode_eq _ _ := rfl
  selection_decode_self _ _ _ := rfl
  selection_decode_of_ne _ {d e} _ h := absurd (@Subsingleton.elim (Fin 1) _ d e) h

/-! ### Packets -/

namespace PacketGuard

/-- The enumeration of each dimension: points, then kinds. -/
def Kind : Fin 2 → Type
  | 0 => TrafficCategory
  | 1 => PacketCategory

instance : ∀ d, DecidableEq (Kind d)
  | 0 => inferInstanceAs (DecidableEq TrafficCategory)
  | 1 => inferInstanceAs (DecidableEq PacketCategory)

instance : ∀ d, Category (Kind d)
  | 0 => inferInstanceAs (Category TrafficCategory)
  | 1 => inferInstanceAs (Category PacketCategory)

/-- What the guard selects in each dimension. -/
def selection (g : PacketGuard) : ∀ d, Selection (Kind d)
  | 0 => g.points
  | 1 => g.kinds

end PacketGuard

instance : DimensionalGuard PacketGuard where
  Kind := PacketGuard.Kind
  selection := PacketGuard.selection
  storable
    | 0 => inferInstanceAs (Category.Storable TrafficCategory)
    | 1 => inferInstanceAs (Category.Storable PacketCategory)
  ext_selection {g h} e := by
    obtain ⟨points, kinds⟩ := g
    have h₀ : points = h.points := e 0
    have h₁ : kinds = h.kinds := e 1
    rw [h₀, h₁]
  selection_empty
    | 0 => rfl
    | 1 => rfl
  selection_union _ _
    | 0 => rfl
    | 1 => rfl
  selection_collapse _
    | 0 => rfl
    | 1 => rfl
  encode_eq _
    | 0 => rfl
    | 1 => rfl
  selection_decode_self _
    | 0, _ => rfl
    | 1, _ => rfl
  selection_decode_of_ne _ {d e} _ h :=
    match d, e, h with
    | 0, 0, h => absurd rfl h
    | 0, 1, _ => rfl
    | 1, 0, _ => rfl
    | 1, 1, h => absurd rfl h

/-! ### Rooms -/

instance : DimensionalGuard RoomGuard where
  Kind _ := RoomCategory
  selection g _ := g.events
  storable _ := inferInstance
  ext_selection {g h} e := by
    obtain ⟨events⟩ := g
    have h₀ : events = h.events := e ⟨0, Nat.one_pos⟩
    rw [h₀]
  selection_empty _ := rfl
  selection_union _ _ _ := rfl
  selection_collapse _ _ := rfl
  encode_eq _ _ := rfl
  selection_decode_self _ _ _ := rfl
  selection_decode_of_ne _ {d e} _ h := absurd (@Subsingleton.elim (Fin 1) _ d e) h

end TrafficGate
