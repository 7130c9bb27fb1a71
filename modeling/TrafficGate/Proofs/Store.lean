import TrafficGate.Store.Memory

/-!
# Store — Stores that work

When a store works, and which stores never fail.

* `Store.Works`: at this moment the store can be read and any batch can be applied.
* `Store.NeverFails`: whenever the store keeps properties it works, and so on after every batch.
* `MemoryStore.written`: memory after one more batch (`Keeps.apply_eq`).
* `MemoryStore.neverFails`: properties in memory never fail while both switches are off.
-/

namespace TrafficGate

variable {S : Type} [Store S]

/-- The store works at this moment: it is read as these properties, any batch that is applied next
succeeds, and what it keeps then are the properties so changed.  `keeps` tells which properties a
store keeps. -/
def Store.Works (keeps : S → Properties → Prop) (store : S) (properties : Properties) : Prop :=
  ∃ after, Store.load store = (.ok properties, after) ∧ keeps after properties ∧
    ∀ batch, ∃ written entries, Store.apply after batch = (.ok (), written, entries) ∧
      keeps written (Write.applyAll properties batch)

/-- A store that keeps properties works, and keeps doing so. -/
def Store.NeverFails (keeps : S → Properties → Prop) : Prop :=
  ∀ store properties, keeps store properties → Store.Works keeps store properties

/-- A store that never fails is read as what it keeps. -/
theorem Store.NeverFails.load_eq {keeps : S → Properties → Prop} (h : Store.NeverFails keeps)
    {store : S} {properties : Properties} (hkeeps : keeps store properties) :
    (Store.load store).1 = .ok properties := by
  obtain ⟨after, hread, -, -⟩ := h store properties hkeeps
  exact congrArg Prod.fst hread

/-- A store that never fails keeps one thing. -/
theorem Store.NeverFails.keeps_unique {keeps : S → Properties → Prop} (h : Store.NeverFails keeps)
    {store : S} {properties other : Properties} (hkeeps : keeps store properties)
    (hother : keeps store other) : properties = other :=
  Except.ok.inj ((h.load_eq hkeeps).symm.trans (h.load_eq hother))

namespace MemoryStore

/-- The properties in memory, with both switches off. -/
structure Keeps (store : MemoryStore) (properties : Properties) : Prop where
  properties_eq : store.properties = properties
  reading : store.failsReading = false
  writing : store.failsWriting = false

/-- The memory after one more batch, which it counts. -/
def written (store : MemoryStore) (batch : List Write) : MemoryStore :=
  { store with
    properties := Write.applyAll store.properties batch
    batches := store.batches + 1 }

namespace Keeps

variable {store : MemoryStore} {properties : Properties} (h : store.Keeps properties)

include h

theorem load_eq : Store.load store = (.ok properties, store) := by
  obtain ⟨_, _, _, _⟩ := store
  obtain ⟨rfl, rfl, rfl⟩ := h
  rfl

theorem apply_eq (batch : List Write) :
    Store.apply store batch = (.ok (), store.written batch, []) := by
  obtain ⟨_, _, _, _⟩ := store
  obtain ⟨rfl, rfl, rfl⟩ := h
  rfl

theorem written (batch : List Write) :
    (store.written batch).Keeps (Write.applyAll properties batch) :=
  ⟨congrArg (Write.applyAll · batch) h.properties_eq, h.reading, h.writing⟩

end Keeps

theorem neverFails : Store.NeverFails Keeps := fun store _ h =>
  ⟨store, h.load_eq, h, fun batch => ⟨store.written batch, [], h.apply_eq batch, h.written batch⟩⟩

end MemoryStore

end TrafficGate
