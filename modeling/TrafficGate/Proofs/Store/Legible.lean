import TrafficGate.Proofs.Store.File
import TrafficGate.Proofs.Text.Tokens

/-!
# Store — Legible property files

Which bytes say properties (`Legible`), and what becomes of a property file that holds other ones.

* `Properties.Legible`, `exists_decode_iff`: which texts say properties.
* `FileStore.Holds`: the bytes of a property file, which reading keeps (`Holds.load`).
* `Holds.load_of_not_legible`, `apply_of_load_error`: what is not legible can neither be read nor
  changed.
* `apply_cases`: how applying a batch ends.  A batch that fails does no more than reading does
  (`eq_load_of_apply_error`); one that succeeds has been applied to what was read before, as a whole
  (`load_of_apply_ok`).
-/

namespace TrafficGate

/-! ### Texts -/

namespace Properties

/-- The text says properties: it is blank, or an object whose keys and values are all texts. -/
def Legible (text : String) : Prop :=
  (∀ c ∈ text.toList, Text.isBlank c = true) ∨
    ∃ members, Json.parse text = some (.object members) ∧
      ∀ member ∈ members, ∃ key value, member = (.text key, .string (.text value))

/-- Everything can be read if each item can. -/
theorem exists_mapM_iff {α β : Type} {read : α → Option β} {items : List α} :
    (∃ found, items.mapM read = some found) ↔ ∀ item ∈ items, ∃ found, read item = some found := by
  induction items with
  | nil => simp
  | cons item items ih =>
      rw [List.forall_mem_cons, ← ih, List.mapM_cons]
      cases read item with
      | none => simp
      | some found => cases items.mapM read <;> simp

theorem exists_ofJson?_iff {json : Json} :
    (∃ properties, ofJson? json = some properties) ↔ ∃ members, json = .object members ∧
      ∀ member ∈ members, ∃ key value, member = (.text key, .string (.text value)) := by
  cases json with
  | object members =>
      -- each member is read by itself, and then nothing can fail
      simp only [ofJson?, Option.bind_eq_bind, Option.bind_eq_some_iff, Option.pure_def,
        Option.some.injEq, Json.object.injEq, exists_eq_left']
      rw [exists_comm]
      simp only [exists_and_left, exists_eq', and_true, exists_mapM_iff]
      refine forall₂_congr fun member _ => ?_
      rcases member with ⟨_ | _, _ | _ | _ | ⟨_ | _⟩ | _ | _⟩ <;> simp
  | _ => simp [ofJson?]

/-- **Which texts say properties.** -/
theorem exists_decode_iff {path text : String} :
    (∃ properties, FileStore.decode path text = .ok properties) ↔ Legible text := by
  simp only [Legible, ← Text.trim_eq_empty_iff, FileStore.decode_eq_ok_iff]
  by_cases hblank : Text.trim text = ""
  · simp [hblank]
  · simp only [ne_eq, hblank, not_false_eq_true, false_and, true_and, false_or,
      Option.bind_eq_some_iff]
    constructor
    · rintro ⟨properties, json, hparse, hproperties⟩
      obtain ⟨members, rfl, hmembers⟩ := exists_ofJson?_iff.mp ⟨properties, hproperties⟩
      exact ⟨members, hparse, hmembers⟩
    · rintro ⟨members, hparse, hmembers⟩
      obtain ⟨properties, hproperties⟩ := exists_ofJson?_iff.mpr ⟨members, rfl, hmembers⟩
      exact ⟨properties, .object members, hparse, hproperties⟩

end Properties

namespace FileStore

open Files

/-! ### The bytes of a property file -/

/-- The bytes are those of a text that says properties. -/
def Legible (content : ByteArray) : Prop :=
  ∃ text : String, text.toUTF8 = content ∧ Properties.Legible text

/-- The property file is the one at the path, and these are its bytes. -/
structure Holds (store : FileStore) (path : String) (content : ByteArray) : Prop where
  path_eq : store.path = path
  nodeAt_eq : store.files.nodeAt path = .ok (.file content)

namespace Holds

variable {store locked : FileStore} {path : String} {content : ByteArray}

/-- A property file is read if its bytes say properties. -/
theorem exists_read_iff (h : store.Holds path content) :
    (∃ properties, store.read = .ok properties) ↔ Legible content := by
  have htext : store.files.readText store.path = textOf (some (.file content)) := by
    rw [h.path_eq, readText, h.nodeAt_eq]
    simp only [textOf, bind, Except.bind]
    cases String.fromUTF8? content <;> rfl
  simp only [Legible, ← fromUTF8?_eq_some_iff, read_eq_ok_iff, htext, textOf]
  cases String.fromUTF8? content with
  | none => simp
  | some text => simpa using Properties.exists_decode_iff

/-- Holding the lock keeps the bytes. -/
theorem lock (h : store.Holds path content) (hlock : store.lock = .ok locked) :
    locked.Holds path content := by
  obtain ⟨rfl, hnode⟩ := h
  obtain ⟨files, hensure, rfl⟩ := lock_eq_ok_iff.mp hlock
  obtain ⟨directory, name, hleads, hat⟩ := nodeAt_eq_file_iff.mp hnode
  refine ⟨rfl, nodeAt_eq_file_iff.mpr
    ⟨directory, name, (keepsPlaces_of_ensure hensure).leadsTo hleads, ?_⟩⟩
  rw [at?_of_ensure hensure hleads.isRow (name?_lockPath_ne hleads), hat]

/-- So does reading, whether it succeeds or not. -/
theorem load (h : store.Holds path content) : store.load.2.Holds path content := by
  unfold FileStore.load
  cases hlock : store.lock with
  | error e => exact h
  | ok locked => exact h.lock hlock

/-- Bytes that say no properties are not read. -/
theorem load_of_not_legible (h : store.Holds path content) (hillegible : ¬ Legible content) :
    ∃ e after, store.load = (.error e, after) ∧ after.Holds path content := by
  have hkept := h.load
  rcases hload : store.load with ⟨_ | properties, after⟩
  · rw [hload] at hkept
    exact ⟨_, after, rfl, hkept⟩
  · obtain ⟨hlock, hread⟩ := load_eq_ok_iff.mp hload
    exact absurd ((h.lock hlock).exists_read_iff.mp ⟨properties, hread⟩) hillegible

end Holds

/-! ### Batches -/

/-- What was written under the lock is kept: the lock can be held again, and what was replaced can be
replaced again. -/
theorem keeps_of_write {store locked written : FileStore} {properties : Properties}
    (hlock : store.lock = .ok locked) (hwrite : locked.write properties = .ok written) :
    written.Keeps properties := by
  obtain ⟨files, hensure, rfl⟩ := lock_eq_ok_iff.mp hlock
  obtain ⟨again, hagain⟩ := (keepsPlaces_of_ensure hensure).ensure hensure
  have hserviceable : Serviceable { store with files } :=
    ⟨⟨{ store with files := again }, lock_eq_ok_iff.mpr ⟨again, hagain, rfl⟩⟩,
      properties, written, hwrite⟩
  have hread := read_of_write hwrite
  obtain ⟨_, hreplace, rfl⟩ := write_eq_ok_iff.mp hwrite
  exact ⟨hserviceable.of_keepsPlaces (keepsPlaces_of_replace hreplace), hread⟩

section

variable {store after : FileStore} {batch : List Write} {entries : List Log.Entry} {e : StoreError}

theorem apply_of_load_error (hne : batch ≠ []) (hload : store.load = (.error e, after)) :
    store.apply batch = (.error e, after, []) := by
  rw [apply_eq hne, hload]

/-- A batch fails, and then no more is done than reading does; or it is written as a whole. -/
theorem apply_cases (store : FileStore) (hne : batch ≠ []) :
    (∃ e, store.apply batch = (.error e, store.load.2, [])) ∨
    ∃ properties locked written, store.load = (.ok properties, locked) ∧
      locked.write (Write.applyAll properties batch) = .ok written ∧
      store.apply batch = (.ok (), written, [updated written.path batch.length]) := by
  rw [apply_eq hne]
  rcases hload : store.load with ⟨e | properties, locked⟩
  · exact .inl ⟨e, rfl⟩
  · cases hwrite : locked.write (Write.applyAll properties batch) with
    | error e => exact .inl ⟨.io e.message, by simp only [hwrite]⟩
    | ok written => exact .inr ⟨properties, locked, written, rfl, hwrite, by simp only [hwrite]⟩

theorem eq_load_of_apply_error (happly : store.apply batch = (.error e, after, entries)) :
    after = store.load.2 := by
  by_cases hne : batch = []
  · subst hne
    cases happly
  · rcases store.apply_cases hne with ⟨e', hfails⟩ | ⟨_, _, _, -, -, hlands⟩
    · rw [happly] at hfails
      exact (Prod.mk.inj (Prod.mk.inj hfails).2).1
    · rw [happly] at hlands
      cases hlands

/-- **A batch that succeeds** has been applied to what was read, as a whole and in order. -/
theorem load_of_apply_ok (hne : batch ≠ []) (happly : store.apply batch = (.ok (), after, entries)) :
    ∃ properties, store.load.1 = .ok properties ∧
      after.load.1 = .ok (Write.applyAll properties batch) := by
  rcases store.apply_cases hne with ⟨e, hfails⟩ | ⟨properties, locked, written, hload, hwrite, hlands⟩
  · rw [happly] at hfails
    cases hfails
  · rw [happly] at hlands
    obtain rfl : after = written := (Prod.mk.inj (Prod.mk.inj hlands).2).1
    obtain ⟨again, hagain, -⟩ := (keeps_of_write (load_eq_ok_iff.mp hload).1 hwrite).load
    exact ⟨properties, by rw [hload], by rw [hagain]⟩

end

end FileStore

end TrafficGate
