import TrafficGate.Proofs.Files.Changes
import TrafficGate.Proofs.Json.Table
import TrafficGate.Proofs.Store
import TrafficGate.Store.File

/-!
# Store — Property files that work

A property file is serviceable when its lock can be held and its text can be replaced.  Holding the
lock and replacing the text keep every place (`Files.KeepsPlaces`), so a serviceable property file
stays serviceable.

* `decode_eq_ok_iff`, `read_eq_ok_iff`: what a text says, and what a property file says.
* `load_eq_ok_iff`, `apply_eq`: reading and applying a batch, in terms of the lock and the file.
* `Keeps`: the file is serviceable and says these properties.
* `Keeps.load`, `Keeps.apply`, `Keeps.open?`: each operation succeeds, and what is kept then.
* `neverFails`: as long as nobody else interferes, a property file that once worked never fails.
-/

namespace TrafficGate.FileStore

open Files

/-! ### The lock file -/

/-- The lock file is not the property file. -/
theorem name?_lockPath {path name : String} (hname : Path.name? path = some name)
    (hslash : '/' ∉ name.toList) : Path.name? (lockPath path) = some (name ++ ".lock") := by
  have hlock : '/' ∉ (name ++ ".lock").toList := by
    rw [String.toList_append, List.mem_append]
    exact not_or.mpr ⟨hslash, by decide⟩
  have hlength : 5 ≤ (name ++ ".lock").length := by
    rw [String.length_append]
    exact Nat.le_add_left 5 _
  have hlong : ∀ short : String, short.length < 5 → name ++ ".lock" ≠ short := by
    intro short hshort heq
    rw [heq] at hlength
    omega
  rw [lockPath, hname, Option.getD_some]
  exact Path.name?_of_getLast?_names
    (Path.getLast?_names_withName path hlock (hlong "" (by decide)))
    (Path.endsWithSlash_child _ hlock (hlong "" (by decide)))
    (hlong "." (by decide)) (hlong ".." (by decide))

/-- The last name of the lock file is another one. -/
theorem name?_lockPath_ne {files : Files} {path name : String} {directory : List String}
    (hleads : LeadsTo files path directory name) : Path.name? (lockPath path) ≠ some name := by
  rw [name?_lockPath hleads.name?_eq
    (hleads.isRow name (List.mem_append_right _ List.mem_cons_self))]
  intro heq
  have hlength := congrArg String.length (Option.some.inj heq)
  rw [String.length_append] at hlength
  exact absurd hlength (Nat.ne_of_gt (Nat.lt_add_of_pos_right (by decide)))

/-! ### The text of a property file -/

/-- A written table starts with one brace and ends with another. -/
theorem trim_renderTable (properties : Properties) :
    Text.trim (Json.renderTable properties) = Json.renderTable properties := by
  rw [Text.trim_eq_self_iff]
  unfold Json.renderTable
  split
  · constructor
    · rintro c ⟨⟩
      decide
    · rintro c ⟨⟩
      decide
  · rw [String.toList_ofList]
    constructor
    · rintro c ⟨⟩
      decide
    · intro c hlast
      rw [List.getLast?_append] at hlast
      cases hlast
      decide

theorem renderTable_ne_empty (properties : Properties) : Json.renderTable properties ≠ "" := by
  unfold Json.renderTable
  split
  · decide
  · exact fun h => nomatch (String.ofList_eq_empty_iff.mp h)

/-- **What the text of a property file says.**  A blank text says nothing; any other one has to be an
object of texts, and says what its members say. -/
theorem decode_eq_ok_iff {path text : String} {properties : Properties} :
    decode path text = .ok properties ↔
      Text.trim text = "" ∧ properties = Table.empty ∨
      Text.trim text ≠ "" ∧ (Json.parse text).bind Properties.ofJson? = some properties := by
  rw [decode]
  by_cases hblank : Text.trim text = ""
  · rw [if_pos hblank]
    exact ⟨fun h => .inl ⟨hblank, (Except.ok.inj h).symm⟩,
      fun h => h.elim (fun h => h.2 ▸ rfl) fun h => absurd hblank h.1⟩
  · rw [if_neg hblank]
    cases (Json.parse text).bind Properties.ofJson? <;> simp [hblank]

/-- What was written is read. -/
theorem decode_renderTable (path : String) (properties : Properties) :
    decode path (Json.renderTable properties) = .ok properties := by
  refine decode_eq_ok_iff.mpr (.inr ⟨?_, Json.ofJson?_parse_renderTable properties⟩)
  rw [trim_renderTable]
  exact renderTable_ne_empty properties

/-- **What a property file says.**  It says nothing if it is missing, and otherwise what its text
says. -/
theorem read_eq_ok_iff {store : FileStore} {properties : Properties} :
    store.read = .ok properties ↔
      store.files.readText store.path = .error .notFound ∧ properties = Table.empty ∨
      ∃ text, store.files.readText store.path = .ok text ∧
        decode store.path text = .ok properties := by
  rw [read]
  cases store.files.readText store.path with
  | ok text => simp
  | error e => cases e <;> simp [eq_comm]

/-! ### Holding the lock, and writing -/

theorem lock_eq_ok_iff {store locked : FileStore} :
    store.lock = .ok locked ↔ ∃ files, store.files.ensure (lockPath store.path) = .ok files ∧
      locked = { store with files } :=
  map_eq_ok_iff

theorem load_eq_ok_iff {store locked : FileStore} {properties : Properties} :
    store.load = (.ok properties, locked) ↔
      store.lock = .ok locked ∧ locked.read = .ok properties := by
  unfold load
  cases store.lock with
  | error e => simp
  | ok held =>
      simp only [Prod.mk.injEq, Except.ok.injEq]
      exact ⟨fun ⟨hread, heq⟩ => ⟨heq, heq ▸ hread⟩, fun ⟨heq, hread⟩ => ⟨heq ▸ hread, heq⟩⟩

/-- To apply a batch is to read, and then to write under the same lock. -/
theorem apply_eq {store : FileStore} {batch : List Write} (hne : batch ≠ []) :
    store.apply batch = match store.load with
      | (.error e, locked) => (.error e, locked, [])
      | (.ok properties, locked) =>
        match locked.write (Write.applyAll properties batch) with
        | .error e => (.error (.io e.message), locked, [])
        | .ok written => (.ok (), written, [updated written.path batch.length]) := by
  unfold apply load
  rw [if_neg (mt List.isEmpty_iff.mp hne)]
  cases store.lock with
  | error e => rfl
  | ok locked =>
      dsimp only
      cases locked.read <;> rfl

theorem write_eq_ok_iff {store written : FileStore} {properties : Properties} :
    store.write properties = .ok written ↔ ∃ files,
      store.files.replace (directory store.path) store.path (Json.renderTable properties) =
        .ok files ∧ written = { store with files } :=
  map_eq_ok_iff

/-- The lock can be held, and the property file can be written. -/
structure Serviceable (store : FileStore) : Prop where
  lock : ∃ locked, store.lock = .ok locked
  write : ∃ properties written, store.write properties = .ok written

namespace Serviceable

variable {store : FileStore}

/-- Some text can take the place of the property file. -/
theorem exists_replace (h : store.Serviceable) :
    ∃ text files, store.files.replace (directory store.path) store.path text = .ok files := by
  obtain ⟨properties, _, hwrite⟩ := h.write
  obtain ⟨files, hreplace, -⟩ := write_eq_ok_iff.mp hwrite
  exact ⟨_, files, hreplace⟩

/-- Among files with the same places, the property file is as serviceable. -/
theorem of_keepsPlaces (h : store.Serviceable) {files : Files}
    (hkeeps : KeepsPlaces store.files files) :
    Serviceable { store with files } where
  lock := by
    obtain ⟨_, hlock⟩ := h.lock
    obtain ⟨_, hensure, -⟩ := lock_eq_ok_iff.mp hlock
    obtain ⟨made, hmade⟩ := hkeeps.ensure hensure
    exact ⟨_, lock_eq_ok_iff.mpr ⟨made, hmade, rfl⟩⟩
  write := by
    obtain ⟨_, _, hreplace⟩ := h.exists_replace
    obtain ⟨made, hmade⟩ := hkeeps.replace hreplace (Json.renderTable Table.empty)
    exact ⟨Table.empty, _, write_eq_ok_iff.mpr ⟨made, hmade, rfl⟩⟩

/-- Holding the lock leaves the property file as it is. -/
theorem read_of_lock (h : store.Serviceable) {locked : FileStore} (hlock : store.lock = .ok locked) :
    locked.read = store.read := by
  obtain ⟨_, _, hreplace⟩ := h.exists_replace
  obtain ⟨-, above, name, hleads, -⟩ := replace_eq_ok_iff.mp hreplace
  obtain ⟨files, hensure, rfl⟩ := lock_eq_ok_iff.mp hlock
  rw [read, read, readText_of_ensure hensure hleads (name?_lockPath_ne hleads)]

end Serviceable

/-- What was written into the property file is read from it. -/
theorem read_of_write {store written : FileStore} {properties : Properties}
    (h : store.write properties = .ok written) : written.read = .ok properties := by
  obtain ⟨files, hreplace, rfl⟩ := write_eq_ok_iff.mp h
  exact read_eq_ok_iff.mpr
    (.inr ⟨_, readText_of_replace hreplace, decode_renderTable store.path properties⟩)

/-! ### Keeping properties -/

/-- The property file is serviceable and says these properties. -/
structure Keeps (store : FileStore) (properties : Properties) : Prop where
  serviceable : store.Serviceable
  read_eq : store.read = .ok properties

namespace Keeps

variable {store : FileStore} {properties : Properties}

/-- Of a property file that is read, and that can be written. -/
theorem of_load (hload : store.load.1 = .ok properties)
    (hwrite : ∃ written, store.write properties = .ok written) : store.Keeps properties := by
  have hheld : store.load = (.ok properties, store.load.2) := by rw [← hload]
  generalize store.load.2 = held at hheld
  obtain ⟨hlock, hread⟩ := load_eq_ok_iff.mp hheld
  have hserviceable : store.Serviceable := ⟨⟨held, hlock⟩, properties, hwrite⟩
  exact ⟨hserviceable, (hserviceable.read_of_lock hlock).symm.trans hread⟩

/-- Holding the lock changes nothing about the properties. -/
theorem lock (h : store.Keeps properties) :
    ∃ locked, store.lock = .ok locked ∧ locked.Keeps properties := by
  obtain ⟨locked, hlock⟩ := h.serviceable.lock
  have hread := h.serviceable.read_of_lock hlock
  obtain ⟨files, hensure, rfl⟩ := lock_eq_ok_iff.mp hlock
  exact ⟨_, hlock, ⟨h.serviceable.of_keepsPlaces (keepsPlaces_of_ensure hensure),
    hread.trans h.read_eq⟩⟩

/-- Any properties can be written over those that are kept. -/
theorem write (h : store.Keeps properties) (new : Properties) :
    ∃ written, store.write new = .ok written ∧ written.Keeps new := by
  obtain ⟨_, _, hreplace⟩ := h.serviceable.exists_replace
  obtain ⟨files, hnew⟩ := (KeepsPlaces.refl store.files).replace hreplace (Json.renderTable new)
  have hwritten : store.write new = .ok { store with files } :=
    write_eq_ok_iff.mpr ⟨files, hnew, rfl⟩
  exact ⟨_, hwritten, h.serviceable.of_keepsPlaces (keepsPlaces_of_replace hnew),
    read_of_write hwritten⟩

/-- **Reading.**  It succeeds, and answers what is kept. -/
theorem load (h : store.Keeps properties) :
    ∃ locked, store.load = (.ok properties, locked) ∧ locked.Keeps properties := by
  obtain ⟨locked, hlock, hlocked⟩ := h.lock
  exact ⟨locked, load_eq_ok_iff.mpr ⟨hlock, hlocked.read_eq⟩, hlocked⟩

/-- **Applying a batch.**  It succeeds, and leaves the changed properties. -/
theorem apply (h : store.Keeps properties) (batch : List Write) :
    ∃ written entries, store.apply batch = (.ok (), written, entries) ∧
      written.Keeps (Write.applyAll properties batch) := by
  cases batch with
  | nil => exact ⟨store, [], rfl, h⟩
  | cons first rest =>
      obtain ⟨locked, hload, hlocked⟩ := h.load
      obtain ⟨written, hwrite, hwritten⟩ := hlocked.write (Write.applyAll properties (first :: rest))
      refine ⟨written, [updated written.path (first :: rest).length], ?_, hwritten⟩
      rw [apply_eq (List.cons_ne_nil _ _), hload]
      simp only [hwrite]

/-- **Opening again.**  The directory above the property file is there, so nothing is made. -/
theorem open? (h : store.Keeps properties) :
    FileStore.open? store.files store.path = (.ok store, store.files) := by
  obtain ⟨_, _, hreplace⟩ := h.serviceable.exists_replace
  obtain ⟨⟨-, hdirectory⟩, -⟩ := replace_eq_ok_iff.mp hreplace
  have hmade : store.files.makeDirectories ((Path.parent? store.path).getD "") =
      (.ok (), store.files) := by
    unfold directory at hdirectory
    cases hparent : Path.parent? store.path with
    | none => rfl
    | some above =>
        rw [Option.getD_some]
        by_cases hempty : above = ""
        · rw [hempty]
          rfl
        · simp only [hparent, if_neg hempty] at hdirectory
          exact makeDirectories_of_nodeAt hdirectory
  rw [FileStore.open?, hmade]
  rfl

end Keeps

/-- **Property files do not fail** as long as nobody else changes the files around them. -/
theorem neverFails : Store.NeverFails Keeps := by
  intro store properties hkeeps
  obtain ⟨locked, hload, hlocked⟩ := hkeeps.load
  exact ⟨locked, hload, hlocked, hlocked.apply⟩

end TrafficGate.FileStore
