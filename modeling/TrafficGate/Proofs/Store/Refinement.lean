import TrafficGate.Proofs.Store.File

/-!
# Store — A property file refines memory

A property file that is read and written by one program behaves like properties in memory.  Steps are
batches, readings, and openings of the same path again; memory is given the batches only.

* `FileStore.Keeps.take`: one step succeeds, and changes what is kept as its batch says.
* `FileStore.Keeps.after`: so does any row of steps.
* `FileStore.refines_memory`: the property file and the memory are read alike after every step.
-/

namespace TrafficGate

/-- The memory after batches. -/
def MemoryStore.after (store : MemoryStore) (batches : List (List Write)) : MemoryStore :=
  batches.foldl (fun store batch => (Store.apply store batch).2.1) store

theorem MemoryStore.Keeps.after {store : MemoryStore} {properties : Properties}
    (h : store.Keeps properties) (batches : List (List Write)) :
    (store.after batches).Keeps (batches.foldl Write.applyAll properties) := by
  induction batches generalizing store properties with
  | nil => exact h
  | cons batch rest ih =>
      have hfirst : (Store.apply store batch).2.1 = store.written batch :=
        congrArg (fun applied => applied.2.1) (h.apply_eq batch)
      rw [MemoryStore.after, List.foldl_cons, hfirst]
      exact ih (h.written batch)

namespace FileStore

/-- What is done with a property file. -/
inductive Step where
  | apply (batch : List Write)
  | load
  | reopen
  deriving DecidableEq, Repr, Inhabited

/-- The batch that a step applies, if it applies one. -/
def Step.batch? : Step → Option (List Write)
  | .apply batch => some batch
  | .load => none
  | .reopen => none

/-- Does a step: how it ends, and the property file afterwards. -/
def take (store : FileStore) : Step → Except StoreError Unit × FileStore
  | .apply batch =>
    let (answer, store, _) := store.apply batch
    (answer, store)
  | .load =>
    let (answer, store) := store.load
    (answer.map fun _ => (), store)
  | .reopen =>
    match open? store.files store.path with
    | (.ok opened, _) => (.ok (), opened)
    | (.error e, files) => (.error (.io e.message), { store with files })

/-- The property file after steps. -/
def after (store : FileStore) (steps : List Step) : FileStore :=
  steps.foldl (fun store step => (store.take step).2) store

/-- **One step.**  It succeeds, and only a batch changes what is kept. -/
theorem Keeps.take {store : FileStore} {properties : Properties} (h : store.Keeps properties)
    (step : Step) :
    (store.take step).1 = .ok () ∧
      (store.take step).2.Keeps (step.batch?.elim properties (Write.applyAll properties)) := by
  cases step with
  | apply batch =>
      obtain ⟨written, entries, happly, hwritten⟩ := h.apply batch
      rw [FileStore.take, happly]
      exact ⟨rfl, hwritten⟩
  | load =>
      obtain ⟨locked, hload, hlocked⟩ := h.load
      rw [FileStore.take, hload]
      exact ⟨rfl, hlocked⟩
  | reopen =>
      rw [FileStore.take, h.open?]
      exact ⟨rfl, h⟩

/-- **Any steps.**  What is kept is what their batches make of it. -/
theorem Keeps.after {store : FileStore} {properties : Properties} (h : store.Keeps properties)
    (steps : List Step) :
    (store.after steps).Keeps ((steps.filterMap Step.batch?).foldl Write.applyAll properties) := by
  induction steps generalizing store properties with
  | nil => exact h
  | cons step rest ih =>
      have hnext := (h.take step).2
      cases hbatch : step.batch? with
      | none =>
          rw [hbatch] at hnext
          rw [List.filterMap_cons_none hbatch]
          exact ih hnext
      | some batch =>
          rw [hbatch] at hnext
          rw [List.filterMap_cons_some hbatch]
          exact ih hnext

/-- **A property file refines memory.**  Let a property file be read as some properties, and let it
be possible to write them back.  Then every further step succeeds, and after any steps the property
file is read like a memory that started with these properties and was given the same batches.  An
empty batch leaves every property file, and all files around it, as they are. -/
theorem refines_memory {store : FileStore} {properties : Properties}
    (hload : store.load.1 = .ok properties)
    (hwrite : ∃ written, store.write properties = .ok written) (steps : List Step) :
    let reached := store.after steps
    let mirror := MemoryStore.after { properties } (steps.filterMap Step.batch?)
    (∀ step, (reached.take step).1 = .ok ()) ∧
      (∃ contents, (Store.load reached).1 = .ok contents ∧ (Store.load mirror).1 = .ok contents) ∧
      ∀ other : FileStore, other.apply [] = (.ok (), other, []) := by
  intro reached mirror
  have hreached := (Keeps.of_load hload hwrite).after steps
  have hmirror : mirror.Keeps ((steps.filterMap Step.batch?).foldl Write.applyAll properties) :=
    MemoryStore.Keeps.after ⟨rfl, rfl, rfl⟩ _
  exact ⟨fun step => (hreached.take step).1,
    ⟨_, neverFails.load_eq hreached, MemoryStore.neverFails.load_eq hmirror⟩, fun other => rfl⟩

/-- A property file in a directory of its own: with a text, or missing. -/
def nested (text : Option String) : FileStore where
  path := "nested/props.json"
  files :=
    let made := Files.put {} ["nested"] .directory
    text.elim made fun text => made.put ["nested", "props.json"] (.file text.toUTF8)

/-- A batch with one key twice and a key that may be missing, a reading, an empty batch, an opening,
and a batch without effect. -/
def errands : List Step :=
  [.apply [.set "b" "2", .remove "a", .set "b" "3"], .load, .apply [], .reopen,
    .apply [.remove "gone"]]

theorem eq_ok_of_toOption {ε α : Type} {answer : Except ε α} {value : α}
    (h : answer.toOption = some value) : answer = .ok value := by
  cases answer with
  | error e => cases h
  | ok found => exact congrArg _ (Option.some.inj h)

theorem exists_ok_of_isOk {ε α : Type} {answer : Except ε α} (h : answer.isOk = true) :
    ∃ value, answer = .ok value := by
  cases answer with
  | error e => cases h
  | ok value => exact ⟨value, rfl⟩

/-- The file is missing at first, or blank, or holds two properties. -/
theorem errands_in_nested_files :
    (Store.load ((nested none).after errands)).1 = .ok (Table.ofList [("b", "3")]) ∧
    (Store.load ((nested (some " \n")).after errands)).1 = .ok (Table.ofList [("b", "3")]) ∧
    (Store.load ((nested (some "\x7b\"a\": \"1\", \"c\": \"4\"\x7d")).after errands)).1 =
      .ok (Table.ofList [("b", "3"), ("c", "4")]) := by
  have hmissing : (nested none).load.1 = .ok Table.empty := eq_ok_of_toOption (by decide +kernel)
  have hblank : (nested (some " \n")).load.1 = .ok Table.empty :=
    eq_ok_of_toOption (by decide +kernel)
  have hfilled : (nested (some "\x7b\"a\": \"1\", \"c\": \"4\"\x7d")).load.1 =
      .ok (Table.ofList [("a", "1"), ("c", "4")]) := eq_ok_of_toOption (by decide +kernel)
  -- the errands of a memory are evaluated in place of those of the files
  obtain ⟨-, ⟨_, hfirst, hmirror⟩, -⟩ :=
    refines_memory hmissing (exists_ok_of_isOk (by decide +kernel)) errands
  obtain ⟨-, ⟨_, hsecond, hmirror'⟩, -⟩ :=
    refines_memory hblank (exists_ok_of_isOk (by decide +kernel)) errands
  obtain ⟨-, ⟨_, hthird, hmirror''⟩, -⟩ :=
    refines_memory hfilled (exists_ok_of_isOk (by decide +kernel)) errands
  exact ⟨hfirst.trans (hmirror.symm.trans (eq_ok_of_toOption (by decide +kernel))),
    hsecond.trans (hmirror'.symm.trans (eq_ok_of_toOption (by decide +kernel))),
    hthird.trans (hmirror''.symm.trans (eq_ok_of_toOption (by decide +kernel)))⟩

end FileStore

end TrafficGate
