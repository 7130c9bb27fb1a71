import TrafficGate.Proofs.Gate.Metering
import TrafficGate.Proofs.Gate.Storing
import TrafficGate.Proofs.Store.Legible
import TrafficGate.Proofs.Store.Refinement

/-!
# Gate — A property file that cannot be read

What becomes of a property file whose bytes say no properties, and of the gate that stores its
declarations there (`illegible_file_is_never_overwritten`).

* `trace_serveMetered`: what the metrics are told of requests does not depend on the store.
* `holds_serve`: no request changes bytes that cannot be read.
-/

namespace TrafficGate.Gate

variable {S G H : Type} [Guard G]

/-! ### What the metrics are told -/

section

variable [Store S]

/-- Serves a request, and answers also what the metrics are told of it. -/
def serveMetered (gate : Gate G H) (store : S) (request : Request G H) :
    Change (Gate G H) S (Answer × List Report) :=
  let change := gate.serve store request
  { change with result := (change.result, Report.measured change.reports) }

/-- The store leaves no trace in what is answered, in the gate, and in what the metrics are told. -/
theorem trace_serveMetered {S' : Type} [Store S'] (gate : Gate G H) (store : S) (other : S')
    (requests : List (Request G H)) :
    Run.trace serveMetered gate store (requests.map Turn.calm) =
      Run.trace serveMetered gate other (requests.map Turn.calm) := by
  have hserve : ∀ (reached : Gate G H) (present : S) (present' : S') (request : Request G H),
      (reached.serveMetered present request).result =
          (reached.serveMetered present' request).result ∧
        (reached.serveMetered present request).changed =
          (reached.serveMetered present' request).changed := by
    intro reached present present' request
    simp only [serveMetered, measured_serve, serve_result, serve_changed, and_self]
  have hturns : (requests.map Turn.calm).map (fun turn : Turn S (Request G H) =>
      (Turn.calm turn.request : Turn S' (Request G H))) = requests.map Turn.calm :=
    List.map_map
  rw [Run.trace_congr hserve gate store other, hturns]

end

/-! ### The property file -/

/-- A request leaves bytes that cannot be read as they are. -/
theorem holds_serve {store : FileStore} {path : String} {content : ByteArray}
    (hholds : store.Holds path content) (hillegible : ¬ FileStore.Legible content)
    (gate : Gate G H) (request : Request G H) :
    (gate.serve store request).store.Holds path content := by
  rw [serve_store]
  split
  · obtain ⟨e, after, hload, hkept⟩ := hholds.load_of_not_legible hillegible
    have hread : Store.load store = (.error e, after) := hload
    rwa [persist_of_load_error hread]
  · exact hholds

/-- **A property file that cannot be read is never overwritten.**  Let a property file hold bytes
that are not those of a text in UTF-8, or of a text that is neither blank nor an object of texts.

* Reading it fails, and applying any batch but an empty one fails with the same error; both leave the
  bytes as they are.
* Of a gate that stores its declarations there, any requests are answered, change the gate and are told
  to the metrics as over any other store, one that works among them, and leave the bytes as they are.

Whatever a property file holds, a batch lands whole or not at all.

* If it succeeds, the file could be read before, and is then read as these properties with the writes
  of the batch applied in their order.
* If it fails, the bytes are as they were. -/
theorem illegible_file_is_never_overwritten (store : FileStore) :
    (∀ path content, store.Holds path content → ¬ FileStore.Legible content →
      (∃ e after, store.load = (.error e, after) ∧ after.Holds path content ∧
        ∀ batch, batch ≠ [] → store.apply batch = (.error e, after, [])) ∧
      ∀ {G H : Type} [Guard G] (gate : Gate G H) (requests : List (Request G H)),
        (∀ {S : Type} [Store S] (other : S),
          Run.trace serveMetered gate store (requests.map Turn.calm) =
            Run.trace serveMetered gate other (requests.map Turn.calm)) ∧
        (Run.final serveMetered gate store (requests.map Turn.calm)).2.Holds path content) ∧
    (∀ batch after entries, batch ≠ [] → store.apply batch = (.ok (), after, entries) →
      ∃ properties, store.load.1 = .ok properties ∧
        after.load.1 = .ok (Write.applyAll properties batch)) ∧
    (∀ path content batch e after entries, store.Holds path content →
      store.apply batch = (.error e, after, entries) → after.Holds path content) := by
  refine ⟨fun path content hholds hillegible => ⟨?_, fun gate requests => ⟨fun other => ?_, ?_⟩⟩,
    fun batch after entries hne happly => FileStore.load_of_apply_ok hne happly,
    fun path content batch e after entries hholds happly => ?_⟩
  · obtain ⟨e, after, hload, hkept⟩ := hholds.load_of_not_legible hillegible
    exact ⟨e, after, hload, hkept, fun batch hne => FileStore.apply_of_load_error hne hload⟩
  · exact trace_serveMetered gate store other requests
  · refine Run.final_calm_of_step (fun _ (reached : FileStore) => reached.Holds path content)
      (fun reached present request hkept => ?_) hholds requests
    exact holds_serve hkept hillegible reached request
  · rw [FileStore.eq_load_of_apply_error happly]
    exact hholds.load

/-- A property file in a directory of its own, with these bytes. -/
def nestedBytes (content : ByteArray) : FileStore :=
  { FileStore.nested none with
    files := (FileStore.nested none).files.put ["nested", "props.json"] (.file content) }

theorem not_legible_of_read {store : FileStore} {path : String} {content : ByteArray}
    (hholds : store.Holds path content) (hread : store.read.toOption = none) :
    ¬ FileStore.Legible content := by
  intro hlegible
  obtain ⟨properties, hproperties⟩ := hholds.exists_read_iff.mpr hlegible
  rw [hproperties] at hread
  cases hread

/-- A number stands where a text should, or the bytes are no text at all; neither file is changed, by
a batch or by a gate over it.  A batch over a blank file lands whole. -/
theorem illegible_files_stay :
    let number := "\x7b\"a\": 1\x7d".toUTF8
    let torn : ByteArray := ⟨#[0x7b, 0xff]⟩
    let gate : Gate PacketGuard Nat := loaded "packet" Layout.packets Table.empty
    let requests : List (Request PacketGuard Nat) :=
      [.register "audit" 1 PacketGuard.everything, .unregister "audit" true, .releaseAll]
    let batch : List Write := [.set "a" "2", .set "b" "3", .remove "a"]
    (∃ e after, (nestedBytes number).apply batch = (.error e, after, []) ∧
      after.Holds "nested/props.json" number) ∧
    Run.trace serveMetered gate (nestedBytes torn) (requests.map Turn.calm) =
      Run.trace serveMetered gate (FileStore.nested none) (requests.map Turn.calm) ∧
    (Run.final serveMetered gate (nestedBytes torn) (requests.map Turn.calm)).2.Holds
      "nested/props.json" torn ∧
    ∃ after entries, (FileStore.nested (some " \n")).apply batch = (.ok (), after, entries) ∧
      after.load.1 = .ok (Table.ofList [("b", "3")]) := by
  intro number torn gate requests batch
  have hnumber : (nestedBytes number).Holds "nested/props.json" number :=
    ⟨rfl, FileStore.eq_ok_of_toOption (by decide +kernel)⟩
  have htorn : (nestedBytes torn).Holds "nested/props.json" torn :=
    ⟨rfl, FileStore.eq_ok_of_toOption (by decide +kernel)⟩
  obtain ⟨hspoiled, -, -⟩ := illegible_file_is_never_overwritten (nestedBytes number)
  obtain ⟨hrunning, -, -⟩ := illegible_file_is_never_overwritten (nestedBytes torn)
  obtain ⟨-, hlands, -⟩ := illegible_file_is_never_overwritten (FileStore.nested (some " \n"))
  obtain ⟨⟨e, after, -, hkept, happly⟩, -⟩ :=
    hspoiled _ _ hnumber (not_legible_of_read hnumber (by decide +kernel))
  obtain ⟨-, hgate⟩ := hrunning _ _ htorn (not_legible_of_read htorn (by decide +kernel))
  obtain ⟨htrace, hfinal⟩ := hgate gate requests
  have hblank : (FileStore.nested (some " \n")).load.1 = .ok Table.empty :=
    FileStore.eq_ok_of_toOption (by decide +kernel)
  have hlanded : ((FileStore.nested (some " \n")).apply batch).1 = .ok () :=
    FileStore.eq_ok_of_toOption (by decide +kernel)
  refine ⟨⟨e, after, happly batch (List.cons_ne_nil _ _), hkept⟩, htrace _, hfinal, ?_⟩
  generalize happlied : (FileStore.nested (some " \n")).apply batch = outcome at hlanded
  obtain ⟨answer, written, entries⟩ := outcome
  obtain rfl : answer = .ok () := hlanded
  obtain ⟨properties, hbefore, hafter⟩ := hlands batch _ _ (List.cons_ne_nil _ _) happlied
  obtain rfl := Except.ok.inj (hblank.symm.trans hbefore)
  exact ⟨written, entries, rfl, hafter.trans (congrArg Except.ok (by decide +kernel))⟩

end TrafficGate.Gate
