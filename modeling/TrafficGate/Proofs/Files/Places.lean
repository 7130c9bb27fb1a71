import TrafficGate.Files
import TrafficGate.Proofs.Files.Path

/-!
# Files — Places

Where paths lead after files have been written.  Between two values of `Files` stands a relation
(`KeepsPlaces`): directories are where they were and nowhere else, and nothing has gone.  It is kept
when a file takes the place of anything but a directory (`KeepsPlaces.put`), and then a path that led
somewhere leads there still (`KeepsPlaces.locate`).

* `at?_put`: a row that ends in a name is told from all others by its key.
* `locate_eq_ok_iff`: a path leads where its last name leads in the directory that is walked to.
* `LeadsTo`: a path leads to a name in a directory, where a file can stand.
* `nodeAt_eq_directory_iff`, `nodeAt_eq_file_iff`: a path leads to a directory, and to a file.
-/

namespace TrafficGate.Files

theorem bind_eq_ok_iff {α β : Type} {x : Except FileError α} {f : α → Except FileError β} {b : β} :
    (x >>= f) = .ok b ↔ ∃ a, x = .ok a ∧ f a = .ok b := by
  cases x with
  | error e => exact ⟨nofun, nofun⟩
  | ok a => exact ⟨fun h => ⟨a, rfl, h⟩, fun ⟨_, ha, h⟩ => Except.ok.inj ha ▸ h⟩

theorem map_eq_ok_iff {α β : Type} {x : Except FileError α} {f : α → β} {b : β} :
    x.map f = .ok b ↔ ∃ a, x = .ok a ∧ b = f a := by
  cases x with
  | error e => exact ⟨nofun, nofun⟩
  | ok a =>
      exact ⟨fun h => ⟨a, rfl, (Except.ok.inj h).symm⟩,
        fun ⟨_, ha, h⟩ => Except.ok.inj ha ▸ h ▸ rfl⟩

/-! ### Rows of names -/

/-- No name of the row holds a slash, so that the row is read off its key. -/
def IsRow (names : List String) : Prop := ∀ name ∈ names, '/' ∉ name.toList

theorem IsRow.concat {directory : List String} {name : String} (hrow : IsRow directory)
    (hname : '/' ∉ name.toList) : IsRow (directory ++ [name]) := by
  intro n hn
  rcases List.mem_append.mp hn with hn | hn
  · exact hrow n hn
  · exact List.mem_singleton.mp hn ▸ hname

theorem IsRow.above {directory : List String} (hrow : IsRow directory) :
    IsRow (above directory) := by
  unfold Files.above
  split
  · exact hrow.concat (by decide)
  · split
    · exact hrow
    · exact fun n hn => hrow n (List.dropLast_subset _ hn)

theorem pieces_key {row : List String} (hrow : IsRow row) (hne : row ≠ []) :
    Text.pieces '/' (key row) = row :=
  Text.pieces_intercalate rfl hrow hne

/-- A row that ends in a name is told from all others by its key. -/
theorem key_eq_iff {row directory : List String} {name : String} (hrow : IsRow row)
    (hentry : IsRow (directory ++ [name])) (hne : name ≠ "") :
    key row = key (directory ++ [name]) ↔ row = directory ++ [name] := by
  refine ⟨fun h => ?_, fun h => h ▸ rfl⟩
  have hpieces := pieces_key hentry (by simp)
  cases row with
  | nil =>
      -- the key of the row without names is empty, and is cut into one empty piece
      rw [← h] at hpieces
      have hlast := congrArg List.getLast? hpieces
      rw [List.getLast?_concat] at hlast
      exact absurd (Option.some.inj hlast).symm hne
  | cons first rest =>
      rw [← pieces_key hrow (List.cons_ne_nil _ _), h, hpieces]

theorem at?_put {files : Files} {row directory : List String} {name : String} {node : FileNode}
    (hrow : IsRow row) (hentry : IsRow (directory ++ [name])) (hne : name ≠ "") :
    (files.put (directory ++ [name]) node).at? row =
      if row = directory ++ [name] then some node else files.at? row := by
  rw [at?, put, Table.get?_insert]
  simp only [key_eq_iff hrow hentry hne]
  split <;> rfl

/-! ### Keeping places -/

/-- Directories are where they were and nowhere else, and nothing has gone. -/
structure KeepsPlaces (files after : Files) : Prop where
  home_eq : after.home = files.home
  directory_iff : ∀ row, IsRow row →
    (after.at? row = some .directory ↔ files.at? row = some .directory)
  stays : ∀ row, IsRow row → files.at? row ≠ none → after.at? row ≠ none

namespace KeepsPlaces

variable {files after : Files}

theorem refl (files : Files) : KeepsPlaces files files :=
  ⟨rfl, fun _ _ => Iff.rfl, fun _ _ h => h⟩

/-- A file takes the place of anything but a directory. -/
theorem put {directory : List String} {name : String} (content : ByteArray)
    (hentry : IsRow (directory ++ [name])) (hne : name ≠ "")
    (hnode : files.at? (directory ++ [name]) ≠ some .directory) :
    KeepsPlaces files (files.put (directory ++ [name]) (.file content)) where
  home_eq := rfl
  directory_iff row hrow := by
    rw [at?_put hrow hentry hne]
    split
    · rename_i heq
      simpa [heq] using hnode
    · rfl
  stays row hrow hsome := by
    rw [at?_put hrow hentry hne]
    split
    · exact Option.some_ne_none _
    · exact hsome

theorem enter (h : KeepsPlaces files after) {directory reached : List String} {name : String}
    (hrow : IsRow directory) (hname : '/' ∉ name.toList)
    (henter : files.enter directory name = .ok reached) :
    after.enter directory name = .ok reached ∧ IsRow reached := by
  unfold Files.enter at henter ⊢
  split at henter
  · cases henter
    exact ⟨if_pos ‹_›, hrow⟩
  · rw [if_neg ‹_›]
    split at henter
    · cases henter
      exact ⟨if_pos ‹_›, hrow.above⟩
    · rw [if_neg ‹_›]
      split at henter
      · cases henter
      · rw [if_neg ‹_›]
        have hentry := hrow.concat hname
        split at henter
        · cases henter
        · cases henter
        · rename_i hdirectory
          cases henter
          rw [(h.directory_iff _ hentry).mpr hdirectory]
          exact ⟨rfl, hentry⟩

/-- Whoever walks through directories arrives in the same one. -/
theorem foldlM_enter (h : KeepsPlaces files after) {names start reached : List String}
    (hnames : IsRow names) (hrow : IsRow start)
    (hwalk : names.foldlM files.enter start = .ok reached) :
    names.foldlM after.enter start = .ok reached ∧ IsRow reached := by
  induction names generalizing start with
  | nil =>
      cases hwalk
      exact ⟨rfl, hrow⟩
  | cons name names ih =>
      rw [List.foldlM_cons] at hwalk ⊢
      cases henter : files.enter start name with
      | error e =>
          rw [henter] at hwalk
          cases hwalk
      | ok next =>
          rw [henter] at hwalk
          obtain ⟨hnext, hnextRow⟩ := h.enter hrow (hnames name List.mem_cons_self) henter
          rw [hnext]
          exact ih (fun n hn => hnames n (List.mem_cons_of_mem _ hn)) hnextRow hwalk

end KeepsPlaces

/-! ### Where a path leads -/

/-- The directory in which a path has its last name. -/
def walk (files : Files) (path : String) : Except FileError (List String) :=
  (Path.names path).dropLast.foldlM files.enter (if Path.isAbsolute path then [""] else [])

/-- Where a path leads from the directory in which it has its last name. -/
def arrive (path : String) (directory : List String) : Except FileError Place :=
  match (Path.names path).getLast? with
  | none => .ok (.here directory)
  | some "." => .ok (.here directory)
  | some ".." => .ok (.here (above directory))
  | some name =>
    if nameLimit < name.utf8ByteSize then .error .tooLong
    else .ok (.entry directory name (Path.endsWithSlash path))

theorem locate_eq_ok_iff {files : Files} {path : String} {place : Place} :
    files.locate path = .ok place ↔
      (¬ path.toList.contains '\x00' ∧ ¬ pathLimit < path.utf8ByteSize ∧ ¬ path = "") ∧
        ∃ directory, files.walk path = .ok directory ∧ arrive path directory = .ok place := by
  have hlocate : files.locate path =
      if path.toList.contains '\x00' then .error .holdsNul
      else if pathLimit < path.utf8ByteSize then .error .tooLong
      else if path = "" then .error .notFound
      else files.walk path >>= arrive path := rfl
  rw [hlocate, ← bind_eq_ok_iff]
  split
  · exact ⟨nofun, fun h => absurd ‹_› h.1.1⟩
  · split
    · exact ⟨nofun, fun h => absurd ‹_› h.1.2.1⟩
    · split
      · exact ⟨nofun, fun h => absurd ‹_› h.1.2.2⟩
      · exact ⟨fun h => ⟨⟨‹_›, ‹_›, ‹_›⟩, h⟩, fun h => h.2⟩

theorem isRow_names (path : String) : IsRow (Path.names path) :=
  fun _ hn => (Path.of_mem_names hn).1

/-- Whoever walks along a path arrives in the same directory. -/
theorem KeepsPlaces.walk {files after : Files} (h : KeepsPlaces files after) {path : String}
    {directory : List String} (hwalk : files.walk path = .ok directory) :
    after.walk path = .ok directory ∧ IsRow directory := by
  have hstart : IsRow (if Path.isAbsolute path then [""] else []) := by
    split
    · exact fun n hn => List.mem_singleton.mp hn ▸ List.not_mem_nil
    · exact fun n hn => absurd hn List.not_mem_nil
  exact h.foldlM_enter (fun n hn => isRow_names path n (List.dropLast_subset _ hn)) hstart hwalk

theorem KeepsPlaces.locate {files after : Files} (h : KeepsPlaces files after) {path : String}
    {place : Place} (hlocate : files.locate path = .ok place) : after.locate path = .ok place := by
  obtain ⟨hsound, directory, hwalk, harrive⟩ := locate_eq_ok_iff.mp hlocate
  exact locate_eq_ok_iff.mpr ⟨hsound, directory, (h.walk hwalk).1, harrive⟩

/-- A path that leads to an entry leads to its last name, which is a proper one. -/
theorem of_locate_entry {files : Files} {path name : String} {directory : List String} {slash : Bool}
    (h : files.locate path = .ok (.entry directory name slash)) :
    IsRow (directory ++ [name]) ∧ (Path.names path).getLast? = some name ∧
      Path.endsWithSlash path = slash ∧ name ≠ "." ∧ name ≠ ".." := by
  obtain ⟨-, reached, hwalk, harrive⟩ := locate_eq_ok_iff.mp h
  have hrow := ((KeepsPlaces.refl files).walk hwalk).2
  unfold arrive at harrive
  split at harrive
  · cases harrive
  · cases harrive
  · cases harrive
  · rename_i last hdot hdots hlast
    split at harrive
    · cases harrive
    · cases harrive
      exact ⟨hrow.concat (isRow_names path _ (List.mem_of_getLast? hlast)), hlast, rfl, hdot, hdots⟩

/-- The path leads to a name in a directory, and no slash stands behind it. -/
structure LeadsTo (files : Files) (path : String) (directory : List String) (name : String) :
    Prop where
  locate_eq : files.locate path = .ok (.entry directory name false)
  isRow : IsRow (directory ++ [name])
  name_ne : name ≠ ""
  name?_eq : Path.name? path = some name

theorem leadsTo_iff {files : Files} {path name : String} {directory : List String} :
    LeadsTo files path directory name ↔
      files.locate path = .ok (.entry directory name false) := by
  refine ⟨LeadsTo.locate_eq, fun hlocate => ?_⟩
  obtain ⟨hrow, hlast, hslash, hdot, hdots⟩ := of_locate_entry hlocate
  exact ⟨hlocate, hrow, (Path.of_mem_names (List.mem_of_getLast? hlast)).2,
    Path.name?_of_getLast?_names hlast hslash hdot hdots⟩

theorem KeepsPlaces.leadsTo {files after : Files} (h : KeepsPlaces files after) {path name : String}
    {directory : List String} (hleads : LeadsTo files path directory name) :
    LeadsTo after path directory name :=
  leadsTo_iff.mpr (h.locate hleads.locate_eq)

/-- What a path to a directory leads to. -/
theorem nodeAt_eq_directory_iff {files : Files} {path : String} :
    files.nodeAt path = .ok .directory ↔ ∃ place, files.locate path = .ok place ∧
      ∀ directory name slash, place = .entry directory name slash →
        files.at? (directory ++ [name]) = some .directory := by
  rw [nodeAt, bind_eq_ok_iff]
  refine exists_congr fun place => and_congr_right fun _ => ?_
  cases place with
  | here directory => exact ⟨fun _ => nofun, fun _ => rfl⟩
  | entry directory name slash =>
      constructor
      · rintro h _ _ _ ⟨⟩
        cases hat : files.at? (directory ++ [name]) with
        | none =>
            simp only [hat] at h
            cases h
        | some node =>
            cases node with
            | directory => rfl
            | file content => cases slash <;> simp only [hat] at h <;> cases h
      · intro hstands
        simp only [hstands directory name slash rfl]
        rfl

/-- What a path to a file leads to. -/
theorem nodeAt_eq_file_iff {files : Files} {path : String} {content : ByteArray} :
    files.nodeAt path = .ok (.file content) ↔ ∃ directory name,
      LeadsTo files path directory name ∧
        files.at? (directory ++ [name]) = some (.file content) := by
  rw [nodeAt, bind_eq_ok_iff]
  constructor
  · rintro ⟨place, hlocate, h⟩
    cases place with
    | here directory => cases h
    | entry directory name slash =>
        cases hat : files.at? (directory ++ [name]) with
        | none =>
            simp only [hat] at h
            cases h
        | some node =>
            cases node with
            | directory =>
                simp only [hat] at h
                cases h
            | file found =>
                cases slash <;> simp only [hat] at h <;> cases h
                exact ⟨directory, name, leadsTo_iff.mpr hlocate, hat⟩
  · rintro ⟨directory, name, hleads, hat⟩
    refine ⟨_, hleads.locate_eq, ?_⟩
    simp only [hat]
    rfl

end TrafficGate.Files
