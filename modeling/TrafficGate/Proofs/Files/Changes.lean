import TrafficGate.Proofs.Files.Places

/-!
# Files — Changes

When a file is made and when its text is replaced, what is read then, and what stays as it was.

* `LeadsTo.ensure_eq_ok_iff`, `replace_eq_ok_iff`: when they succeed, and what they leave.
* `keepsPlaces_of_ensure`, `keepsPlaces_of_replace`: places are kept.
* `KeepsPlaces.ensure`, `KeepsPlaces.replace`: what succeeded once succeeds again.
* `readText_of_replace`, `at?_of_ensure`, `readText_of_ensure`: what stands there afterwards, and the
  texts.
-/

namespace TrafficGate.Files

/-! ### Files under a path -/

section
variable {files : Files} {path name : String} {directory : List String}

/-- What is read of the node under a path. -/
def textOf : Option FileNode → Except FileError String
  | none => .error .notFound
  | some .directory => .error .isDirectory
  | some (.file content) =>
    match String.fromUTF8? content with
    | some text => .ok text
    | none => .error .notText

theorem fromUTF8?_toUTF8 (text : String) : String.fromUTF8? text.toUTF8 = some text := by
  simp only [String.fromUTF8?, String.toUTF8_eq_toByteArray, dif_pos text.isValidUTF8]
  rfl

/-- A text is read of its own bytes and of no others. -/
theorem fromUTF8?_eq_some_iff {content : ByteArray} {text : String} :
    String.fromUTF8? content = some text ↔ text.toUTF8 = content := by
  refine ⟨fun h => ?_, fun h => h ▸ fromUTF8?_toUTF8 text⟩
  unfold String.fromUTF8? at h
  split at h
  · cases h
    rfl
  · cases h

theorem LeadsTo.readText_eq (h : LeadsTo files path directory name) :
    files.readText path = textOf (files.at? (directory ++ [name])) := by
  rw [readText, nodeAt, h.locate_eq]
  simp only [bind, Except.bind]
  cases files.at? (directory ++ [name]) with
  | none => rfl
  | some node =>
      cases node with
      | directory => rfl
      | file content =>
          simp only [textOf, Bool.false_eq_true, if_false]
          show (match String.fromUTF8? content with | some text => _ | none => _) = _
          cases String.fromUTF8? content <;> rfl

theorem LeadsTo.ensure_eq (h : LeadsTo files path directory name) :
    files.ensure path = match files.at? (directory ++ [name]) with
      | some .directory => .error .isDirectory
      | some (.file _) => .ok files
      | none =>
        if isSealed directory then .error .notFound
        else .ok (files.put (directory ++ [name]) (.file ByteArray.empty)) := by
  rw [ensure, h.locate_eq]
  rfl

theorem exists_leadsTo_of_ensure {after : Files} (h : files.ensure path = .ok after) :
    ∃ directory name, LeadsTo files path directory name := by
  obtain ⟨place, hlocate, h⟩ := bind_eq_ok_iff.mp h
  cases place with
  | here directory => cases h
  | entry directory name slash =>
      cases slash with
      | true => cases h
      | false => exact ⟨directory, name, leadsTo_iff.mpr hlocate⟩

/-- **Making sure of a file.**  It succeeds where a file stands, and where one can be made. -/
theorem LeadsTo.ensure_eq_ok_iff (h : LeadsTo files path directory name) {after : Files} :
    files.ensure path = .ok after ↔
      files.at? (directory ++ [name]) ≠ some .directory ∧
      (files.at? (directory ++ [name]) = none → isSealed directory = false) ∧
      after = if (files.at? (directory ++ [name])).isSome then files
        else files.put (directory ++ [name]) (.file ByteArray.empty) := by
  rw [h.ensure_eq]
  cases files.at? (directory ++ [name]) with
  | none =>
      cases isSealed directory with
      | true => simp
      | false => simpa using eq_comm
  | some node =>
      cases node with
      | directory => simp
      | file content => simpa using eq_comm

theorem LeadsTo.replace_eq (h : LeadsTo files path directory name) {beside : String}
    (hshort : ¬ pathLimit < (files.draftPath beside).utf8ByteSize)
    (hbeside : files.nodeAt beside = .ok .directory) (text : String) :
    files.replace beside path text =
      if files.at? (directory ++ [name]) = some .directory then .error .isDirectory
      else .ok (files.put (directory ++ [name]) (.file text.toUTF8)) := by
  rw [replace, if_neg hshort, hbeside, h.locate_eq]
  simp only [bind, Except.bind]
  cases files.at? (directory ++ [name]) with
  | none => rfl
  | some node => cases node <;> rfl

theorem exists_leadsTo_of_replace {beside text : String} {after : Files}
    (h : files.replace beside path text = .ok after) :
    ¬ pathLimit < (files.draftPath beside).utf8ByteSize ∧ files.nodeAt beside = .ok .directory ∧
      ∃ directory name, LeadsTo files path directory name := by
  unfold replace at h
  split at h
  · cases h
  · rename_i hshort
    obtain ⟨node, hbeside, h⟩ := bind_eq_ok_iff.mp h
    cases node with
    | file content => cases h
    | directory =>
        obtain ⟨place, hlocate, h⟩ := bind_eq_ok_iff.mp h
        cases place with
        | here directory => cases h
        | entry directory name slash =>
            cases slash with
            | true => cases h
            | false => exact ⟨hshort, hbeside, directory, name, leadsTo_iff.mpr hlocate⟩

/-- **Replacing a file.**  Whether it succeeds does not depend on the new text. -/
theorem replace_eq_ok_iff {beside text : String} {after : Files} :
    files.replace beside path text = .ok after ↔
      (¬ pathLimit < (files.draftPath beside).utf8ByteSize ∧
        files.nodeAt beside = .ok .directory) ∧
      ∃ directory name, LeadsTo files path directory name ∧
        files.at? (directory ++ [name]) ≠ some .directory ∧
        after = files.put (directory ++ [name]) (.file text.toUTF8) := by
  constructor
  · intro h
    obtain ⟨hshort, hbeside, directory, name, hleads⟩ := exists_leadsTo_of_replace h
    rw [hleads.replace_eq hshort hbeside] at h
    split at h
    · cases h
    · exact ⟨⟨hshort, hbeside⟩, directory, name, hleads, ‹_›, (Except.ok.inj h).symm⟩
  · rintro ⟨⟨hshort, hbeside⟩, directory, name, hleads, hnode, rfl⟩
    rw [hleads.replace_eq hshort hbeside, if_neg hnode]

end

/-! ### After a change -/

section
variable {files after made : Files} {path : String}

theorem keepsPlaces_of_ensure (h : files.ensure path = .ok after) : KeepsPlaces files after := by
  obtain ⟨directory, name, hleads⟩ := exists_leadsTo_of_ensure h
  obtain ⟨hnode, -, rfl⟩ := hleads.ensure_eq_ok_iff.mp h
  split
  · exact KeepsPlaces.refl files
  · exact KeepsPlaces.put _ hleads.isRow hleads.name_ne hnode

theorem keepsPlaces_of_replace {beside text : String}
    (h : files.replace beside path text = .ok after) : KeepsPlaces files after := by
  obtain ⟨-, directory, name, hleads, hnode, rfl⟩ := replace_eq_ok_iff.mp h
  exact KeepsPlaces.put _ hleads.isRow hleads.name_ne hnode

/-- A directory under a path stays there. -/
theorem KeepsPlaces.nodeAt_directory (h : KeepsPlaces files after)
    (hnode : files.nodeAt path = .ok .directory) : after.nodeAt path = .ok .directory := by
  obtain ⟨place, hlocate, hplace⟩ := nodeAt_eq_directory_iff.mp hnode
  refine nodeAt_eq_directory_iff.mpr ⟨place, h.locate hlocate, fun directory name slash hentry => ?_⟩
  have hrow := (of_locate_entry (hentry ▸ hlocate)).1
  exact (h.directory_iff _ hrow).mpr (hplace directory name slash hentry)

/-- What could be made sure of before a change can be made sure of after it. -/
theorem KeepsPlaces.ensure (h : KeepsPlaces files after)
    (hensure : files.ensure path = .ok made) : ∃ made, after.ensure path = .ok made := by
  obtain ⟨directory, name, hleads⟩ := exists_leadsTo_of_ensure hensure
  obtain ⟨hnode, hsealed, -⟩ := hleads.ensure_eq_ok_iff.mp hensure
  refine ⟨_, (h.leadsTo hleads).ensure_eq_ok_iff.mpr ⟨?_, fun hnone => ?_, rfl⟩⟩
  · exact mt (h.directory_iff _ hleads.isRow).mp hnode
  · exact hsealed (Decidable.byContradiction fun hsome => h.stays _ hleads.isRow hsome hnone)

/-- What could be replaced before a change can be replaced after it, by any text. -/
theorem KeepsPlaces.replace (h : KeepsPlaces files after) {beside text : String}
    (hreplace : files.replace beside path text = .ok made) (new : String) :
    ∃ made, after.replace beside path new = .ok made := by
  obtain ⟨⟨hshort, hbeside⟩, directory, name, hleads, hnode, -⟩ := replace_eq_ok_iff.mp hreplace
  refine ⟨_, replace_eq_ok_iff.mpr ⟨⟨?_, h.nodeAt_directory hbeside⟩, directory, name,
    h.leadsTo hleads, mt (h.directory_iff _ hleads.isRow).mp hnode, rfl⟩⟩
  rwa [draftPath, h.home_eq]

/-- A text that has taken the place of another one is read. -/
theorem readText_of_replace {beside text : String}
    (h : files.replace beside path text = .ok after) : after.readText path = .ok text := by
  have hkeeps := keepsPlaces_of_replace h
  obtain ⟨-, directory, name, hleads, -, rfl⟩ := replace_eq_ok_iff.mp h
  rw [(hkeeps.leadsTo hleads).readText_eq, at?_put hleads.isRow hleads.isRow hleads.name_ne,
    if_pos rfl, textOf, fromUTF8?_toUTF8]

/-- Making sure of a file leaves what stands under other names as it is. -/
theorem at?_of_ensure {other name : String} {directory : List String}
    (h : files.ensure other = .ok after) (hrow : IsRow (directory ++ [name]))
    (hother : Path.name? other ≠ some name) :
    after.at? (directory ++ [name]) = files.at? (directory ++ [name]) := by
  obtain ⟨place, last, hplace⟩ := exists_leadsTo_of_ensure h
  obtain ⟨-, -, rfl⟩ := hplace.ensure_eq_ok_iff.mp h
  split
  · rfl
  · have hne : directory ++ [name] ≠ place ++ [last] := by
      intro heq
      have hlast := congrArg List.getLast? heq
      rw [List.getLast?_concat, List.getLast?_concat] at hlast
      exact hother (hplace.name?_eq.trans hlast.symm)
    rw [at?_put hrow hplace.isRow hplace.name_ne, if_neg hne]

theorem readText_of_ensure {other name : String} {directory : List String}
    (h : files.ensure other = .ok after) (hleads : LeadsTo files path directory name)
    (hother : Path.name? other ≠ some name) : after.readText path = files.readText path := by
  rw [((keepsPlaces_of_ensure h).leadsTo hleads).readText_eq, hleads.readText_eq,
    at?_of_ensure h hleads.isRow hother]

/-- Nothing is made where a directory stands. -/
theorem makeDirectories_of_nodeAt (h : files.nodeAt path = .ok .directory) :
    files.makeDirectories path = (.ok (), files) := by
  obtain ⟨above, habove⟩ : ∃ above, Path.ascent path = path :: above := ⟨_, rfl⟩
  have hmake : files.makeDirectory path = .error .alreadyExists := by
    obtain ⟨place, hlocate, hplace⟩ := nodeAt_eq_directory_iff.mp h
    rw [makeDirectory, hlocate]
    simp only [bind, Except.bind]
    cases place with
    | here directory => rfl
    | entry directory name slash =>
        simp only [hplace directory name slash rfl]
        rfl
  rw [makeDirectories, habove, makeAscent]
  split
  · rfl
  · simp only [hmake, settle, isDirectory, h, if_true]

end

end TrafficGate.Files
