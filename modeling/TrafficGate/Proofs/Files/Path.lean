import TrafficGate.Files.Path
import TrafficGate.Proofs.Text.Tokens

/-!
# Files — Last names

The last name of a path, and the path of another name beside it.

* `exists_last_piece`: a path is cut behind its last slash.
* `names_child`: a name in a directory is walked through last.
* `name?_of_getLast?_names`: what is walked through last is the last name, if it is a proper one and
  no slash stands behind it.
* `getLast?_names_withName`: another last name is walked through last.
-/

namespace TrafficGate.Path

/-- A name that is walked through is not empty, and no slash is in it. -/
theorem of_mem_names {path name : String} (h : name ∈ names path) :
    '/' ∉ name.toList ∧ name ≠ "" := by
  simp only [names, Text.pieces, List.mem_filter, List.mem_map, decide_eq_true_eq] at h
  obtain ⟨⟨piece, hpiece, rfl⟩, hne⟩ := h
  exact ⟨by simpa using Text.separator_not_mem hpiece, hne⟩

@[simp] theorem names_empty : names "" = [] := rfl

theorem names_of_not_mem {name : String} (hname : '/' ∉ name.toList) (hne : name ≠ "") :
    names name = [name] := by
  rw [names, Text.pieces_of_not_mem hname, List.filter_cons_of_pos (by simpa using hne),
    List.filter_nil]

theorem names_append (s t : String) : names (s ++ "/" ++ t) = names s ++ names t := by
  rw [names, Text.pieces_append rfl, List.filter_append]
  rfl

/-! ### The last piece -/

/-- A path is a single piece, or it has a last piece behind a slash. -/
theorem exists_last_piece (path : String) :
    ∃ piece, '/' ∉ piece.toList ∧ (path = piece ∨ ∃ front, path = front ++ "/" ++ piece) := by
  by_cases hmem : '/' ∈ path.toList
  · obtain ⟨back, front, hsplit, hback⟩ :=
      List.eq_append_cons_of_mem (List.mem_reverse.mpr hmem)
    refine ⟨String.ofList back.reverse, by simpa using hback,
      .inr ⟨String.ofList front.reverse, ?_⟩⟩
    rw [← String.toList_inj, ← List.reverse_inj]
    simpa using hsplit
  · exact ⟨path, hmem, .inl rfl⟩

theorem endsWithSlash_slash (s : String) : endsWithSlash (s ++ "/") = true := by
  simp [endsWithSlash]

theorem endsWithSlash_append (s : String) {t : String} (hslash : '/' ∉ t.toList) (hne : t ≠ "") :
    endsWithSlash (s ++ t) = false := by
  have hlast : t.toList ≠ [] := fun e => hne (String.toList_eq_nil_iff.mp e)
  have hchar : t.toList.getLast hlast ≠ '/' := fun e => hslash (e ▸ List.getLast_mem hlast)
  rw [endsWithSlash, String.toList_append, List.getLast?_append,
    List.getLast?_eq_some_getLast hlast]
  simpa using hchar

/-- A path that ends with a slash has nothing behind its last slash. -/
theorem exists_front_of_endsWithSlash {path : String} (h : endsWithSlash path = true) :
    ∃ front, path = front ++ "/" ++ "" := by
  obtain ⟨piece, hpiece, hpath⟩ := exists_last_piece path
  by_cases hne : piece = ""
  · subst hne
    rcases hpath with rfl | hpath
    · exact absurd h (by decide)
    · exact hpath
  · have hnot : endsWithSlash path = false := by
      rcases hpath with rfl | ⟨front, rfl⟩
      · simpa using endsWithSlash_append "" hpiece hne
      · exact endsWithSlash_append _ hpiece hne
    exact absurd h (by simp [hnot])

/-- What is walked through last is the last piece, unless a slash stands behind it. -/
theorem getLast?_pieces {path name : String} (hlast : (names path).getLast? = some name)
    (hslash : endsWithSlash path = false) : (Text.pieces '/' path).getLast? = some name := by
  obtain ⟨piece, hpiece, hpath⟩ := exists_last_piece path
  have hne : piece ≠ "" := by
    rintro rfl
    rcases hpath with rfl | ⟨front, rfl⟩
    · simp at hlast
    · rw [String.append_empty, endsWithSlash_slash] at hslash
      cases hslash
  rcases hpath with rfl | ⟨front, rfl⟩
  · rwa [names_of_not_mem hpiece hne, ← Text.pieces_of_not_mem hpiece] at hlast
  · rw [names_append, names_of_not_mem hpiece hne, List.getLast?_concat] at hlast
    rw [Text.pieces_append rfl, Text.pieces_of_not_mem hpiece, List.getLast?_concat, hlast]

/-! ### Names in a directory -/

/-- **A name in a directory** is walked through last. -/
theorem names_child (directory : String) {name : String} (hname : '/' ∉ name.toList)
    (hne : name ≠ "") : names (child directory name) = names directory ++ [name] := by
  unfold child
  split
  · rename_i hopen
    by_cases hempty : directory = ""
    · rw [hempty, String.empty_append, names_of_not_mem hname hne, names_empty, List.nil_append]
    · obtain ⟨front, hfront⟩ := exists_front_of_endsWithSlash (by simpa [hempty] using hopen)
      rw [hfront, names_append front, names_empty, List.append_nil, String.append_empty, names_append,
        names_of_not_mem hname hne]
  · rw [names_append, names_of_not_mem hname hne]

theorem endsWithSlash_child (directory : String) {name : String} (hname : '/' ∉ name.toList)
    (hne : name ≠ "") : endsWithSlash (child directory name) = false := by
  unfold child
  split <;> exact endsWithSlash_append _ hname hne

/-! ### Proper names -/

theorem trimmed_of_getLast? {pieces : List String} {name : String}
    (h : pieces.getLast? = some name) (hname : isSilent name = false) : trimmed pieces = pieces := by
  obtain ⟨front, rfl⟩ := List.getLast?_eq_some_iff.mp h
  rw [trimmed, List.reverse_concat, List.dropWhile_cons_of_neg (by simp [hname]),
    ← List.reverse_concat, List.reverse_reverse]

/-- **The last name.**  It is what is walked through last, if this is a proper name and no slash
stands behind it. -/
theorem name?_of_getLast?_names {path name : String} (hlast : (names path).getLast? = some name)
    (hslash : endsWithSlash path = false) (hdot : name ≠ ".") (hdots : name ≠ "..") :
    name? path = some name := by
  have hpieces := getLast?_pieces hlast hslash
  have hne : name ≠ "" := (of_mem_names (List.mem_of_getLast? hlast)).2
  have hspeaks : isSilent name = false := by simp [isSilent, hne, hdot]
  rw [name?, split]
  cases hcut : Text.pieces '/' path with
  | nil => simp [hcut] at hpieces
  | cons first rest =>
      rw [hcut, List.getLast?_cons, Option.some_inj] at hpieces
      have htrimmed : trimmed rest = rest := by
        cases hrest : rest.getLast? with
        | none => rw [List.getLast?_eq_none_iff.mp hrest]; rfl
        | some last =>
            rw [hrest, Option.getD_some] at hpieces
            exact trimmed_of_getLast? hrest (hpieces ▸ hspeaks)
      simp only [htrimmed, hpieces, hspeaks, decide_eq_false hdots, Bool.or_self,
        Bool.false_eq_true, if_false]

/-- Another last name is walked through last. -/
theorem getLast?_names_withName (path : String) {name : String} (hname : '/' ∉ name.toList)
    (hne : name ≠ "") : (names (withName path name)).getLast? = some name := by
  rw [withName, names_child _ hname hne, List.getLast?_concat]

end TrafficGate.Path
