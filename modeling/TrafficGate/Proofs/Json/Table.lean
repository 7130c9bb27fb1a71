import TrafficGate.Json.Wire
import TrafficGate.Proofs.Json.Literal
import TrafficGate.Proofs.Json.Record
import TrafficGate.Proofs.Table.Lookups

/-!
# Json — Tables of texts

A table of texts that is written, one line for each entry, is read back
(`ofJson?_parse_renderTable`).

* `readMembers_line`: one line, and what follows it.
* `readMembers_lines`: all lines up to the closing brace.
-/

namespace TrafficGate.Json

/-! ### Blanks -/

/-- Members are read alike behind blanks. -/
theorem readMembers_skipSpace (n : Nat) (cs : List Char) :
    readMembers n (skipSpace cs) = readMembers n cs := by
  cases n with
  | zero => rfl
  | succ n => rw [readMembers, readMembers, skipSpace_skipSpace]

/-! ### Lines -/

/-- The member of an object that a line is read as. -/
def tableMember (entry : String × String) : Literal × Json := (.text entry.1, ofText entry.2)

/-- **One line.**  Behind it stands a comma and further members, or the closing brace. -/
theorem readMembers_line (n : Nat) (entry : String × String) (rest : List Char) :
    readMembers (n + 2) (tableLine entry ++ rest) =
      match skipSpace rest with
      | ',' :: rest =>
        (readMembers (n + 1) rest).map fun (members, rest) => (tableMember entry :: members, rest)
      | '\x7d' :: rest => some ([tableMember entry], rest)
      | _ => none := by
  have hline : tableLine entry ++ rest =
      ' ' :: ' ' :: (quoted entry.1 ++ ':' :: ' ' :: (quoted entry.2 ++ rest)) := by
    simp [tableLine]
  have hkey : skipSpace (tableLine entry ++ rest) =
      '"' :: (entry.1.toList.flatMap quotedChar ++ '"' :: ':' :: ' ' :: (quoted entry.2 ++ rest)) := by
    rw [hline, skipSpace_of_isSpace rfl, skipSpace_of_isSpace rfl, skipSpace_quoted]
  have hvalue : skipSpace (' ' :: (quoted entry.2 ++ rest)) =
      '"' :: (entry.2.toList.flatMap quotedChar ++ '"' :: rest) := by
    rw [skipSpace_of_isSpace rfl, skipSpace_quoted]
  exact readMembers_of_readValue hkey (skipSpace_of_not_isSpace rfl _) (readValue_of_quoted hvalue n)

/-- The text of lines, from the first one to the closing brace. -/
def tableBody (entries : List (String × String)) : List Char :=
  ",\n".toList.intercalate (entries.map tableLine) ++ ['\n', '\x7d']

theorem tableBody_singleton (entry : String × String) :
    tableBody [entry] = tableLine entry ++ ['\n', '\x7d'] := by
  simp [tableBody]

theorem tableBody_cons_cons (entry next : String × String) (entries : List (String × String)) :
    tableBody (entry :: next :: entries) =
      tableLine entry ++ ',' :: '\n' :: tableBody (next :: entries) := by
  simp [tableBody, List.intercalate_cons_cons]

theorem length_lt_length_tableBody (entries : List (String × String)) :
    entries.length < (tableBody entries).length := by
  induction entries with
  | nil => simp [tableBody]
  | cons entry entries ih =>
      cases entries with
      | nil => simp [tableBody]
      | cons next entries =>
          rw [tableBody_cons_cons]
          simp only [List.length_cons, List.length_append] at ih ⊢
          omega

/-- **All lines.**  They are read as the members of the object, if there are enough calls. -/
theorem readMembers_lines (entry : String × String) (entries : List (String × String)) :
    ∀ n, entries.length < n → readMembers (n + 1) (tableBody (entry :: entries)) =
      some ((entry :: entries).map tableMember, []) := by
  induction entries generalizing entry with
  | nil =>
      intro n hn
      obtain ⟨m, rfl⟩ := Nat.exists_eq_add_of_lt hn
      rw [tableBody_singleton]
      exact readMembers_line _ _ _
  | cons next entries ih =>
      intro n hn
      obtain ⟨m, rfl⟩ := Nat.exists_eq_add_of_lt hn
      have hnext := ih next (entries.length + 1 + m) (by omega)
      rw [← readMembers_skipSpace] at hnext
      rw [tableBody_cons_cons, List.length_cons, readMembers_line, skipSpace_of_not_isSpace rfl]
      show Option.map _ (readMembers _ _) = _
      rw [← readMembers_skipSpace, skipSpace_of_isSpace rfl, hnext]
      rfl

/-! ### Whole tables -/

/-- Behind the blanks of the first line stands its key. -/
theorem skipSpace_tableBody (entry : String × String) (entries : List (String × String)) :
    ∃ cs, skipSpace ('\n' :: tableBody (entry :: entries)) = '"' :: cs := by
  have hfront : ∃ cs, tableBody (entry :: entries) = ' ' :: ' ' :: '"' :: cs := by
    cases entries with
    | nil => exact ⟨_, by rw [tableBody_singleton, tableLine, quoted]; rfl⟩
    | cons next entries => exact ⟨_, by rw [tableBody_cons_cons, tableLine, quoted]; rfl⟩
  obtain ⟨cs, hcs⟩ := hfront
  refine ⟨cs, ?_⟩
  rw [hcs, skipSpace_of_isSpace rfl, skipSpace_of_isSpace rfl, skipSpace_of_isSpace rfl,
    skipSpace_of_not_isSpace rfl]

/-- A written table is read as an object with a member for each entry. -/
theorem parse_renderTable (table : Table String) :
    parse (renderTable table) = some (.object (table.entries.map tableMember)) := by
  unfold renderTable
  cases table.entries with
  | nil => rfl
  | cons entry entries =>
      have htext : '\x7b' :: '\n' :: ",\n".toList.intercalate ((entry :: entries).map tableLine) ++
          ['\n', '\x7d'] = '\x7b' :: '\n' :: tableBody (entry :: entries) := rfl
      obtain ⟨cs, hcs⟩ := skipSpace_tableBody entry entries
      -- the text is longer than its lines are many, so the calls suffice
      have hread : readMembers ((tableBody (entry :: entries)).length + 2) ('"' :: cs) =
          some ((entry :: entries).map tableMember, []) := by
        rw [← hcs, readMembers_skipSpace, ← readMembers_skipSpace, skipSpace_of_isSpace rfl,
          readMembers_skipSpace]
        have hlength := length_lt_length_tableBody (entry :: entries)
        exact readMembers_lines entry entries _ (Nat.lt_succ_of_lt (Nat.lt_of_succ_lt hlength))
      simp only [htext]
      rw [parse, String.toList_ofList, List.length_cons, List.length_cons, readValue,
        skipSpace_of_not_isSpace rfl]
      simp only [hcs]
      show Option.bind (Option.map _ (readMembers _ ('"' :: cs))) _ = _
      rw [hread]
      rfl

/-- The members that are written for entries are read as these entries. -/
theorem ofJson?_object_tableMember (entries : List (String × String)) :
    Properties.ofJson? (.object (entries.map tableMember)) = some (Table.ofList entries) := by
  rw [Properties.ofJson?, mapM_map_eq_some, List.map_id]
  · rfl
  · exact fun _ _ => rfl

/-- **A written table is read back.** -/
theorem ofJson?_parse_renderTable (table : Table String) :
    (parse (renderTable table)).bind Properties.ofJson? = some table := by
  rw [parse_renderTable, Option.bind_some, ofJson?_object_tableMember, Table.ofList_entries]

end TrafficGate.Json
