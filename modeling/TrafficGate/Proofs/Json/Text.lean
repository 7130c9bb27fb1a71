import TrafficGate.Proofs.Json.Literal

/-!
# Json — Compact texts

The compact text of a value that holds no numbers is read back (`parse_render`), and so it tells the
value.

* `Textual`: values made of nulls, flags and texts.
* `ReadsBack`: the text of a value is read back whatever stands behind it.  This is what the induction
  needs, since behind a value inside another one there is more to read.
* `readItems_itemChars`, `readMembers_memberChars`: the inside of arrays and objects.
-/

namespace TrafficGate.Json

/-- The value is made of nulls, flags and texts. -/
inductive Textual : Json → Prop where
  | null : Textual .null
  | bool (b : Bool) : Textual (.bool b)
  | text (s : String) : Textual (.string (.text s))
  | array {items : List Json} (h : ∀ item ∈ items, Textual item) : Textual (.array items)
  | object {members : List (Literal × Json)} (hnames : ∀ member ∈ members, member.1 ≠ .unpaired)
      (h : ∀ member ∈ members, Textual member.2) : Textual (.object members)

/-- A compact text starts with no blank, nor as if an array ended. -/
theorem Textual.head {j : Json} (h : Textual j) :
    ∃ c cs, chars j = c :: cs ∧ isSpace c = false ∧ c ≠ ']' := by
  cases h with
  | null => exact ⟨'n', ['u', 'l', 'l'], by rw [chars]; rfl, rfl, by decide⟩
  | bool b =>
      cases b with
      | true => exact ⟨'t', ['r', 'u', 'e'], by rw [chars]; rfl, rfl, by decide⟩
      | false => exact ⟨'f', ['a', 'l', 's', 'e'], by rw [chars]; rfl, rfl, by decide⟩
  | text s =>
      exact ⟨'"', s.toList.flatMap quotedChar ++ ['"'], by rw [chars]; rfl, rfl, by decide⟩
  | @array items h => exact ⟨'[', itemChars items ++ [']'], by rw [chars]; rfl, rfl, by decide⟩
  | @object members hnames h =>
      exact ⟨'\x7b', memberChars members ++ ['\x7d'], by rw [chars]; rfl, rfl, by decide⟩

/-- The text of the value is read back whatever stands behind it, if more calls are left than it is
long. -/
def ReadsBack (j : Json) : Prop :=
  ∀ n rest, (chars j).length < n → readValue n (chars j ++ rest) = some (j, rest)

theorem ReadsBack.of_succ {j : Json}
    (h : ∀ n rest, (chars j).length ≤ n → readValue (n + 1) (chars j ++ rest) = some (j, rest)) :
    ReadsBack j
  | 0, _, hn => absurd hn (Nat.not_lt_zero _)
  | n + 1, rest, hn => h n rest (Nat.lt_succ_iff.mp hn)

/-! ### Written values -/

theorem Textual.ofOption {α : Type} {write : α → Json} (h : ∀ a, Textual (write a))
    (value : Option α) : Textual (ofOption write value) := by
  cases value with
  | none => exact .null
  | some a => exact h a

theorem Textual.map {α : Type} {write : α → Json} (h : ∀ a, Textual (write a)) (items : List α) :
    Textual (.array (items.map write)) := by
  refine .array fun j hj => ?_
  obtain ⟨a, -, rfl⟩ := List.mem_map.mp hj
  exact h a

theorem Textual.ofFields {fields : List (String × Json)} (h : ∀ field ∈ fields, Textual field.2) :
    Textual (ofFields fields) := by
  refine .object (fun member hmember => ?_) fun member hmember => ?_
  all_goals obtain ⟨field, hfield, rfl⟩ := List.mem_map.mp hmember
  · exact Literal.noConfusion
  · exact h field hfield

/-! ### Arrays -/

theorem itemChars_cons_cons (item next : Json) (items : List Json) :
    itemChars (item :: next :: items) = chars item ++ ',' :: itemChars (next :: items) := by
  rw [itemChars]
  exact List.cons_ne_nil _ _

theorem itemChars_head {item : Json} (h : Textual item) (items : List Json) (rest : List Char) :
    ∃ c cs, itemChars (item :: items) ++ rest = c :: cs ∧ isSpace c = false ∧ c ≠ ']' := by
  obtain ⟨c, cs, hc, hspace, hbracket⟩ := h.head
  cases items with
  | nil => exact ⟨c, _, by rw [itemChars, hc]; rfl, hspace, hbracket⟩
  | cons next items => exact ⟨c, _, by rw [itemChars_cons_cons, hc]; rfl, hspace, hbracket⟩

/-- **One item.**  Behind it stands a comma and further items, or the closing bracket. -/
theorem readItems_item {item : Json} (h : ReadsBack item) {n : Nat} (hn : (chars item).length < n)
    (rest : List Char) :
    readItems (n + 1) (chars item ++ rest) =
      match skipSpace rest with
      | ',' :: rest => (readItems n rest).map fun (items, rest) => (item :: items, rest)
      | ']' :: rest => some ([item], rest)
      | _ => none := by
  rw [readItems, h n rest hn]
  simp only [Option.bind_eq_bind, Option.bind_some]
  generalize skipSpace rest = following
  split
  · show _ = Option.map _ (readItems n _)
    cases readItems n _ <;> rfl
  · rfl
  · simp

/-- **All items** up to the closing bracket. -/
theorem readItems_itemChars {item : Json} {items : List Json}
    (h : ∀ j ∈ item :: items, ReadsBack j) :
    ∀ n rest, (itemChars (item :: items)).length + 1 < n →
      readItems n (itemChars (item :: items) ++ ']' :: rest) = some (item :: items, rest) := by
  induction items generalizing item with
  | nil =>
      rintro (_ | n) rest hn
      · exact absurd hn (Nat.not_lt_zero _)
      rw [itemChars] at hn ⊢
      rw [readItems_item (h item List.mem_cons_self) (by omega), skipSpace_of_not_isSpace rfl]
      rfl
  | cons next items ih =>
      obtain ⟨hitem, hitems⟩ := List.forall_mem_cons.mp h
      rintro (_ | n) rest hn
      · exact absurd hn (Nat.not_lt_zero _)
      rw [itemChars_cons_cons] at hn ⊢
      rw [List.length_append, List.length_cons] at hn
      rw [List.append_assoc, List.cons_append, readItems_item hitem (by omega),
        skipSpace_of_not_isSpace rfl]
      show Option.map _ (readItems n _) = _
      rw [ih hitems n rest (by omega)]
      rfl

/-! ### Objects -/

theorem memberChars_singleton (member : Literal × Json) :
    memberChars [member] = literalChars member.1 ++ ':' :: chars member.2 := by
  rw [memberChars]

theorem memberChars_cons_cons (member next : Literal × Json) (members : List (Literal × Json)) :
    memberChars (member :: next :: members) =
      literalChars member.1 ++ ':' :: chars member.2 ++ ',' :: memberChars (next :: members) := by
  rw [memberChars]
  exact List.cons_ne_nil _ _

theorem literalChars_head {name : Literal} (h : name ≠ .unpaired) :
    ∃ cs, literalChars name = '"' :: cs := by
  cases name with
  | text s => exact ⟨_, rfl⟩
  | unpaired => exact absurd rfl h

theorem memberChars_head {member : Literal × Json} (h : member.1 ≠ .unpaired)
    (members : List (Literal × Json)) (rest : List Char) :
    ∃ cs, memberChars (member :: members) ++ rest = '"' :: cs := by
  obtain ⟨cs, hcs⟩ := literalChars_head h
  cases members with
  | nil => exact ⟨_, by rw [memberChars_singleton, hcs]; rfl⟩
  | cons next members => exact ⟨_, by rw [memberChars_cons_cons, hcs]; rfl⟩

/-- **One member.**  Behind it stands a comma and further members, or the closing brace. -/
theorem readMembers_member {member : Literal × Json} (hname : member.1 ≠ .unpaired)
    (h : ReadsBack member.2) {n : Nat} (hn : (chars member.2).length < n) (rest : List Char) :
    readMembers (n + 1) (literalChars member.1 ++ ':' :: chars member.2 ++ rest) =
      match skipSpace rest with
      | ',' :: rest => (readMembers n rest).map fun (members, rest) => (member :: members, rest)
      | '\x7d' :: rest => some ([member], rest)
      | _ => none := by
  obtain ⟨name | _, value⟩ := member
  case unpaired => exact absurd rfl hname
  rw [List.append_assoc]
  exact readMembers_of_readValue (skipSpace_quoted name _) (skipSpace_of_not_isSpace rfl _)
    (h n rest hn)

/-- **All members** up to the closing brace. -/
theorem readMembers_memberChars {member : Literal × Json} {members : List (Literal × Json)}
    (hnames : ∀ m ∈ member :: members, m.1 ≠ .unpaired)
    (h : ∀ m ∈ member :: members, ReadsBack m.2) :
    ∀ n rest, (memberChars (member :: members)).length + 1 < n →
      readMembers n (memberChars (member :: members) ++ '\x7d' :: rest) =
        some (member :: members, rest) := by
  induction members generalizing member with
  | nil =>
      rintro (_ | n) rest hn
      · exact absurd hn (Nat.not_lt_zero _)
      rw [memberChars_singleton] at hn ⊢
      rw [List.length_append, List.length_cons] at hn
      rw [readMembers_member (hnames member List.mem_cons_self) (h member List.mem_cons_self)
        (by omega), skipSpace_of_not_isSpace rfl]
      rfl
  | cons next members ih =>
      obtain ⟨hname, hfurtherNames⟩ := List.forall_mem_cons.mp hnames
      obtain ⟨hvalue, hfurther⟩ := List.forall_mem_cons.mp h
      rintro (_ | n) rest hn
      · exact absurd hn (Nat.not_lt_zero _)
      rw [memberChars_cons_cons] at hn ⊢
      simp only [List.length_append, List.length_cons] at hn
      rw [List.append_assoc _ (',' :: _), List.cons_append,
        readMembers_member hname hvalue (by omega), skipSpace_of_not_isSpace rfl]
      show Option.map _ (readMembers n _) = _
      rw [ih hfurtherNames hfurther n rest (by omega)]
      rfl

/-! ### Values -/

/-- An array is read item by item, unless it ends at once. -/
theorem readValue_bracket {c : Char} (hspace : isSpace c = false) (hend : c ≠ ']') (n : Nat)
    (cs : List Char) :
    readValue (n + 1) ('[' :: c :: cs) =
      (readItems n (c :: cs)).map fun (items, rest) => (.array items, rest) := by
  rw [readValue, skipSpace_of_not_isSpace rfl]
  simp only [skipSpace_of_not_isSpace hspace]
  split
  · rename_i h
    exact absurd (List.cons.inj h).1 hend
  · rfl

/-- An object is read member by member, if a name comes first. -/
theorem readValue_brace (n : Nat) (cs : List Char) :
    readValue (n + 1) ('\x7b' :: '"' :: cs) =
      (readMembers n ('"' :: cs)).map fun (members, rest) => (.object members, rest) := by
  rw [readValue, skipSpace_of_not_isSpace rfl]
  simp only [skipSpace_of_not_isSpace (c := '"') rfl]
  rfl

theorem ReadsBack.array {items : List Json} (h : ∀ item ∈ items, Textual item)
    (hitems : ∀ item ∈ items, ReadsBack item) : ReadsBack (.array items) := by
  refine .of_succ fun n rest hn => ?_
  have hchars : chars (.array items) ++ rest = '[' :: (itemChars items ++ ']' :: rest) := by
    simp [chars]
  have hlength : (chars (.array items)).length = (itemChars items).length + 2 := by
    simp [chars]
  rw [hchars]
  cases items with
  | nil => rw [itemChars]; rfl
  | cons item items =>
      have hread := readItems_itemChars hitems n rest (by omega)
      obtain ⟨c, cs, hc, hspace, hend⟩ := itemChars_head (h item List.mem_cons_self) items (']' :: rest)
      rw [hc] at hread ⊢
      rw [readValue_bracket hspace hend, hread]
      rfl

theorem ReadsBack.object {members : List (Literal × Json)}
    (hnames : ∀ member ∈ members, member.1 ≠ .unpaired)
    (h : ∀ member ∈ members, ReadsBack member.2) : ReadsBack (.object members) := by
  refine .of_succ fun n rest hn => ?_
  have hchars : chars (.object members) ++ rest =
      '\x7b' :: (memberChars members ++ '\x7d' :: rest) := by
    simp [chars]
  have hlength : (chars (.object members)).length = (memberChars members).length + 2 := by
    simp [chars]
  rw [hchars]
  cases members with
  | nil => rw [memberChars]; rfl
  | cons member members =>
      have hread := readMembers_memberChars hnames h n rest (by omega)
      obtain ⟨cs, hcs⟩ := memberChars_head (hnames member List.mem_cons_self) members ('\x7d' :: rest)
      rw [hcs] at hread ⊢
      rw [readValue_brace, hread]
      rfl

/-- **The text of every such value is read back.** -/
theorem Textual.readsBack {j : Json} (h : Textual j) : ReadsBack j := by
  induction h with
  | null => exact .of_succ fun n rest hn => by rw [chars]; rfl
  | bool b => exact .of_succ fun n rest hn => by cases b <;> rw [chars] <;> rfl
  | text s =>
      refine .of_succ fun n rest hn => ?_
      have hchars : chars (.string (.text s)) = quoted s := by rw [chars]; rfl
      rw [hchars]
      exact readValue_of_quoted (skipSpace_quoted s rest) n
  | array h ih => exact .array h ih
  | object hnames h ih => exact .object hnames ih

/-- **A compact text without numbers is read back.** -/
theorem parse_render {j : Json} (h : Textual j) : parse (render j) = some j := by
  have hread := h.readsBack ((chars j).length + 1) [] (Nat.lt_succ_self _)
  rw [List.append_nil] at hread
  rw [parse, render, String.toList_ofList, hread]
  rfl

end TrafficGate.Json
