import TrafficGate.Json.Reader
import TrafficGate.Json.Writer

/-!
# Json — Literals

A text that is written as a string literal is read back (`readLiteral_quoted`), whatever stands behind
the literal.  It is read character by character: what is written for one is read as one part, which
spells it (`readParts_quotedChar`).  Blanks between literals are passed over (`skipSpace_of_isSpace`,
`skipSpace_of_not_isSpace`).  A literal alone is read as a value (`readValue_of_quoted`), and before a
colon and a value as a member of an object (`readMembers_of_readValue`).
-/

namespace TrafficGate.Json

/-- The four digits of a control character are read as its number. -/
theorem number?_controlDigits : ∀ n < 0x20,
    Text.number? 16 ['0', '0', hexDigit (n / 16), hexDigit (n % 16)] = some n := by
  decide

/-- A part in front of the parts that are read. -/
def withPart (part : Part) (read : Option (List Part × List Char)) :
    Option (List Part × List Char) :=
  read.map fun (parts, rest) => (part :: parts, rest)

theorem readParts_escape {e c : Char} (h : escape? e = some c) (rest : List Char) :
    readParts ('\\' :: e :: rest) = withPart (.char c) (readParts rest) := by
  have hu : e ≠ 'u' := by
    rintro rfl
    cases h
  rw [readParts]
  · rw [h]
    cases readParts rest <;> rfl
  · rintro _ _ _ _ _ rfl
    exact absurd rfl hu

theorem readParts_unit {a b c d : Char} {n : Nat} (h : Text.number? 16 [a, b, c, d] = some n)
    (rest : List Char) :
    readParts ('\\' :: 'u' :: a :: b :: c :: d :: rest) = withPart (.unit n) (readParts rest) := by
  rw [readParts, h]
  cases readParts rest <;> rfl

theorem readParts_char {c : Char} (hquote : c ≠ '"') (hslash : c ≠ '\\') (hcontrol : ¬ c.toNat < 0x20)
    (rest : List Char) : readParts (c :: rest) = withPart (.char c) (readParts rest) := by
  rw [readParts]
  · rw [if_neg (not_or.mpr ⟨hcontrol, hslash⟩)]
    cases readParts rest <;> rfl
  · exact hquote
  · exact fun _ _ _ _ _ e => absurd e hslash
  · exact fun _ _ e => absurd e hslash

/-- A code unit that is no half of a surrogate pair spells its character. -/
theorem spell_unit {n : Nat} (hhigh : isHigh n = false) (hlow : isLow n = false)
    (parts : List Part) : spell (.unit n :: parts) = (spell parts).map (Char.ofNat n :: ·) := by
  rw [spell.eq_def]
  simp only [hhigh, hlow, Bool.false_eq_true, if_false]

/-- **One character.**  What is written for it is read as one part, and this part spells it. -/
theorem readParts_quotedChar (c : Char) :
    ∃ part, (∀ rest, readParts (quotedChar c ++ rest) = withPart part (readParts rest)) ∧
      ∀ parts, spell (part :: parts) = (spell parts).map (c :: ·) := by
  unfold quotedChar
  split
  · exact ⟨.char '"', readParts_escape rfl, fun _ => rfl⟩
  · exact ⟨.char '\\', readParts_escape rfl, fun _ => rfl⟩
  · exact ⟨.char '\x08', readParts_escape rfl, fun _ => rfl⟩
  · exact ⟨.char '\x0c', readParts_escape rfl, fun _ => rfl⟩
  · exact ⟨.char '\n', readParts_escape rfl, fun _ => rfl⟩
  · exact ⟨.char '\r', readParts_escape rfl, fun _ => rfl⟩
  · exact ⟨.char '\t', readParts_escape rfl, fun _ => rfl⟩
  · rename_i hquote hslash _ _ _ _ _
    split
    · rename_i hcontrol
      refine ⟨.unit c.toNat, readParts_unit (number?_controlDigits _ hcontrol), fun parts => ?_⟩
      have hhigh : isHigh c.toNat = false := by
        rw [isHigh, decide_eq_false (by omega), Bool.false_and]
      have hlow : isLow c.toNat = false := by
        rw [isLow, decide_eq_false (by omega), Bool.false_and]
      rw [spell_unit hhigh hlow, Char.ofNat_toNat]
    · rename_i hcontrol
      exact ⟨.char c, readParts_char hquote hslash hcontrol, fun _ => rfl⟩

theorem readParts_quoted (cs rest : List Char) :
    ∃ parts, readParts (cs.flatMap quotedChar ++ '"' :: rest) = some (parts, rest) ∧
      spell parts = some cs := by
  induction cs with
  | nil => exact ⟨[], rfl, rfl⟩
  | cons c cs ih =>
      obtain ⟨part, hread, hspell⟩ := readParts_quotedChar c
      obtain ⟨parts, hrest, hcs⟩ := ih
      refine ⟨part :: parts, ?_, ?_⟩
      · rw [List.flatMap_cons, List.append_assoc, hread, hrest]
        rfl
      · rw [hspell, hcs]
        rfl

/-- **A written literal is read back.** -/
theorem readLiteral_quoted (s : String) (rest : List Char) :
    readLiteral (s.toList.flatMap quotedChar ++ '"' :: rest) = some (.text s, rest) := by
  obtain ⟨parts, hread, hspell⟩ := readParts_quoted s.toList rest
  rw [readLiteral, hread]
  simp [hspell]

theorem quoted_append (s : String) (rest : List Char) :
    quoted s ++ rest = '"' :: (s.toList.flatMap quotedChar ++ '"' :: rest) := by
  simp [quoted]

/-! ### Blanks -/

theorem skipSpace_of_isSpace {c : Char} (h : isSpace c = true) (cs : List Char) :
    skipSpace (c :: cs) = skipSpace cs :=
  List.dropWhile_cons_of_pos h

theorem skipSpace_of_not_isSpace {c : Char} (h : isSpace c = false) (cs : List Char) :
    skipSpace (c :: cs) = c :: cs :=
  List.dropWhile_cons_of_neg (Bool.eq_false_iff.mp h)

@[simp] theorem skipSpace_skipSpace (cs : List Char) : skipSpace (skipSpace cs) = skipSpace cs := by
  induction cs with
  | nil => rfl
  | cons c cs ih =>
      cases h : isSpace c with
      | true => rw [skipSpace_of_isSpace h, ih]
      | false => rw [skipSpace_of_not_isSpace h, skipSpace_of_not_isSpace h]

theorem skipSpace_quoted (s : String) (rest : List Char) :
    skipSpace (quoted s ++ rest) = '"' :: (s.toList.flatMap quotedChar ++ '"' :: rest) := by
  rw [quoted_append, skipSpace_of_not_isSpace rfl]

/-! ### Values and members -/

theorem readValue_of_quoted {cs rest : List Char} {s : String}
    (h : skipSpace cs = '"' :: (s.toList.flatMap quotedChar ++ '"' :: rest)) (n : Nat) :
    readValue (n + 1) cs = some (.string (.text s), rest) := by
  rw [readValue, h]
  simp only [readLiteral_quoted]
  rfl

/-- **One member.**  Behind its value stands a comma and further members, or the closing brace. -/
theorem readMembers_of_readValue {n : Nat} {cs literal inside rest : List Char} {name : String}
    {value : Json} (hname : skipSpace cs = '"' :: (name.toList.flatMap quotedChar ++ '"' :: literal))
    (hcolon : skipSpace literal = ':' :: inside) (hvalue : readValue n inside = some (value, rest)) :
    readMembers (n + 1) cs =
      match skipSpace rest with
      | ',' :: rest => (readMembers n rest).map fun (members, rest) =>
          ((.text name, value) :: members, rest)
      | '\x7d' :: rest => some ([(.text name, value)], rest)
      | _ => none := by
  rw [readMembers, hname]
  simp only [readLiteral_quoted, Option.bind_eq_bind, Option.bind_some]
  rw [hcolon]
  simp only [hvalue, Option.bind_some]
  generalize skipSpace rest = following
  split
  · show _ = Option.map _ (readMembers n _)
    cases readMembers n _ <;> rfl
  · rfl
  · simp

end TrafficGate.Json
