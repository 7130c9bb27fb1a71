/-!
# Text — Blank

Blank characters, and trimming.  A character is blank when it has the Unicode property
`White_Space`; `trim` drops the blank characters at both ends of a text and keeps the ones inside.

* `trim_eq_self_iff`: a text is unchanged exactly when neither end is blank.
-/

namespace TrafficGate.Text

/-- The code points with the property `White_Space`, as closed ranges. -/
def blankRanges : List (Nat × Nat) :=
  [(0x09, 0x0D), (0x20, 0x20), (0x85, 0x85), (0xA0, 0xA0), (0x1680, 0x1680), (0x2000, 0x200A),
   (0x2028, 0x2029), (0x202F, 0x202F), (0x205F, 0x205F), (0x3000, 0x3000)]

/-- The character has the property `White_Space`. -/
def isBlank (c : Char) : Bool :=
  blankRanges.any fun (first, last) => first ≤ c.toNat && c.toNat ≤ last

/-- The characters without the blank ones at either end. -/
def trimChars (cs : List Char) : List Char :=
  ((cs.dropWhile isBlank).reverse.dropWhile isBlank).reverse

/-- The text without the blank characters at either end. -/
def trim (s : String) : String := String.ofList (trimChars s.toList)

@[simp] theorem toList_trim (s : String) : (trim s).toList = trimChars s.toList := by
  simp [trim]

/-! ### What trimming leaves -/

theorem dropWhile_eq_self_iff {p : Char → Bool} {cs : List Char} :
    cs.dropWhile p = cs ↔ ∀ c, cs.head? = some c → p c = false := by
  cases cs with
  | nil => simp
  | cons c r =>
    by_cases h : p c = true
    · have hne : List.dropWhile p r ≠ c :: r := fun e => by
        have hlen := congrArg List.length e
        have := (List.dropWhile_sublist p : (List.dropWhile p r).Sublist r).length_le
        simp only [List.length_cons] at hlen
        omega
      simp [hne, h]
    · simp [h]

theorem length_dropWhile_le (p : Char → Bool) (cs : List Char) :
    (cs.dropWhile p).length ≤ cs.length :=
  (List.dropWhile_sublist p).length_le

/-- Trimming changes nothing exactly when neither the first nor the last character is blank. -/
theorem trimChars_eq_self_iff {cs : List Char} :
    trimChars cs = cs ↔
      (∀ c, cs.head? = some c → isBlank c = false) ∧
      (∀ c, cs.getLast? = some c → isBlank c = false) := by
  constructor
  · intro h
    have hlen : (cs.dropWhile isBlank).length = cs.length := by
      have h₁ := congrArg List.length h
      have h₂ := length_dropWhile_le isBlank (cs.dropWhile isBlank).reverse
      have h₃ := length_dropWhile_le isBlank cs
      simp [trimChars] at h₁ h₂
      omega
    have hfront : cs.dropWhile isBlank = cs :=
      (List.dropWhile_sublist isBlank).eq_of_length hlen
    refine ⟨dropWhile_eq_self_iff.mp hfront, ?_⟩
    rw [trimChars, hfront] at h
    have hback : cs.reverse.dropWhile isBlank = cs.reverse := by
      rw [← List.reverse_reverse (List.dropWhile isBlank cs.reverse), h]
    simpa using dropWhile_eq_self_iff.mp hback
  · rintro ⟨hfront, hback⟩
    have hback' : cs.reverse.dropWhile isBlank = cs.reverse :=
      dropWhile_eq_self_iff.mpr (by simpa using hback)
    rw [trimChars, dropWhile_eq_self_iff.mpr hfront, hback', List.reverse_reverse]

theorem trim_eq_self_iff {s : String} :
    trim s = s ↔
      (∀ c, s.toList.head? = some c → isBlank c = false) ∧
      (∀ c, s.toList.getLast? = some c → isBlank c = false) := by
  rw [← trimChars_eq_self_iff, ← String.toList_inj, toList_trim]

end TrafficGate.Text
