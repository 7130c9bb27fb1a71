import Mathlib.Data.List.TakeWhile
import TrafficGate.Text.Pieces

/-!
# Text — Tokens

A token is a text that a list with commas can hold: it is not empty, neither end of it is blank, and
there is no comma in it (`IsToken`).

* `not_isToken_iff`: what keeps a text from being a token, said of its characters.
* `isToken_of_mem_tokens`: every piece that is read from a list is a token.
* `tokens_joined`: tokens with commas between them are read back, each where it stood.

Texts are cut at any other separator in the same way (`pieces_intercalate`, `pieces_append`).
-/

namespace TrafficGate.Text

/-- The text can stand in a list with commas and be read back from it. -/
structure IsToken (t : String) : Prop where
  ne_empty : t ≠ ""
  trim_eq : trim t = t
  no_comma : ',' ∉ t.toList

/-! ### Trimming twice -/

theorem trimChars_sublist (cs : List Char) : (trimChars cs).Sublist cs := by
  have h : ((cs.dropWhile isBlank).reverse.dropWhile isBlank).Sublist
      (cs.dropWhile isBlank).reverse := List.dropWhile_sublist isBlank
  exact (List.reverse_sublist.mp (by simpa [trimChars] using h)).trans
    (List.dropWhile_sublist isBlank)

theorem not_isBlank_of_head?_dropWhile {cs : List Char} {c : Char}
    (h : (cs.dropWhile isBlank).head? = some c) : isBlank c = false := by
  have := List.head?_dropWhile_not isBlank cs
  rw [h] at this
  simpa using this

/-- What is left by trimming at the end still starts with the first character that is not blank. -/
theorem head?_trimChars {cs : List Char} {c : Char} (h : (trimChars cs).head? = some c) :
    (cs.dropWhile isBlank).head? = some c := by
  obtain ⟨front, hfront⟩ := List.dropWhile_suffix (l := (cs.dropWhile isBlank).reverse) isBlank
  have hsplit : cs.dropWhile isBlank = trimChars cs ++ front.reverse := by
    rw [trimChars, ← List.reverse_append, hfront, List.reverse_reverse]
  rw [hsplit, List.head?_append, h, Option.some_or]

@[simp] theorem trimChars_trimChars (cs : List Char) : trimChars (trimChars cs) = trimChars cs := by
  refine trimChars_eq_self_iff.mpr ⟨fun c h => ?_, fun c h => ?_⟩
  · exact not_isBlank_of_head?_dropWhile (head?_trimChars h)
  · rw [trimChars, List.getLast?_reverse] at h
    exact not_isBlank_of_head?_dropWhile h

@[simp] theorem trim_trim (s : String) : trim (trim s) = trim s := by
  rw [← String.toList_inj, toList_trim, toList_trim, trimChars_trimChars]

/-! ### What is no token -/

theorem trimChars_eq_nil_iff {cs : List Char} :
    trimChars cs = [] ↔ ∀ c ∈ cs, isBlank c = true := by
  rw [trimChars, List.reverse_eq_nil_iff, List.dropWhile_eq_nil_iff]
  constructor
  · intro h
    refine List.dropWhile_eq_nil_iff.mp ?_
    cases hrest : cs.dropWhile isBlank with
    | nil => rfl
    | cons c rest =>
        -- the first character that is left would not be blank
        have hleft : isBlank c = false := not_isBlank_of_head?_dropWhile (congrArg List.head? hrest)
        rw [h c (by simp [hrest])] at hleft
        cases hleft
  · intro h c hc
    exact h c ((List.dropWhile_sublist isBlank).subset (List.mem_reverse.mp hc))

theorem trim_eq_empty_iff {s : String} : trim s = "" ↔ ∀ c ∈ s.toList, isBlank c = true := by
  rw [← trimChars_eq_nil_iff, ← toList_trim, String.toList_eq_nil_iff]

/-- What keeps a text from being a token: nothing but blanks, a blank at either end, a comma. -/
theorem not_isToken_iff {s : String} :
    ¬ IsToken s ↔
      (∀ c ∈ s.toList, isBlank c = true) ∨ (∃ c, s.toList.head? = some c ∧ isBlank c = true) ∨
        (∃ c, s.toList.getLast? = some c ∧ isBlank c = true) ∨ ',' ∈ s.toList := by
  constructor
  · intro h
    by_contra hsound
    simp only [not_or, not_exists, not_and, Bool.not_eq_true] at hsound
    obtain ⟨hblank, hfront, hback, hcomma⟩ := hsound
    refine h ⟨fun hempty => hblank ?_, trim_eq_self_iff.mpr ⟨hfront, hback⟩, hcomma⟩
    simp [hempty]
  · rintro (hblank | ⟨c, hc, hblank⟩ | ⟨c, hc, hblank⟩ | hcomma) h
    · exact h.ne_empty (h.trim_eq.symm.trans (trim_eq_empty_iff.mpr hblank))
    · exact Bool.false_ne_true (((trim_eq_self_iff.mp h.trim_eq).1 c hc).symm.trans hblank)
    · exact Bool.false_ne_true (((trim_eq_self_iff.mp h.trim_eq).2 c hc).symm.trans hblank)
    · exact h.no_comma hcomma

/-! ### Reading tokens -/

theorem separator_not_mem {separator : Char} :
    ∀ {cs piece : List Char}, piece ∈ cs.splitOn separator → separator ∉ piece
  | [], piece, h => by simp_all [List.splitOn_nil]
  | c :: cs, piece, h => by
      rw [List.splitOn_cons_eq_if_modifyHead] at h
      split at h
      · rcases List.mem_cons.mp h with rfl | h
        · simp
        · exact separator_not_mem h
      · rename_i hc
        cases hs : cs.splitOn separator with
        | nil => simp [hs] at h
        | cons first rest =>
            rw [hs, List.modifyHead_cons] at h
            have ih : ∀ p ∈ first :: rest, separator ∉ p := fun p hp =>
              separator_not_mem (hs ▸ hp)
            rcases List.mem_cons.mp h with rfl | h
            · have hne : separator ≠ c := fun e => hc (by simp [e])
              simpa [hne] using ih first List.mem_cons_self
            · exact ih piece (List.mem_cons_of_mem _ h)

theorem isToken_of_mem_tokens {s t : String} (h : t ∈ tokens s) : IsToken t := by
  simp only [tokens, pieces, List.mem_filter, List.mem_map, decide_eq_true_eq] at h
  obtain ⟨⟨-, ⟨piece, hpiece, rfl⟩, rfl⟩, hne⟩ := h
  refine ⟨hne, trim_trim _, fun hmem => separator_not_mem hpiece ?_⟩
  rw [toList_trim, String.toList_ofList] at hmem
  exact (trimChars_sublist piece).subset hmem

/-- Texts without the separator, with one between neighbours, are cut into these texts. -/
theorem pieces_intercalate {separator : Char} {between : String}
    (hbetween : between.toList = [separator]) {texts : List String}
    (h : ∀ t ∈ texts, separator ∉ t.toList) (hne : texts ≠ []) :
    pieces separator (between.intercalate texts) = texts := by
  have hlists : ∀ l ∈ texts.map String.toList, separator ∉ l := by simpa using h
  rw [pieces, String.toList_intercalate, hbetween,
    List.splitOn_intercalate separator hlists (by simpa using hne), List.map_map]
  exact (List.map_congr_left fun t _ => String.ofList_toList).trans (List.map_id _)

theorem pieces_joined {texts : List String} (h : ∀ t ∈ texts, ',' ∉ t.toList)
    (hne : texts ≠ []) : pieces ',' (joined "," texts) = texts :=
  pieces_intercalate rfl h hne

/-- Two texts with a separator between them are cut into the pieces of both. -/
theorem pieces_append {separator : Char} {between : String} (hbetween : between.toList = [separator])
    (s t : String) : pieces separator (s ++ between ++ t) = pieces separator s ++ pieces separator t := by
  rw [pieces, String.toList_append, String.toList_append, hbetween, List.append_assoc,
    List.singleton_append, List.splitOn_append_cons_self, List.map_append]
  rfl

/-- Two texts with a comma between them are read one after the other. -/
theorem tokens_append (s t : String) : tokens (s ++ "," ++ t) = tokens s ++ tokens t := by
  rw [tokens, pieces_append rfl, List.map_append, List.filter_append]
  rfl

theorem pieces_of_not_mem {separator : Char} {s : String} (h : separator ∉ s.toList) :
    pieces separator s = [s] := by
  rw [pieces, List.splitOn_eq_singleton h, List.map_singleton, String.ofList_toList]

/-- **Tokens are read back.**  A list of tokens with commas between them is read as that list. -/
theorem tokens_joined {texts : List String} (h : ∀ t ∈ texts, IsToken t) :
    tokens (joined "," texts) = texts := by
  cases texts with
  | nil => rfl
  | cons t rest =>
      rw [tokens, pieces_joined (fun t ht => (h t ht).no_comma) (List.cons_ne_nil _ _)]
      have hmap : (t :: rest).map trim = t :: rest :=
        (List.map_congr_left fun t ht => (h t ht).trim_eq).trans (List.map_id _)
      rw [hmap, List.filter_eq_self.mpr fun t ht => by simpa using (h t ht).ne_empty]

end TrafficGate.Text
