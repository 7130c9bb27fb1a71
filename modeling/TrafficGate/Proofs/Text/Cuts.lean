import Mathlib.Data.List.TakeDrop
import Mathlib.Data.List.TakeWhile
import TrafficGate.Text.Pieces

/-!
# Text — Cuts

A text that is cut at the first separator: what stands before it has none, and whatever stands behind
it may have more (`cutFirst_eq_some_iff`).  A text without a separator is not cut
(`cutFirst_eq_none_iff`).
-/

namespace TrafficGate.Text

variable {separator : Char} {between s before after : String}

/-- **The first separator.**  A text is cut where a separator follows characters that are none. -/
theorem cutFirst_eq_some_iff (hbetween : between.toList = [separator]) :
    cutFirst separator s = some (before, after) ↔
      separator ∉ before.toList ∧ s = before ++ between ++ after := by
  have hchars : s = before ++ between ++ after ↔
      s.toList = before.toList ++ separator :: after.toList := by
    rw [← String.toList_inj]
    simp [hbetween]
  rw [hchars, cutFirst, List.span_eq_takeWhile_dropWhile]
  constructor
  · intro h
    cases hrest : s.toList.dropWhile (fun c => decide (c ≠ separator)) with
    | nil =>
        rw [hrest] at h
        cases h
    | cons first rest =>
        -- the walk stopped, so the character where it did is the separator
        have hstop := List.head?_dropWhile_not (fun c => decide (c ≠ separator)) s.toList
        rw [hrest] at h hstop
        obtain rfl : first = separator := by simpa using hstop
        obtain ⟨rfl, rfl⟩ := Prod.mk.inj (Option.some.inj h)
        rw [String.toList_ofList, String.toList_ofList]
        refine ⟨fun hmem => ?_, ?_⟩
        · simpa using List.mem_takeWhile_imp hmem
        · rw [← hrest, List.takeWhile_append_dropWhile]
  · rintro ⟨hbefore, hs⟩
    have hkept : ∀ c ∈ before.toList, decide (c ≠ separator) = true := fun c hc =>
      decide_eq_true fun e => hbefore (e ▸ hc)
    rw [hs, List.takeWhile_append_of_pos hkept, List.dropWhile_append_of_pos hkept]
    simp

theorem cutFirst_eq_none_iff : cutFirst separator s = none ↔ separator ∉ s.toList := by
  rw [cutFirst, List.span_eq_takeWhile_dropWhile]
  constructor
  · intro h hmem
    cases hrest : s.toList.dropWhile (fun c => decide (c ≠ separator)) with
    | nil => simpa using List.dropWhile_eq_nil_iff.mp hrest separator hmem
    | cons first rest =>
        rw [hrest] at h
        cases h
  · intro h
    have hrest : s.toList.dropWhile (fun c => decide (c ≠ separator)) = [] :=
      List.dropWhile_eq_nil_iff.mpr fun c hc => decide_eq_true fun e => h (e ▸ hc)
    rw [hrest]

end TrafficGate.Text
