import TrafficGate.Proofs.Run

/-!
# Course

A course is a run of something that needs no store: each request is answered and leaves the thing for
the next one.

* `final_of_history`: what ties a thing to everything that was asked and answered, and is kept by every
  request, ties it to the whole history of every course.
* `IsPart.final`, `IsPart.history`: a part of something that works over a store, seen through a run, goes
  its own course, of the requests that concern it alone.
-/

namespace TrafficGate.Course

variable {P R A : Type} (serve : P → R → A × P)

/-- The thing after the requests. -/
def final (thing : P) : List R → P
  | [] => thing
  | request :: rest => final (serve thing request).2 rest

/-- What was asked each time, and what it was answered. -/
def history (thing : P) : List R → List (R × A)
  | [] => []
  | request :: rest => (request, (serve thing request).1) :: history (serve thing request).2 rest

variable {serve}

theorem final_of_history (inv : List (R × A) → P → Prop)
    (step : ∀ past thing request, inv past thing →
      inv (past ++ [(request, (serve thing request).1)]) (serve thing request).2)
    {past : List (R × A)} {thing : P} (h : inv past thing) (requests : List R) :
    inv (past ++ history serve thing requests) (final serve thing requests) := by
  induction requests generalizing past thing with
  | nil => rwa [history, List.append_nil]
  | cons request rest ih =>
      have hnext := ih (step past thing request h)
      rwa [List.append_assoc, List.singleton_append] at hnext

/-! ### Parts -/

section

variable {Q S E B : Type} (addressed : R → Option E) (heard : A → Option B)

/-- What was asked of a part, and what it was answered, when a request was addressed to it. -/
def concerning (served : R × A) : Option (E × B) :=
  (addressed served.1).bind fun edit => (heard served.2).map (edit, ·)

/-- A part of something, to which some of the requests are addressed: such a request has the answer
that the part gives, and makes of the part what the part makes of itself; any other request leaves the
part alone. -/
structure IsPart (whole : P → S → R → Change P S A) (serve : Q → E → B × Q) (part : P → Q) :
    Prop where
  within : ∀ thing store {request edit}, addressed request = some edit →
    heard (whole thing store request).result = some (serve (part thing) edit).1 ∧
      part (whole thing store request).changed = (serve (part thing) edit).2
  aside : ∀ thing store {request}, addressed request = none →
    part (whole thing store request).changed = part thing

namespace IsPart

variable {addressed : R → Option E} {heard : A → Option B} {whole : P → S → R → Change P S A}
  {serve : Q → E → B × Q} {part : P → Q}

/-- The part after a run. -/
theorem final (h : IsPart addressed heard whole serve part) (thing : P) (store : S)
    (turns : List (Turn S R)) :
    part (Run.final whole thing store turns).1 =
      Course.final serve (part thing) ((turns.map (·.request)).filterMap addressed) := by
  induction turns generalizing thing store with
  | nil => rfl
  | cons turn rest ih =>
      rw [Run.final, ih, List.map_cons]
      cases hturn : addressed turn.request with
      | none => rw [List.filterMap_cons_none hturn, h.aside _ _ hturn]
      | some edit =>
          rw [List.filterMap_cons_some hturn, (h.within _ _ hturn).2, Course.final]

/-- What was asked of the part and what it was answered, through a run. -/
theorem history (h : IsPart addressed heard whole serve part) (thing : P) (store : S)
    (turns : List (Turn S R)) :
    (Run.history whole thing store turns).filterMap (concerning addressed heard) =
      Course.history serve (part thing) ((turns.map (·.request)).filterMap addressed) := by
  induction turns generalizing thing store with
  | nil => rfl
  | cons turn rest ih =>
      rw [Run.history, List.filterMap_cons, ih, List.map_cons]
      cases hturn : addressed turn.request with
      | none =>
          rw [List.filterMap_cons_none hturn, h.aside _ _ hturn, concerning, hturn, Option.bind_none]
      | some edit =>
          obtain ⟨hanswer, hpart⟩ := h.within thing (turn.befalls store) hturn
          rw [List.filterMap_cons_some hturn, Course.history, concerning, hturn, hanswer, hpart,
            Option.bind_some, Option.map_some]

end IsPart

end

end TrafficGate.Course
