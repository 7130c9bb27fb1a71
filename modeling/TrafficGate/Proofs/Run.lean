import TrafficGate.Store

/-!
# Run

A run of turns at something that works over a store.  In a turn the store first meets whatever
befalls it from outside: writes by others, a failure that sets in or ends, anything that makes of
one state of the store another.  Then a request is served.

* `final_of_step`, `final_calm_of_step`: what every request keeps, every run keeps.
* `final_of_history`: the same of what ties the thing to everything that was asked and answered.
* `final_of_reports`: the same of what ties the thing to everything that was reported.
* `final_map`: a run of something is seen as a run of a part of it.
* `final_filter`: requests that leave a part of the thing and of its store alone can be deleted from
  a run, as far as that part is concerned.
* `trace_congr`: when requests are served alike over any two stores, so are runs.
-/

namespace TrafficGate

/-- One turn of a run: what befalls the store, and then a request. -/
structure Turn (S R : Type) where
  befalls : S → S
  request : R

/-- A turn in which nothing befalls the store. -/
def Turn.calm {S R : Type} (request : R) : Turn S R := ⟨id, request⟩

namespace Run

variable {P S R A : Type} (serve : P → S → R → Change P S A)

/-- The thing and the store after the turns. -/
def final (thing : P) (store : S) : List (Turn S R) → P × S
  | [] => (thing, store)
  | turn :: rest =>
    let change := serve thing (turn.befalls store) turn.request
    final change.changed change.store rest

/-- What each turn is answered, and the thing after it. -/
def trace (thing : P) (store : S) : List (Turn S R) → List (A × P)
  | [] => []
  | turn :: rest =>
    let change := serve thing (turn.befalls store) turn.request
    (change.result, change.changed) :: trace change.changed change.store rest

/-- What was asked in each turn, and what it was answered. -/
def history (thing : P) (store : S) : List (Turn S R) → List (R × A)
  | [] => []
  | turn :: rest =>
    let change := serve thing (turn.befalls store) turn.request
    (turn.request, change.result) :: history change.changed change.store rest

/-- What was reported in all turns, in order. -/
def reports (thing : P) (store : S) : List (Turn S R) → List Report
  | [] => []
  | turn :: rest =>
    let change := serve thing (turn.befalls store) turn.request
    change.reports ++ reports change.changed change.store rest

variable {serve}

/-- What every request keeps over any store, every run keeps. -/
theorem final_of_step (inv : P → Prop)
    (step : ∀ thing store request, inv thing → inv (serve thing store request).changed)
    {thing : P} (h : inv thing) (store : S) (turns : List (Turn S R)) :
    inv (final serve thing store turns).1 := by
  induction turns generalizing thing store with
  | nil => exact h
  | cons turn rest ih => exact ih (step thing _ turn.request h) _

/-- What every request keeps of the thing and its store, every run keeps in which nothing else
befalls the store. -/
theorem final_calm_of_step (inv : P → S → Prop)
    (step : ∀ thing store request, inv thing store →
      inv (serve thing store request).changed (serve thing store request).store)
    {thing : P} {store : S} (h : inv thing store) (requests : List R) :
    inv (final serve thing store (requests.map Turn.calm)).1
      (final serve thing store (requests.map Turn.calm)).2 := by
  induction requests generalizing thing store with
  | nil => exact h
  | cons request rest ih => exact ih (step thing store request h)

/-- What ties a thing to its past, and is kept when a request and its answer become part of the past,
ties it to the whole history of every run. -/
theorem final_of_history (inv : List (R × A) → P → Prop)
    (step : ∀ past thing store request, inv past thing →
      inv (past ++ [(request, (serve thing store request).result)])
        (serve thing store request).changed)
    {past : List (R × A)} {thing : P} (h : inv past thing) (store : S) (turns : List (Turn S R)) :
    inv (past ++ history serve thing store turns) (final serve thing store turns).1 := by
  induction turns generalizing past thing store with
  | nil => rwa [history, List.append_nil]
  | cons turn rest ih =>
      have hnext := ih (step past thing (turn.befalls store) turn.request h)
        (serve thing (turn.befalls store) turn.request).store
      rwa [List.append_assoc, List.singleton_append] at hnext

/-- What ties a thing to what was told before, and is kept when the reports of a request are told too,
ties it to everything that is told through a run. -/
theorem final_of_reports (inv : List Report → P → Prop)
    (step : ∀ told thing store request, inv told thing →
      inv (told ++ (serve thing store request).reports) (serve thing store request).changed)
    {told : List Report} {thing : P} (h : inv told thing) (store : S) (turns : List (Turn S R)) :
    inv (told ++ reports serve thing store turns) (final serve thing store turns).1 := by
  induction turns generalizing told thing store with
  | nil => rwa [reports, List.append_nil]
  | cons turn rest ih =>
      have hnext := ih (step told thing (turn.befalls store) turn.request h)
        (serve thing (turn.befalls store) turn.request).store
      rwa [List.append_assoc] at hnext

/-- A run of something, seen at a part of it that serves the same requests. -/
theorem final_map {Q B : Type} {part : P → Q} {serve' : Q → S → R → Change Q S B}
    (h : ∀ thing store request,
      part (serve thing store request).changed = (serve' (part thing) store request).changed ∧
        (serve thing store request).store = (serve' (part thing) store request).store)
    (thing : P) (store : S) (turns : List (Turn S R)) :
    part (final serve thing store turns).1 = (final serve' (part thing) store turns).1 := by
  induction turns generalizing thing store with
  | nil => rfl
  | cons turn rest ih =>
      obtain ⟨hpart, hstore⟩ := h thing (turn.befalls store) turn.request
      rw [final, final, ih, hpart, hstore]

/-- **Deleting requests.**  Let `alike` relate two things and their stores.  If it is kept when both
serve a request that matters, and when only the first one serves a request that does not, then a run
is alike to the run of those of its requests that matter. -/
theorem final_filter (matters : R → Bool) (alike : P → S → P → S → Prop)
    (both : ∀ thing store thing' store' request, matters request = true →
      alike thing store thing' store' →
      alike (serve thing store request).changed (serve thing store request).store
        (serve thing' store' request).changed (serve thing' store' request).store)
    (first : ∀ thing store thing' store' request, matters request = false →
      alike thing store thing' store' →
      alike (serve thing store request).changed (serve thing store request).store thing' store')
    {thing thing' : P} {store store' : S} (h : alike thing store thing' store')
    (requests : List R) :
    alike (final serve thing store (requests.map Turn.calm)).1
      (final serve thing store (requests.map Turn.calm)).2
      (final serve thing' store' ((requests.filter matters).map Turn.calm)).1
      (final serve thing' store' ((requests.filter matters).map Turn.calm)).2 := by
  induction requests generalizing thing store thing' store' with
  | nil => exact h
  | cons request rest ih =>
      cases hmatters : matters request with
      | true =>
          rw [List.filter_cons_of_pos hmatters]
          exact ih (both _ _ _ _ request hmatters h)
      | false =>
          rw [List.filter_cons_of_neg (by rw [hmatters]; exact Bool.false_ne_true)]
          exact ih (first _ _ _ _ request hmatters h)

/-- **Runs over different stores.**  When every request has one answer and one outcome over any two
stores, a run over the one, whatever befalls it, leaves the same trace as a calm run over the
other. -/
theorem trace_congr {S' : Type} {serve' : P → S' → R → Change P S' A}
    (h : ∀ thing store store' request,
      (serve thing store request).result = (serve' thing store' request).result ∧
        (serve thing store request).changed = (serve' thing store' request).changed)
    (thing : P) (store : S) (store' : S') (turns : List (Turn S R)) :
    trace serve thing store turns =
      trace serve' thing store' (turns.map fun turn => Turn.calm turn.request) := by
  induction turns generalizing thing store store' with
  | nil => rfl
  | cons turn rest ih =>
      obtain ⟨hresult, hchanged⟩ := h thing (turn.befalls store) store' turn.request
      simp only [List.map_cons, trace, Turn.calm, id, hresult, hchanged]
      exact congrArg _ (ih _ _ _)

end Run

end TrafficGate
