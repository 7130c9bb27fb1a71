import TrafficGate.Proofs.Declarations.Plan
import TrafficGate.Proofs.Gate.Requests
import TrafficGate.Proofs.Store

/-!
# Gate — Storing

What a gate leaves in a store that works.

* `persist_of_load_error`, `persist_of_plan_eq_nil`, `persist_of_plan_ne_nil`: what becomes of a store,
  whether it works or not.
* `keeps_persist`: storing the declarations amounts to the planned writes.
* `get?_persist`: afterwards the owned keys hold what the declarations call for, and the others what
  they held.
* `named_loaded`, `settled_named`: the names that a gate declares are tokens, from loading on.
* `get?_serve`: what a request leaves in a store that never fails.
-/

namespace TrafficGate.Gate

variable {S G H : Type} [Guard G] [Store S]

/-! ### One act of storing -/

/-- A store that cannot be read is given nothing to write. -/
theorem persist_of_load_error {store after : S} {e : StoreError}
    (hread : Store.load store = (.error e, after)) (gate : Gate G H) :
    (gate.persist store).1 = after := by
  simp only [persist, hread]

section

variable {store after : S} {stored : Properties} (hread : Store.load store = (.ok stored, after))
  {gate : Gate G H}

include hread

/-- Nothing is written when nothing is planned. -/
theorem persist_of_plan_eq_nil
    (hplan : gate.layout.plan gate.roll.declarations stored = []) :
    (gate.persist store).1 = after := by
  simp only [persist, hread, hplan]

/-- Whatever is planned is given to the store as one batch. -/
theorem persist_of_plan_ne_nil
    (hplan : gate.layout.plan gate.roll.declarations stored ≠ []) :
    (gate.persist store).1 =
      (Store.apply after (gate.layout.plan gate.roll.declarations stored)).2.1 := by
  simp only [persist, hread]
  rcases Store.apply after (gate.layout.plan gate.roll.declarations stored) with ⟨answer, rest⟩
  cases answer <;> rfl

end

theorem keeps_persist {keeps : S → Properties → Prop} {store : S} {properties : Properties}
    (h : Store.Works keeps store properties) (gate : Gate G H) :
    keeps (gate.persist store).1
      (Write.applyAll properties (gate.layout.plan gate.roll.declarations properties)) := by
  obtain ⟨after, hread, hkept, hbatch⟩ := h
  by_cases hplan : gate.layout.plan gate.roll.declarations properties = []
  · rw [persist_of_plan_eq_nil hread hplan, hplan]
    exact hkept
  · obtain ⟨written, entries, happly, hkept⟩ :=
      hbatch (gate.layout.plan gate.roll.declarations properties)
    rw [persist_of_plan_ne_nil hread hplan, happly]
    exact hkept

/-- **What storing comes to.**  Afterwards the keys that the layout owns hold what the declarations
call for, and every other key what it held. -/
theorem get?_persist {keeps : S → Properties → Prop} {store : S} {properties : Properties}
    (h : Store.Works keeps store properties) {gate : Gate G H}
    (hstems : Guard.dimensions G ≤ gate.layout.stems.length)
    (hnamed : gate.roll.declarations.Named) :
    ∃ stored, keeps (gate.persist store).1 stored ∧ ∀ key, stored.get? key =
      if gate.layout.owns key then (gate.layout.encode gate.roll.declarations).get? key
      else properties.get? key :=
  ⟨_, keeps_persist h gate,
    Layout.get?_applyAll_plan hstems hnamed (fun _ => Iff.rfl) fun _ _ => rfl⟩

/-! ### The names that are declared -/

omit [Store S] in
theorem named_loaded (label : String) (layout : Layout) (stored : Properties) :
    (loaded label layout stored : Gate G H).roll.declarations.Named :=
  Layout.named_decode layout stored

omit [Store S] in
theorem settled_named {gate : Gate G H} (h : gate.roll.declarations.Named)
    (request : Request G H) : (gate.settled request).2.roll.declarations.Named := by
  rcases gate.settled_declarations request with
    ⟨-, hsame⟩ | ⟨-, ⟨name, guard, hname, hinsert⟩ | ⟨name, herase⟩⟩
  · exact hsame ▸ h
  · exact hinsert ▸ h.insert hname _
  · exact herase ▸ h.erase name

theorem final_named {gate : Gate G H} (h : gate.roll.declarations.Named) (store : S)
    (turns : List (Turn S (Request G H))) :
    (Run.final serve gate store turns).1.roll.declarations.Named :=
  Run.final_of_step (fun reached : Gate G H => reached.roll.declarations.Named)
    (fun reached store request h => by rw [serve_changed]; exact settled_named h request)
    h store turns

/-! ### One request -/

/-- **What a request leaves in the store.**  A request that stores the declarations leaves under the
owned keys what they call for then; everything else stays as it was. -/
theorem get?_serve {keeps : S → Properties → Prop} (hstore : Store.NeverFails keeps) {store : S}
    {properties : Properties} (hkeeps : keeps store properties) {gate : Gate G H}
    (hstems : Guard.dimensions G ≤ gate.layout.stems.length)
    (hnamed : gate.roll.declarations.Named) (request : Request G H) :
    ∃ stored, keeps (gate.serve store request).store stored ∧ ∀ key, stored.get? key =
      if gate.layout.owns key && request.persists (gate.settled request).1 then
        (gate.layout.encode (gate.settled request).2.roll.declarations).get? key
      else properties.get? key := by
  have hlayout := (gate.settled_sameSite request).layout
  rw [serve_store]
  cases request.persists (gate.settled request).1 with
  | false =>
      refine ⟨properties, hkeeps, fun key => ?_⟩
      rw [Bool.and_false]
      rfl
  | true =>
      obtain ⟨stored, hstored, hkeys⟩ := get?_persist (hstore store properties hkeeps)
        (hlayout.symm ▸ hstems) (settled_named hnamed request)
      refine ⟨stored, hstored, fun key => ?_⟩
      rw [hkeys key, hlayout, Bool.and_true]

end TrafficGate.Gate
