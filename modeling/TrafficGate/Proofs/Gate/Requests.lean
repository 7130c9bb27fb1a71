import TrafficGate.Gate
import TrafficGate.Proofs.Roll
import TrafficGate.Proofs.Run

/-!
# Gate — Requests

What can be asked of a gate, as one type, and what serving a request does to the gate and to its
store.

* `serve_result`, `serve_changed`: the answer and the gate afterwards do not depend on the store;
  they are `Gate.settled`.
* `serve_store`: the store changes only by `persist`, and only after a request that `persists`.
* `releaseAll_eq`: releasing leaves nothing live and every declaration as it was.
-/

namespace TrafficGate

/-- What is asked of a gate. -/
inductive Request (G H : Type) where
  | register (name : String) (handle : H) (guard : G)
  | unregister (name : String) (forget : Bool)
  | releaseAll

/-- What a gate answers. -/
inductive Answer where
  | registered (result : Except RegisterError Unit)
  | unregistered (wasLive : Bool)
  | released (names : List String)

/-- The declarations are stored after a request with this answer: a registration that succeeds, or a
component that is to be forgotten. -/
def Request.persists {G H : Type} : Request G H → Answer → Bool
  | .register _ _ _, .registered (.ok _) => true
  | .unregister _ forget, _ => forget
  | _, _ => false

namespace Gate

variable {S G H : Type} [Guard G]

/-- Serves a request. -/
def serve [Store S] (gate : Gate G H) (store : S) : Request G H → Change (Gate G H) S Answer
  | .register name handle guard =>
    let change := gate.register store name handle guard
    ⟨.registered change.result, change.changed, change.store, change.reports⟩
  | .unregister name forget =>
    let change := gate.unregister store name forget
    ⟨.unregistered change.result, change.changed, change.store, change.reports⟩
  | .releaseAll =>
    let (names, gate, reports) := gate.releaseAll
    ⟨.released names, gate, store, reports⟩

/-- The gate with another roll and the posting it calls for. -/
def withRoll (gate : Gate G H) (roll : Roll G H) : Gate G H :=
  { gate with roll, posting := roll.posting }

/-- What a request comes to: the answer, and the gate afterwards. -/
def settled (gate : Gate G H) : Request G H → Answer × Gate G H
  | .register name handle guard =>
    match gate.roll.register name handle guard with
    | .error e => (.registered (.error e), gate)
    | .ok roll => (.registered (.ok ()), gate.withRoll roll)
  | .unregister name forget =>
    (.unregistered (gate.roll.isLive name), gate.withRoll (gate.roll.unregister name forget))
  | .releaseAll =>
    (.released (gate.roll.live.map (·.name)), gate.withRoll ⟨gate.roll.declarations, []⟩)

theorem releaseAll_eq (gate : Gate G H) :
    gate.releaseAll.2.1 = gate.withRoll ⟨gate.roll.declarations, []⟩ := by
  have hroll := Roll.foldl_unregister gate.roll.declarations gate.roll.live
  simp only [releaseAll, post, withRoll]
  exact congrArg (fun roll : Roll G H => { gate with roll, posting := roll.posting }) hroll

/-! ### One request -/

variable [Store S]

theorem serve_result (gate : Gate G H) (store : S) (request : Request G H) :
    (gate.serve store request).result = (gate.settled request).1 := by
  cases request with
  | register name handle guard =>
      simp only [serve, register, settled]
      cases gate.roll.register name handle guard <;> rfl
  | unregister name forget => rfl
  | releaseAll => rfl

theorem serve_changed (gate : Gate G H) (store : S) (request : Request G H) :
    (gate.serve store request).changed = (gate.settled request).2 := by
  cases request with
  | register name handle guard =>
      simp only [serve, register, settled]
      cases gate.roll.register name handle guard <;> rfl
  | unregister name forget => rfl
  | releaseAll => exact gate.releaseAll_eq

/-- The store changes only where the declarations are stored. -/
theorem serve_store (gate : Gate G H) (store : S) (request : Request G H) :
    (gate.serve store request).store =
      if request.persists (gate.settled request).1 then ((gate.settled request).2.persist store).1
      else store := by
  cases request with
  | register name handle guard =>
      cases h : gate.roll.register name handle guard <;>
        simp only [serve, register, settled, h] <;> rfl
  | unregister name forget => cases forget <;> rfl
  | releaseAll => rfl

/-! ### The gate after any request -/

omit [Store S] in
/-- What a request does to the declarations: it leaves them alone, and then nothing is stored, or it
declares a collapsed guard under a token, or it forgets a name. -/
theorem settled_declarations (gate : Gate G H) (request : Request G H) :
    (request.persists (gate.settled request).1 = false ∧
      (gate.settled request).2.roll.declarations = gate.roll.declarations) ∨
    (request.persists (gate.settled request).1 = true ∧
      ((∃ name guard, Text.IsToken name ∧ (gate.settled request).2.roll.declarations =
          gate.roll.declarations.insert name (Guard.collapse guard)) ∨
        ∃ name, (gate.settled request).2.roll.declarations =
          gate.roll.declarations.erase name)) := by
  cases request with
  | register name handle guard =>
      simp only [settled]
      cases h : gate.roll.register name handle guard with
      | error e => exact .inl ⟨rfl, rfl⟩
      | ok roll =>
          obtain ⟨hname, -, rfl⟩ := Roll.register_eq_ok_iff.mp h
          exact .inr ⟨rfl, .inl ⟨name, guard, hname, rfl⟩⟩
  | unregister name forget =>
      cases forget with
      | false => exact .inl ⟨rfl, rfl⟩
      | true => exact .inr ⟨rfl, .inr ⟨name, rfl⟩⟩
  | releaseAll => exact .inl ⟨rfl, rfl⟩

/-- A gate posts what its roll calls for. -/
def Posted (gate : Gate G H) : Prop := gate.posting = gate.roll.posting

omit [Store S] in
/-- A request leaves the gate alone or gives it another roll, posted. -/
theorem settled_cases (gate : Gate G H) (request : Request G H) :
    (gate.settled request).2 = gate ∨ ∃ roll, (gate.settled request).2 = gate.withRoll roll := by
  cases request with
  | register name handle guard =>
      simp only [settled]
      cases gate.roll.register name handle guard with
      | error e => exact .inl rfl
      | ok roll => exact .inr ⟨roll, rfl⟩
  | unregister name forget => exact .inr ⟨_, rfl⟩
  | releaseAll => exact .inr ⟨_, rfl⟩

/-- The gate goes by the same name and stores its declarations under the same keys. -/
structure SameSite (gate gate' : Gate G H) : Prop where
  label : gate'.label = gate.label
  layout : gate'.layout = gate.layout

theorem settled_sameSite (gate : Gate G H) (request : Request G H) :
    gate.SameSite (gate.settled request).2 := by
  rcases gate.settled_cases request with h | ⟨roll, h⟩ <;> rw [h] <;> exact ⟨rfl, rfl⟩

theorem settled_posted {gate : Gate G H} (h : gate.Posted) (request : Request G H) :
    (gate.settled request).2.Posted := by
  rcases gate.settled_cases request with hs | ⟨roll, hs⟩ <;> rw [hs]
  · exact h
  · exact rfl

theorem final_sameSite (gate : Gate G H) (store : S) (turns : List (Turn S (Request G H))) :
    gate.SameSite (Run.final serve gate store turns).1 := by
  refine Run.final_of_step gate.SameSite (fun reached store request h => ?_) ⟨rfl, rfl⟩ store turns
  have hsite := reached.settled_sameSite request
  rw [serve_changed]
  exact ⟨hsite.label.trans h.label, hsite.layout.trans h.layout⟩

theorem final_posted {gate : Gate G H} (h : gate.Posted) (store : S)
    (turns : List (Turn S (Request G H))) : (Run.final serve gate store turns).1.Posted :=
  Run.final_of_step Posted
    (fun reached store request h => by rw [serve_changed]; exact settled_posted h request)
    h store turns

/-! ### Loading -/

/-- The gate that stored properties call for. -/
def loaded (label : String) (layout : Layout) (stored : Properties) : Gate G H :=
  let roll : Roll G H := { declarations := (layout.decode stored).1 }
  ⟨label, layout, roll, roll.posting⟩

/-- A gate that is loaded is the one that the stored properties call for. -/
theorem loaded_of_load {label : String} {layout : Layout} {store left : S} {gate : Gate G H}
    {entries : List Log.Entry} (h : load label layout store = (.ok gate, left, entries)) :
    ∃ stored, Store.load store = (.ok stored, left) ∧ gate = loaded label layout stored := by
  unfold load at h
  split at h
  · cases h
  · rename_i stored after hread
    cases h
    exact ⟨stored, hread, rfl⟩

/-- A store that can be read can be loaded from. -/
theorem load_of_read (label : String) (layout : Layout) {store left : S} {stored : Properties}
    (h : Store.load store = (.ok stored, left)) :
    ∃ entries, load label layout store =
      (.ok (loaded label layout stored : Gate G H), left, entries) := by
  unfold load
  rw [h]
  exact ⟨_, rfl⟩

theorem posted_loaded (label : String) (layout : Layout) (stored : Properties) :
    (loaded label layout stored : Gate G H).Posted := rfl

end Gate

end TrafficGate
