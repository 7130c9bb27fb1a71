import TrafficGate.Proofs.Gate.Requests
import TrafficGate.Room.Pipeline

/-!
# Room — Pipeline requests

What is asked of a room pipeline: something of its gate, or a change of its audience.

* `serve_result`, `serve_changed`, `serve_store`: a request to the gate is answered by the gate, and
  changes the gate, and the store as the gate does, and nothing else.
* `final_posted`: wherever a run leads, changes of the audience among its requests, the gate posts
  what its roll calls for.
-/

namespace TrafficGate

/-- What is asked of a room pipeline. -/
inductive RoomRequest (H : Type) where
  | toGate (request : Request RoomGuard H)
  | addListener (handle : H)
  | removeListener (handle : H)

/-- What a room pipeline answers. -/
inductive RoomAnswer where
  | ofGate (answer : Answer)
  | added
  | removed (found : Bool)

namespace RoomPipeline

variable {S H : Type}

section

variable [Store S]

/-- Serves a request to the gate. -/
def serve (pipeline : RoomPipeline H) (store : S) :
    Request RoomGuard H → Change (RoomPipeline H) S Answer
  | .register name handle guard =>
    let change := pipeline.register store name handle guard
    ⟨.registered change.result, change.changed, change.store, change.reports⟩
  | .unregister name forget =>
    let change := pipeline.unregister store name forget
    ⟨.unregistered change.result, change.changed, change.store, change.reports⟩
  | .releaseAll =>
    let (names, pipeline, reports) := pipeline.releaseAll
    ⟨.released names, pipeline, store, reports⟩

/-- A request to the gate is answered by the gate. -/
theorem serve_result (pipeline : RoomPipeline H) (store : S) (request : Request RoomGuard H) :
    (pipeline.serve store request).result = (pipeline.gate.settled request).1 := by
  rw [← Gate.serve_result pipeline.gate store request]
  cases request <;> rfl

/-- A request to the gate changes a pipeline only there. -/
theorem serve_changed (pipeline : RoomPipeline H) (store : S) (request : Request RoomGuard H) :
    (pipeline.serve store request).changed =
      { pipeline with gate := (pipeline.gate.settled request).2 } := by
  rw [← Gate.serve_changed pipeline.gate store request]
  cases request <;> rfl

/-- A request to the gate does to the store what it does for the gate. -/
theorem serve_store (pipeline : RoomPipeline H) (store : S) (request : Request RoomGuard H) :
    (pipeline.serve store request).store = (pipeline.gate.serve store request).store := by
  cases request <;> rfl

/-! ### Loading -/

/-- The pipeline that stored properties call for. -/
def loaded (stored : Properties) : RoomPipeline H where
  gate := Gate.loaded label Layout.rooms stored

/-- A pipeline that is loaded is the one that the stored properties call for. -/
theorem loaded_of_load {store left : S} {pipeline : RoomPipeline H} {entries : List Log.Entry}
    (h : load store = (.ok pipeline, left, entries)) :
    ∃ stored, Store.load store = (.ok stored, left) ∧ pipeline = loaded stored := by
  cases hgate : Gate.load (G := RoomGuard) (H := H) label Layout.rooms store with
  | mk result rest =>
      rw [load, hgate] at h
      cases result with
      | error e => cases h
      | ok gate =>
          cases h
          obtain ⟨stored, hread, rfl⟩ := Gate.loaded_of_load hgate
          exact ⟨stored, hread, rfl⟩

/-- A store that can be read can be loaded from. -/
theorem load_of_read {store left : S} {stored : Properties}
    (h : Store.load store = (.ok stored, left)) :
    ∃ entries, load store = (.ok (loaded stored : RoomPipeline H), left, entries) := by
  obtain ⟨entries, hgate⟩ := Gate.load_of_read (G := RoomGuard) (H := H) label Layout.rooms h
  refine ⟨entries, ?_⟩
  rw [load, hgate]
  rfl

end

/-! ### The audience -/

variable [Store S] [DecidableEq H]

/-- Serves a request, to the gate or about the audience. -/
def attend (pipeline : RoomPipeline H) (store : S) :
    RoomRequest H → Change (RoomPipeline H) S RoomAnswer
  | .toGate request =>
    let change := pipeline.serve store request
    ⟨.ofGate change.result, change.changed, change.store, change.reports⟩
  | .addListener handle => ⟨.added, pipeline.addListener handle, store, []⟩
  | .removeListener handle =>
    let (found, pipeline) := pipeline.removeListener handle
    ⟨.removed found, pipeline, store, []⟩

/-- Wherever a run leads, the gate of the pipeline posts what its roll calls for. -/
theorem final_posted {store left : S} {pipeline : RoomPipeline H} {entries : List Log.Entry}
    (h : load store = (.ok pipeline, left, entries)) (turns : List (Turn S (RoomRequest H))) :
    (Run.final attend pipeline left turns).1.gate.Posted := by
  obtain ⟨stored, -, rfl⟩ := loaded_of_load h
  refine Run.final_of_step (fun reached : RoomPipeline H => reached.gate.Posted)
    (fun reached store request hposted => ?_)
    (Gate.posted_loaded label Layout.rooms stored) left turns
  cases request with
  | toGate request =>
      simp only [attend, serve_changed]
      exact Gate.settled_posted hposted request
  | addListener handle => exact hposted
  | removeListener handle => exact hposted

end RoomPipeline

end TrafficGate
