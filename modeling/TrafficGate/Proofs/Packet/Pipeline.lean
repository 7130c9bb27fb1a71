import TrafficGate.Packet.Pipeline
import TrafficGate.Proofs.Gate.Requests

/-!
# Packet — Pipeline requests

A packet pipeline serves the requests of its gate and does nothing else to it (`serve_changed`,
`final_gate`), so what holds of every gate that a run can lead to holds of the gate of every pipeline.
-/

namespace TrafficGate.PacketPipeline

variable {S H : Type} [Store S]

/-- Serves a request. -/
def serve (pipeline : PacketPipeline H) (store : S) :
    Request PacketGuard H → Change (PacketPipeline H) S Answer
  | .register name handle guard =>
    let change := pipeline.register store name handle guard
    ⟨.registered change.result, change.changed, change.store, change.reports⟩
  | .unregister name forget =>
    let change := pipeline.unregister store name forget
    ⟨.unregistered change.result, change.changed, change.store, change.reports⟩
  | .releaseAll =>
    let (names, pipeline, reports) := pipeline.releaseAll
    ⟨.released names, pipeline, store, reports⟩

/-- A request changes a pipeline only in its gate. -/
theorem serve_changed (pipeline : PacketPipeline H) (store : S) (request : Request PacketGuard H) :
    (pipeline.serve store request).changed =
      { pipeline with gate := (pipeline.gate.settled request).2 } := by
  rw [← Gate.serve_changed pipeline.gate store request]
  cases request <;> rfl

/-- A request does to the store what it does for the gate. -/
theorem serve_store (pipeline : PacketPipeline H) (store : S) (request : Request PacketGuard H) :
    (pipeline.serve store request).store = (pipeline.gate.serve store request).store := by
  cases request <;> rfl

/-- The gate of a pipeline, through a run. -/
theorem final_gate (pipeline : PacketPipeline H) (store : S)
    (turns : List (Turn S (Request PacketGuard H))) :
    (Run.final serve pipeline store turns).1.gate =
      (Run.final Gate.serve pipeline.gate store turns).1 := by
  refine Run.final_map (fun pipeline store request => ?_) pipeline store turns
  rw [serve_changed, serve_store, Gate.serve_changed]
  exact ⟨rfl, rfl⟩

/-- The pipeline that stored properties call for. -/
def loaded (domain : String) (stored : Properties) : PacketPipeline H where
  gate := Gate.loaded label Layout.packets stored
  domain := domain

/-- A pipeline that is loaded is the one that the stored properties call for. -/
theorem loaded_of_load {domain : String} {store left : S} {pipeline : PacketPipeline H}
    {entries : List Log.Entry} (h : load store domain = (.ok pipeline, left, entries)) :
    ∃ stored, Store.load store = (.ok stored, left) ∧ pipeline = loaded domain stored := by
  cases hgate : Gate.load (G := PacketGuard) (H := H) label Layout.packets store with
  | mk result rest =>
      rw [load, hgate] at h
      cases result with
      | error e => cases h
      | ok gate =>
          cases h
          obtain ⟨stored, hread, rfl⟩ := Gate.loaded_of_load hgate
          exact ⟨stored, hread, rfl⟩

/-- A store that can be read can be loaded from. -/
theorem load_of_read (domain : String) {store left : S} {stored : Properties}
    (h : Store.load store = (.ok stored, left)) :
    ∃ entries, load store domain =
      (.ok (loaded domain stored : PacketPipeline H), left, entries) := by
  obtain ⟨entries, hgate⟩ := Gate.load_of_read (G := PacketGuard) (H := H) label Layout.packets h
  refine ⟨entries, ?_⟩
  rw [load, hgate]
  rfl

/-- Wherever a run leads, the gate of the pipeline posts what its roll calls for. -/
theorem final_posted {domain : String} {store left : S} {pipeline : PacketPipeline H}
    {entries : List Log.Entry} (h : load store domain = (.ok pipeline, left, entries))
    (turns : List (Turn S (Request PacketGuard H))) :
    (Run.final serve pipeline left turns).1.gate.Posted := by
  obtain ⟨stored, -, rfl⟩ := loaded_of_load h
  rw [final_gate]
  have hposted : (loaded domain stored : PacketPipeline H).gate.Posted :=
    Gate.posted_loaded label Layout.packets stored
  exact Gate.final_posted hposted left turns

end TrafficGate.PacketPipeline
