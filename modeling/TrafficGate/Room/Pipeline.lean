import TrafficGate.Chain
import TrafficGate.Gate
import TrafficGate.RoomEvent

/-!
# Room — Pipeline

Everything room events go to: a gate with its required listeners, and an audience of listeners that
hear of events afterwards.
-/

namespace TrafficGate

/-- The gate, and the audience. -/
structure RoomPipeline (H : Type) where
  gate : Gate RoomGuard H
  audience : List H := []

namespace RoomPipeline

variable {S H : Type}

/-- The name of the room gate in logs and metrics. -/
def label : String := "room"

/-- An entry about rooms. -/
def said (level : Log.Level) (message : String) (fields : List (String × Log.Value)) : Report :=
  .log ⟨level, .rooms, message, fields⟩

/-- A pipeline over the stored declarations, with nothing live and no audience. -/
def load [Store S] (store : S) : Except StoreError (RoomPipeline H) × S × List Log.Entry :=
  let (gate, store, entries) := Gate.load label Layout.rooms store
  (gate.map fun gate => { gate }, store, entries)

/-- A required listener comes to life under a name and declares what it guards. -/
def register [Store S] (pipeline : RoomPipeline H) (store : S) (name : String) (handle : H)
    (guard : RoomGuard) : Change (RoomPipeline H) S (Except RegisterError Unit) :=
  let change := pipeline.gate.register store name handle guard
  { result := change.result
    changed := { pipeline with gate := change.changed }
    store := change.store
    reports := said .debug "Adding required room listener"
      [("name", .text name), ("events", .shown guard.events.inspect)] :: change.reports }

/-- The required listener with the name goes; its declaration stays unless it is to be forgotten. -/
def unregister [Store S] (pipeline : RoomPipeline H) (store : S) (name : String) (forget : Bool) :
    Change (RoomPipeline H) S Bool :=
  let change := pipeline.gate.unregister store name forget
  { result := change.result
    changed := { pipeline with gate := change.changed }
    store := change.store
    reports := said .debug "Removing required room listener"
      [("name", .text name), ("forget", .flag forget)] :: change.reports }

/-- Every required listener goes and every declaration stays. -/
def releaseAll (pipeline : RoomPipeline H) : List String × RoomPipeline H × List Report :=
  let (names, gate, reports) := pipeline.gate.releaseAll
  (names, { pipeline with gate }, reports)

variable [DecidableEq H]

/-- The listener joins the audience once more. -/
def addListener (pipeline : RoomPipeline H) (handle : H) : RoomPipeline H :=
  { pipeline with audience := Audience.add pipeline.audience handle }

/-- The listener leaves the audience once, and whether it was there. -/
def removeListener (pipeline : RoomPipeline H) (handle : H) : Bool × RoomPipeline H :=
  let (found, audience) := Audience.remove pipeline.audience handle
  (found, { pipeline with audience })

end RoomPipeline

end TrafficGate
