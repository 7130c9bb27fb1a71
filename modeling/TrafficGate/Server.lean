import TrafficGate.Packet.Pipeline
import TrafficGate.Room.Pipeline
import TrafficGate.Settings
import TrafficGate.Store.File
import TrafficGate.Store.Memory

/-!
# Server

Both pipelines of a server over one store.  Starting a server opens the store and loads the packet
gate and then the room gate; shutting it down releases every required component and keeps every
declaration.
-/

namespace TrafficGate

/-- The store of a server: in memory, or in a file. -/
inductive Keeper where
  | memory (store : MemoryStore)
  | file (store : FileStore)
  deriving Inhabited

/-- The files after the work of a store that had these at its start. -/
def Keeper.filesAfter (files : Files) : Keeper → Files
  | .memory _ => files
  | .file store => store.files

instance : Store Keeper where
  load
    | .memory store =>
      let (result, store) := Store.load store
      (result, .memory store)
    | .file store =>
      let (result, store) := Store.load store
      (result, .file store)
  apply
    | .memory store, batch =>
      let (result, store, entries) := Store.apply store batch
      (result, .memory store, entries)
    | .file store, batch =>
      let (result, store, entries) := Store.apply store batch
      (result, .file store, entries)

/-- Both pipelines. -/
structure Server (H : Type) where
  packets : PacketPipeline H
  rooms : RoomPipeline H

/-- Why a server cannot start. -/
inductive StartError where
  | unopened (path : String) (cause : FileError)
  | noInterceptors (cause : StoreError)
  | noListeners (cause : StoreError)
  deriving DecidableEq, Repr, Inhabited

/-- What was being done. -/
def StartError.message : StartError → String
  | .unopened path _ => "failed to open property file " ++ path
  | .noInterceptors _ => "failed to load required interceptor declarations"
  | .noListeners _ => "failed to load required listener declarations"

/-- The causes of the error, the nearest first. -/
def StartError.causes : StartError → List String
  | .unopened _ cause => [(StoreError.io cause.message).message, cause.message]
  | .noInterceptors cause | .noListeners cause =>
    match cause with
    | .io reason => [cause.message, reason]
    | .corrupt _ => [cause.message]

namespace Server

variable {S H : Type}

/-- An entry about the server. -/
def said (message : String) (fields : List (String × Log.Value)) : Report :=
  .log ⟨.info, .server, message, fields⟩

/-- Both pipelines over a store. -/
def load [Store S] (domain : String) (store : S) :
    Except StartError (Server H) × S × List Report :=
  match PacketPipeline.load store domain with
  | (.error e, store, entries) => (.error (.noInterceptors e), store, entries.map .log)
  | (.ok packets, store, entries) =>
    let reports := entries.map Report.log ++ [packets.gate.sized]
    match RoomPipeline.load store with
    | (.error e, store, entries) => (.error (.noListeners e), store, reports ++ entries.map .log)
    | (.ok rooms, store, entries) =>
      (.ok ⟨packets, rooms⟩, store, reports ++ entries.map .log ++ [rooms.gate.sized])

/-- The stored forms of what is blocked: points, packet kinds, room events. -/
def blocked (server : Server H) : String × String × String :=
  (server.packets.gate.posting.blocked.points.property,
    server.packets.gate.posting.blocked.kinds.property,
    server.rooms.gate.posting.blocked.events.property)

/-- Starts a server over a store. -/
def startOver [Store S] (domain : String) (store : S) :
    Except StartError (Server H) × S × List Report :=
  match load domain store with
  | (.error e, store, reports) => (.error e, store, reports)
  | (.ok server, store, reports) =>
    let (points, kinds, events) := server.blocked
    (.ok server, store, reports ++
      [said "Gate container started"
        [("domain", .shown domain), ("blocked_traffic", .shown points),
         ("blocked_packets", .shown kinds), ("blocked_room_events", .shown events)]])

/-- The store that the settings ask for, and the files then. -/
def openStore (settings : Settings) (files : Files) : Except StartError Keeper × Files :=
  match settings.backend with
  | .memory => (.ok (.memory {}), files)
  | .file =>
    let (store, files) := FileStore.open? files settings.path
    ((store.map .file).mapError (.unopened settings.path), files)

/-- Starts a server as the settings ask.  The result has the store, if it could be opened, and the
files then. -/
def start (settings : Settings) (files : Files) :
    Except StartError (Server H) × Option Keeper × Files × List Report :=
  match openStore settings files with
  | (.error e, files) => (.error e, none, files, [])
  | (.ok keeper, files) =>
    let opened := said "Property store opened" [("backend", .shown settings.backend.inspect)]
    let (server, keeper, reports) := startOver settings.domain keeper
    (server, some keeper, Keeper.filesAfter files keeper, opened :: reports)

/-- Releases every required component.  The result lists the names, those of interceptors first. -/
def shutdown (server : Server H) : List String × Server H × List Report :=
  let (interceptors, packets, packetReports) := server.packets.releaseAll
  let (listeners, rooms, roomReports) := server.rooms.releaseAll
  let released := interceptors ++ listeners
  (released, ⟨packets, rooms⟩, packetReports ++ roomReports ++
    [said "Gate container shut down" [("released", .count released.length)]])

end Server

end TrafficGate
