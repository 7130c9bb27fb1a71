import TrafficGate.Log.Logger
import TrafficGate.Server
import TrafficGate.Settings.Reader

/-!
# CommandLine

One run of the program: it reads its settings, starts a server without components, logs what is
declared and blocked, and shuts the server down.  Its only argument is the path of a settings file.
-/

namespace TrafficGate.CommandLine

/-- What a run comes to: its exit code, the texts it prints, the lines in which it tells of a failure,
and the files afterwards. -/
structure Run where
  code : Nat
  output : List String
  failure : List String
  files : Files

/-- The lines about a cause, which has a number if it is one of several. -/
def causeLines (number : Option Nat) (cause : String) : List String :=
  match Text.pieces '\n' cause with
  | [] => []
  | first :: rest =>
    (number.elim "    " (fun n => "    " ++ toString n ++ ": ") ++ first) ::
      rest.map fun line => number.elim "    " (fun _ => "       ") ++ line

/-- The lines about a failure and its causes, the nearest first. -/
def failureLines (message : String) (causes : List String) : List String :=
  ("Error: " ++ message) ::
    match causes with
    | [] => []
    | [cause] => "" :: "Caused by:" :: causeLines none cause
    | causes => "" :: "Caused by:" :: causes.zipIdx.flatMap fun (cause, n) => causeLines (some n) cause

/-- An entry about a run. -/
def said (message : String) (fields : List (String × Log.Value)) : Log.Entry :=
  ⟨.info, .program, message, fields⟩

/-- What is logged about a server: each declaration, and what is blocked. -/
def account {H : Type} (server : Server H) : List Log.Entry :=
  let interceptors := server.packets.gate.roll.declarations.entries.map fun (name, guard) =>
    said "Required interceptor declared"
      [("name", .shown name), ("traffic", .shown guard.points.property),
       ("packets", .shown guard.kinds.property)]
  let listeners := server.rooms.gate.roll.declarations.entries.map fun (name, guard) =>
    said "Required room listener declared"
      [("name", .shown name), ("events", .shown guard.events.property)]
  let (points, kinds, events) := server.blocked
  interceptors ++ listeners ++
    [said "Currently blocked"
      [("traffic", .shown points), ("packets", .shown kinds), ("room_events", .shown events)]]

/-- Runs the program with settings that are overridden already. -/
def serve (settings : Settings) (environment : Environment) (files : Files) : Run :=
  match Logger.setUp none settings.logging environment with
  | .error e => ⟨1, [], failureLines "initializing telemetry" [e.message], files⟩
  | .ok logger =>
    let (result, _, files, reports) := Server.start (H := Empty) settings files
    let started := logger.greeting :: Report.entries reports
    match result with
    | .error e => ⟨1, logger.write started, failureLines e.message e.causes, files⟩
    | .ok server =>
      let (_, _, reports) := server.shutdown
      ⟨0, logger.write (started ++ account server ++ Report.entries reports), [], files⟩

/-- Runs the program. -/
def run (arguments : List String) (environment : Environment) (files : Files) : Run :=
  match arguments with
  | [] => serve (Settings.override {} environment) environment files
  | path :: _ =>
    match Settings.load files path with
    | .error e => ⟨1, [], failureLines ("loading " ++ path) [e.message], files⟩
    | .ok settings => serve (settings.override environment) environment files

end TrafficGate.CommandLine
