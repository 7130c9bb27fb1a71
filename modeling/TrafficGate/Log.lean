/-!
# Log

What the program says about its own work: entries with a level, the part of the program that wrote
them, a message and named fields.  Entries are values; whether and how one is written down is decided
by whoever receives it.
-/

namespace TrafficGate.Log

/-- Levels, the most severe first. -/
inductive Level where
  | error | warn | info | debug | trace
  deriving DecidableEq, Repr, Inhabited

/-- Every level, the most severe first. -/
def Level.all : List Level := [.error, .warn, .info, .debug, .trace]

/-- How much detail a level stands for; the most severe level has the least. -/
def Level.detail : Level → Nat
  | .error => 1
  | .warn => 2
  | .info => 3
  | .debug => 4
  | .trace => 5

/-- The level as log lines show it. -/
def Level.name : Level → String
  | .error => "ERROR"
  | .warn => "WARN"
  | .info => "INFO"
  | .debug => "DEBUG"
  | .trace => "TRACE"

/-- The parts of the program that write entries. -/
inductive Source where
  | categories | gate | packetRule | packets | rooms | propertyFile | server | startup | program
  deriving DecidableEq, Repr, Inhabited

/-- The name under which log filters select a part and log lines show it. -/
def Source.target : Source → String
  | .categories => "shared_types::categories"
  | .gate => "rg_01_required_gate::service"
  | .packetRule => "rg_02_packet_interception::domain::gate"
  | .packets => "rg_02_packet_interception::service"
  | .rooms => "rg_03_room_events::service"
  | .propertyFile => "gate_runtime::adapters::json_file_store"
  | .server => "gate_runtime::container::gates"
  | .startup => "gate_telemetry::tracing_setup"
  | .program => "gate_runtime"

/-- The value of a field: a text of its own, the printed form of some value, a number or a flag. -/
inductive Value where
  | text (s : String)
  | shown (s : String)
  | count (n : Nat)
  | flag (b : Bool)
  deriving DecidableEq, Repr, Inhabited

/-- The value as bare text. -/
def Value.toText : Value → String
  | .text s => s
  | .shown s => s
  | .count n => toString n
  | .flag b => if b then "true" else "false"

/-- One thing said. -/
structure Entry where
  level : Level
  source : Source
  message : String
  fields : List (String × Value) := []
  deriving DecidableEq, Repr, Inhabited

end TrafficGate.Log
