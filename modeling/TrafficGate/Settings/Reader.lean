import TrafficGate.Files
import TrafficGate.Settings
import TrafficGate.Toml.Document

/-!
# Settings — Reader

Reads settings from TOML documents.  What a document does not set keeps its default, and what is no
setting is passed over; a value of another kind than the setting's is an error.  The settings come in
three sections, each a table, or an array of its values in order.
-/

namespace TrafficGate

/-- The values of the named fields of a section, where each may be missing.  A moment counts as a
section in which nothing is set. -/
def Toml.section? (fields : List String) : Toml → Option (List (Option Toml))
  | .table _ entries => some (fields.map fun field => entries.lookup field)
  | .array items => some ((List.range fields.length).map (items[·]?))
  | .repeated tables =>
    some ((List.range fields.length).map fun n => (tables[n]?).map (.table .header))
  | .moment _ => some (fields.map fun _ => none)
  | _ => none

/-- The value of a field: what is set, if that can be read, or the default. -/
def Toml.field? {α : Type} (read : Toml → Option α) (otherwise : α) : Option Toml → Option α
  | none => some otherwise
  | some value => read value

/-- A text. -/
def Toml.text? : Toml → Option String
  | .text s => some s
  | _ => none

/-- A flag. -/
def Toml.flag? : Toml → Option Bool
  | .flag b => some b
  | _ => none

/-- The value holds nothing. -/
def Toml.isVoid : Toml → Bool
  | .array [] | .table _ [] => true
  | _ => false

/-- The backend of a name. -/
def Backend.ofName? (name : String) : Option Backend :=
  [Backend.memory, .file].find? (·.name = name)

/-- A backend: its name, or a table with its name over nothing. -/
def Backend.ofToml? : Toml → Option Backend
  | .text name => ofName? name
  | .table _ [(name, value)] => if value.isVoid then ofName? name else none
  | _ => none

namespace Settings

/-- The settings with the domain of a section. -/
def readServer (settings : Settings) (value : Toml) : Option Settings := do
  match ← value.section? ["domain"] with
  | [domain] => return { settings with domain := ← Toml.field? Toml.text? settings.domain domain }
  | _ => none

/-- The settings with the backend and the path of a section. -/
def readStorage (settings : Settings) (value : Toml) : Option Settings := do
  match ← value.section? ["backend", "path"] with
  | [backend, path] =>
    return { settings with
      backend := ← Toml.field? Backend.ofToml? settings.backend backend
      path := ← Toml.field? Toml.text? settings.path path }
  | _ => none

/-- The settings with the logging of a section. -/
def readLogging (settings : Settings) (value : Toml) : Option Settings := do
  let logging := settings.logging
  match ← value.section? ["service_name", "log_level", "console_output", "json_logs"] with
  | [serviceName, filter, console, json] =>
    return { settings with
      logging :=
        { serviceName := ← Toml.field? Toml.text? logging.serviceName serviceName
          filter := ← Toml.field? Toml.text? logging.filter filter
          console := ← Toml.field? Toml.flag? logging.console console
          json := ← Toml.field? Toml.flag? logging.json json } }
  | _ => none

/-- The settings with a section of a document, if it is there. -/
def readSection (read : Settings → Toml → Option Settings) (settings : Settings) :
    Option Toml → Option Settings
  | none => some settings
  | some value => read settings value

/-- The settings of a document. -/
def ofToml? (document : Toml.Entries) : Option Settings := do
  let settings ← readSection readServer {} (document.lookup "server")
  let settings ← readSection readStorage settings (document.lookup "storage")
  readSection readLogging settings (document.lookup "telemetry")

/-- The settings of a text. -/
def parse (s : String) : Except SettingsError Settings :=
  match Toml.parse s with
  | none => .error (.malformed "not a TOML document")
  | some document =>
    match ofToml? document with
    | none => .error (.malformed "a setting has a value of the wrong kind")
    | some settings => .ok settings

/-- The settings of the file under a path. -/
def load (files : Files) (path : String) : Except SettingsError Settings :=
  match files.readText path with
  | .error e => .error (.unreadable path e.message)
  | .ok s => parse s

end Settings

end TrafficGate
