import TrafficGate.Files.Path

/-!
# Settings

How a server is set up: the domain it serves, where declarations are kept, and how it logs.  Every
setting has a default, and variables of the environment override what was set.
-/

namespace TrafficGate

/-- The variables that are set, by name. -/
abbrev Environment := String → Option String

/-- How the server logs. -/
structure LogSettings where
  /-- The name of the service in the first log line. -/
  serviceName : String := "required-gate"
  /-- Which entries are written, as filter directives. -/
  filter : String := "info"
  /-- Entries are written at all. -/
  console : Bool := true
  /-- Entries are written as JSON. -/
  json : Bool := false
  deriving DecidableEq, Repr, Inhabited

/-- Where declarations are kept. -/
inductive Backend where
  | memory | file
  deriving DecidableEq, Repr, Inhabited

/-- The name of a backend in the settings. -/
def Backend.name : Backend → String
  | .memory => "memory"
  | .file => "file"

/-- The inspection form of a backend. -/
def Backend.inspect : Backend → String
  | .memory => "Memory"
  | .file => "File"

/-- The settings of a server. -/
structure Settings where
  domain : String := "localhost"
  backend : Backend := .memory
  /-- The property file, if the backend is a file. -/
  path : String := "./data/properties.json"
  logging : LogSettings := {}
  deriving DecidableEq, Repr, Inhabited

/-- The settings are the default ones, however the path is spelled. -/
def Settings.isDefault (settings : Settings) : Bool :=
  let default : Settings := {}
  Path.agrees settings.path default.path && { settings with path := default.path } = default

/-- Why there are no settings. -/
inductive SettingsError where
  | unreadable (path reason : String)
  | malformed (reason : String)
  deriving DecidableEq, Repr, Inhabited

/-- The wording of the error. -/
def SettingsError.message : SettingsError → String
  | .unreadable path reason => "Failed to read " ++ path ++ ": " ++ reason
  | .malformed reason => "Failed to parse config: " ++ reason

/-- Reads a yes or no; other texts leave the value as it is. -/
def readFlag (text : String) (otherwise : Bool) : Bool :=
  let word := Text.lowered (Text.trim text)
  if ["true", "1", "yes"].contains word then true
  else if ["false", "0", "no"].contains word then false
  else otherwise

/-- The log settings with the variables that are set.  The filter has a variable of its own and, when
that is not set, a general one. -/
def LogSettings.override (settings : LogSettings) (environment : Environment) : LogSettings where
  serviceName := (environment "RG_SERVICE_NAME").getD settings.serviceName
  filter := ((environment "RG_LOG_LEVEL").or (environment "RUST_LOG")).getD settings.filter
  console := (environment "RG_CONSOLE_OUTPUT").elim settings.console (readFlag · settings.console)
  json := (environment "RG_JSON_LOGS").elim settings.json (readFlag · settings.json)

/-- The settings with the variables that are set.  A property file in the environment also selects the
file backend. -/
def Settings.override (settings : Settings) (environment : Environment) : Settings where
  domain := (environment "RG_SERVER_DOMAIN").getD settings.domain
  backend := if (environment "RG_PROPERTY_FILE").isSome then .file else settings.backend
  path := (environment "RG_PROPERTY_FILE").getD settings.path
  logging := settings.logging.override environment

end TrafficGate
