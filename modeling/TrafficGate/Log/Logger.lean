import TrafficGate.Log.Filter
import TrafficGate.Log.Line
import TrafficGate.Settings

/-!
# Log — Logger

What writes entries down, as the log settings ask.  A program sets it up once.
-/

namespace TrafficGate

/-- The settings, and the filter that is in force. -/
structure Logger where
  settings : LogSettings
  filter : Filter
  deriving DecidableEq, Repr, Inhabited

/-- Why a logger cannot be set up. -/
inductive LoggerError where
  | badFilter (cause : FilterError)
  | alreadySetUp
  deriving DecidableEq, Repr, Inhabited

/-- The wording of the error. -/
def LoggerError.message : LoggerError → String
  | .badFilter cause => "Invalid configuration: " ++ cause.message
  | .alreadySetUp =>
    "Failed to initialize tracing subscriber: a global default trace dispatcher has already been set"

namespace Logger

/-- Sets a logger up, unless there is one.  A general variable of the environment goes before the
filter of the settings, if it holds a filter. -/
def setUp (current : Option Logger) (settings : LogSettings) (environment : Environment) :
    Except LoggerError Logger :=
  match Filter.choose (environment "RUST_LOG") settings.filter with
  | .error e => .error (.badFilter e)
  | .ok filter => if current.isSome then .error .alreadySetUp else .ok { settings, filter }

/-- The first entry of a logger. -/
def greeting (logger : Logger) : Log.Entry where
  level := .info
  source := .startup
  message := "Logging initialized"
  fields :=
    [("service", .shown logger.settings.serviceName), ("json", .flag logger.settings.json)]

/-- The lines of the entries that are written. -/
def write (logger : Logger) (entries : List Log.Entry) : List String :=
  if logger.settings.console then
    (entries.filter logger.filter.admits).map fun e =>
      if logger.settings.json then e.toJson.render else e.line
  else []

end Logger

end TrafficGate
