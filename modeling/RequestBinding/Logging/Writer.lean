import RequestBinding.Logging.Filter

/-!
# Writing log lines

A writer says which events are written and how. At most one writer is installed; once there is
one, installing another fails.

## Main definitions

* `LogWriter` - how events are written
* `LoggingError` - why a writer is not installed
* `Logger`, `Logger.install` - the installed writer with its filter
-/

namespace RequestBinding

/-- How events are written: whether at all, the text of the filter, as JSON lines or for people, and
with which details. -/
structure LogWriter where
  enabled : Bool
  level : String
  json : Bool
  spans : Bool
  location : Bool
  threads : Bool
  target : Bool
  colored : Bool
  deriving Repr, DecidableEq

namespace LogWriter

/-- Detailed lines for people. -/
def development : LogWriter := ⟨true, "debug", false, true, true, false, true, true⟩

/-- Plain JSON lines. -/
def production : LogWriter := ⟨true, "info", true, false, false, false, true, false⟩

end LogWriter

/-- Why a writer is not installed. -/
inductive LoggingError where
  | badFilter (level : String)
  | installed
  deriving Repr, DecidableEq

/-- The wording of an error. -/
def LoggingError.message : LoggingError → String
  | .badFilter level => "Invalid configuration: invalid log level '" ++ level ++ "': <reason>"
  | .installed => "Failed to initialize logging: <reason>"

/-- Reads the text of a filter. -/
def Filter.parse (level : String) : Except LoggingError Filter :=
  match Filter.read level with
  | some f => .ok f
  | none => .error (.badFilter level)

/-- An installed writer. -/
structure Logger where
  writer : LogWriter
  filter : Filter
  deriving Repr

namespace Logger

/-- Installs a writer where one may be installed already. A writer that is not enabled changes
nothing; otherwise its filter is looked at first. -/
def install (current : Option Logger) (w : LogWriter) : Except LoggingError (Option Logger) :=
  if w.enabled then
    match Filter.parse w.level, current with
    | .error e, _ => .error e
    | .ok _, some _ => .error .installed
    | .ok filter, none => .ok (some ⟨w, filter⟩)
  else .ok current

/-- The events that are written. -/
def written (current : Option Logger) (es : List Event) : List Event :=
  match current with
  | none => []
  | some l => es.filter l.filter.enables

end Logger

end RequestBinding
