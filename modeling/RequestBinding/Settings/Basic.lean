import RequestBinding.Jobs.Basic
import RequestBinding.Json.Printer
import RequestBinding.Logging.Writer

/-!
# Settings

The settings have three sections: where the routes are mounted, how events are logged, and where
jobs go. There are presets for development and production, and a check of the values.

## Main definitions

* `ApiSettings`, `LoggingSettings`, `JobKinds`, `Settings` - the settings
* `Settings.fault?` - the first value that is not acceptable
* `Settings.toJson` - the settings as JSON, in the order of their declaration
* `SettingsDraft` - settings given section by section
-/

namespace RequestBinding

/-- Where the routes are mounted, and the name under which the service reports. -/
structure ApiSettings where
  mountPath : String
  serviceName : String
  deriving Repr, DecidableEq

/-- The settings of the section if nothing is said. -/
def ApiSettings.default : ApiSettings := ⟨"/v3", "ariadne"⟩

/-- How log lines look. -/
inductive LogFormat where
  | json
  | pretty
  deriving Repr, DecidableEq

namespace LogFormat

/-- The name of a format. -/
def name : LogFormat → String
  | .json => "json"
  | .pretty => "pretty"

/-- The format with a name. -/
def ofName? (s : String) : Option LogFormat := [json, pretty].find? (·.name == s)

end LogFormat

/-- How events are logged. -/
structure LoggingSettings where
  enabled : Bool
  level : String
  format : LogFormat
  ansiEnabled : Bool
  includeLocation : Bool
  deriving Repr, DecidableEq

namespace LoggingSettings

/-- The settings of the section if nothing is said. -/
def default : LoggingSettings := ⟨true, "info", .json, false, false⟩

/-- The writer that these settings ask for; the format decides on all further details. -/
def writer (s : LoggingSettings) : LogWriter :=
  let base :=
    match s.format with
    | .json => LogWriter.production
    | .pretty => LogWriter.development
  { base with
    enabled := s.enabled
    level := s.level
    json := s.format == .json
    location := s.includeLocation
    colored := s.ansiEnabled }

end LoggingSettings

/-- The kinds of jobs by identifier, in the order of the identifiers. -/
structure JobKinds where
  entries : List (String × JobKind)
  sorted : Members.Sorted entries
  deriving Repr, DecidableEq

namespace JobKinds

/-- No kinds. -/
def empty : JobKinds := ⟨[], Members.sorted_nil⟩

/-- The kind under an identifier. -/
def get? (ks : JobKinds) (identifier : String) : Option JobKind :=
  Members.get? identifier ks.entries

/-- Whether there is a kind under an identifier. -/
def contains (ks : JobKinds) (identifier : String) : Bool := Members.contains identifier ks.entries

/-- Puts a kind under an identifier, in place of the one that was there. -/
def insert (ks : JobKinds) (identifier : String) (k : JobKind) : JobKinds :=
  ⟨Members.put identifier k ks.entries, Members.sorted_put ks.sorted⟩

/-- The kinds of a list of pairs; a later pair replaces an earlier one with the same identifier. -/
def ofList (ps : List (String × JobKind)) : JobKinds :=
  ⟨Members.ofList ps, Members.sorted_ofList ps⟩

/-- The identifier of the job that creates a build. -/
def buildRequest : String := "build_request"

/-- The kinds if nothing is said. -/
def default : JobKinds :=
  empty.insert buildRequest ⟨"build_requests", "Travis::Sidekiq::BuildRequest"⟩

end JobKinds

/-- The settings. -/
structure Settings where
  api : ApiSettings
  logging : LoggingSettings
  jobs : JobKinds
  deriving Repr, DecidableEq

/-! ## Checking -/

/-- A value that is not acceptable. -/
inductive SettingFault where
  /-- The mount path does not start with a slash. -/
  | mountStart (path : String)
  /-- The mount path ends with a slash. -/
  | mountEnd (path : String)
  | level (e : LoggingError)
  | job (identifier : String) (fault : KindFault)
  deriving Repr, DecidableEq

/-- The wording of a fault, with the place of the value in front. -/
def SettingFault.message : SettingFault → String
  | .mountStart path => "api.mount_path: must start with '/': " ++ path
  | .mountEnd path => "api.mount_path: must not end with '/': " ++ path
  | .level e => "logging.level: " ++ e.message
  | .job identifier .emptyQueue => "jobs." ++ identifier ++ ".queue: must not be empty"
  | .job identifier .emptyClass => "jobs." ++ identifier ++ ".class: must not be empty"

namespace Settings

/-- The settings if nothing is said. -/
def default : Settings := ⟨.default, .default, .default⟩

/-- The preset for development: detailed lines for people. -/
def development : Settings :=
  { default with logging := ⟨true, "debug", .pretty, true, true⟩ }

/-- The preset for production: plain JSON lines. -/
def production : Settings :=
  { default with logging := ⟨true, "info", .json, false, false⟩ }

/-- A mount path is empty, or starts with a slash and does not end with one. -/
def mountFault? (path : String) : Option SettingFault :=
  match path.toList with
  | [] => none
  | c :: rest =>
    if c != '/' then some (.mountStart path)
    else if (c :: rest).getLast? == some '/' then some (.mountEnd path)
    else none

/-- The fault of a filter text. -/
def levelFault? (level : String) : Option SettingFault :=
  match Filter.parse level with
  | .ok _ => none
  | .error e => some (.level e)

/-- The first fault of a kind of job, in the order of the identifiers; the queue is looked at
first. -/
def jobsFault? (ks : JobKinds) : Option SettingFault :=
  ks.entries.findSome? fun (identifier, k) =>
    if Unicode.blankText k.queue then some (.job identifier .emptyQueue)
    else if Unicode.blankText k.class_ then some (.job identifier .emptyClass)
    else none

/-- The first value that is not acceptable: the mount path is looked at first, then the filter, then
the jobs. -/
def fault? (s : Settings) : Option SettingFault :=
  (mountFault? s.api.mountPath).or ((levelFault? s.logging.level).or (jobsFault? s.jobs))

/-! ## Text -/

/-- A kind of job as JSON. -/
def jobJson (k : JobKind) : Json := .obj [("queue", .str k.queue), ("class", .str k.class_)]

/-- The settings as JSON, in the order of their declaration. -/
def toJson (s : Settings) : Json :=
  .obj [
    ("api", .obj [("mount_path", .str s.api.mountPath), ("service_name", .str s.api.serviceName)]),
    ("logging", .obj [
      ("enabled", .bool s.logging.enabled),
      ("level", .str s.logging.level),
      ("format", .str s.logging.format.name),
      ("ansi_enabled", .bool s.logging.ansiEnabled),
      ("include_location", .bool s.logging.includeLocation)]),
    ("jobs", .obj (s.jobs.entries.map fun (identifier, k) => (identifier, jobJson k)))]

end Settings

/-! ## Section by section -/

/-- Settings of which some sections are given. -/
structure SettingsDraft where
  api : Option ApiSettings
  logging : Option LoggingSettings
  jobs : Option JobKinds
  deriving Repr

namespace SettingsDraft

/-- No section given. -/
def empty : SettingsDraft := ⟨none, none, none⟩

/-- Gives one kind of job; the first one joins those that are there if nothing is said. -/
def job (d : SettingsDraft) (identifier : String) (k : JobKind) : SettingsDraft :=
  { d with jobs := some ((d.jobs.getD .default).insert identifier k) }

/-- The settings, with the sections that are not given as if nothing were said. -/
def settings (d : SettingsDraft) : Settings :=
  ⟨d.api.getD .default, d.logging.getD .default, d.jobs.getD .default⟩

end SettingsDraft

end RequestBinding
