import RequestBinding.Environment.File
import RequestBinding.Json.Reader
import RequestBinding.Settings.Document
import RequestBinding.Settings.Overrides
import RequestBinding.Toml.Reader

/-!
# Loading settings

A loader starts from a preset, takes settings from documents, and at the end applies environment
variables and checks the values. Each document replaces all settings, and each preset too.

## Main definitions

* `Directory` - the files that can be read
* `SettingsError` - why settings cannot be loaded
* `Loader` - the steps of loading
-/

namespace RequestBinding

/-! ## Files -/

/-- What stands under a name in a directory. -/
inductive DirectoryEntry where
  | file (contents : List UInt8)
  | directory
  deriving Repr, DecidableEq

/-- The entries of a directory by path. The directory stands at an unknown place: there are
directories around it, but nothing is known to lie in them. -/
structure Directory where
  entries : List (String × DirectoryEntry)
  deriving Repr

/-- Where a path leads: to a place given by the names on the way from the directory, or to one of
the directories around it. -/
inductive Location where
  | inside (names : List String)
  | around
  deriving Repr, DecidableEq

namespace Directory

/-- The names between the slashes of a path. -/
def names (path : String) : List String :=
  (Form.splitAll '/' path.toList).map String.ofList

/-- The names of a path, without those that lead nowhere. -/
def parts (path : String) : List String := (names path).filter fun p => p != "" && p != "."

/-- The entry with the given parts. A directory is there also by what lies in it. -/
def lookup? (d : Directory) (ps : List String) : Option DirectoryEntry :=
  match ps, d.entries.find? (fun e => parts e.1 == ps) with
  | [], _ => some .directory
  | _, some e => some e.2
  | _, none =>
    if d.entries.any (fun e => ps.isPrefixOf (parts e.1)) then some .directory else none

/-- What is at a location. -/
def entry? (d : Directory) : Location → Option DirectoryEntry
  | .inside ps => d.lookup? ps
  | .around => some .directory

/-- Goes on from a directory by a name: an empty one and `.` stay, and `..` leaves the directory. -/
def step? (d : Directory) (l : Location) (name : String) : Option Location :=
  match d.entry? l, l with
  | some .directory, .inside ps =>
    if name == "" || name == "." then some l
    else if name == ".." then some (if ps.isEmpty then .around else .inside ps.dropLast)
    else if (d.lookup? (ps ++ [name])).isSome then some (.inside (ps ++ [name]))
    else none
  | some .directory, .around =>
    if name == "" || name == "." || name == ".." then some .around else none
  | _, _ => none

/-- The number of bytes from which on a path is too long. -/
def maxPath : Nat := 4096

/-- What stands under a path, which is relative to the directory unless it begins with a slash. Paths
that are empty or too long lead nowhere. -/
def get? (d : Directory) (path : String) : Option DirectoryEntry :=
  if path.isEmpty || maxPath ≤ path.utf8ByteSize then none
  else
    let start := if path.toList.head? == some '/' then Location.around else .inside []
    ((names path).foldlM d.step? start).bind d.entry?

end Directory

/-- The characters of a file name after its last dot; none if there is no dot, or only in front. -/
def extension? (path : String) : Option String :=
  match (Directory.parts path).getLast? with
  | none => none
  | some name =>
    if name = ".." then none
    else
      let after := name.toList.reverse.takeWhile (· != '.')
      match name.toList.reverse.dropWhile (· != '.') with
      | [] => none
      | [_] => none
      | _ => some (String.ofList after.reverse)

/-! ## Errors -/

/-- Why settings cannot be loaded. -/
inductive SettingsError where
  | noFile (path : String)
  | unreadable (path : String)
  | malformed (d : Dialect)
  | invalid (fault : SettingFault)
  | badVariable (name : String) (fault : VariableFault)
  | unknownFileFormat (path : String)
  | unknownFormat (name : String)
  | environmentFile
  deriving Repr, DecidableEq

/-- The wording of an error. -/
def SettingsError.message : SettingsError → String
  | .noFile path => "no configuration file at " ++ path
  | .unreadable path => "cannot read configuration file " ++ path
  | .malformed .toml => "invalid TOML configuration: <reason>"
  | .malformed .json => "invalid JSON configuration: <reason>"
  | .invalid fault => fault.message
  | .badVariable name fault => "environment variable " ++ name ++ ": " ++ fault.reason
  | .unknownFileFormat path =>
    "configuration error: unsupported configuration file format: " ++ path
  | .unknownFormat name => "configuration error: unsupported configuration format: " ++ name
  | .environmentFile => "configuration error: failed to load .env: <reason>"

namespace Settings

/-- Checks all values. -/
def check (s : Settings) : Except SettingsError Settings :=
  match s.fault? with
  | some fault => .error (.invalid fault)
  | none => .ok s

/-- The language with a name, in any case. -/
def dialect? (name : String) : Option Dialect :=
  match Unicode.lowercase name with
  | "toml" => some .toml
  | "json" => some .json
  | _ => none

/-- Reads a document. -/
def ofText (d : Dialect) (cs : List Char) : Except SettingsError Settings :=
  let doc? :=
    match d with
    | .json => (Json.readRaw cs).map Document.ofJson
    | .toml => Toml.read cs
  match doc?.bind (Document.settings? d) with
  | some s => .ok s
  | none => .error (.malformed d)

end Settings

/-! ## Steps -/

/-- Settings on the way: those so far, the prefix of environment variables in capitals, whether a
file was loaded, and the environment. -/
structure Loader where
  settings : Settings
  envPrefix : Option String
  fileLoaded : Bool
  environment : Environment
  deriving Repr

namespace Loader

/-- A loader that starts from the default settings. -/
def new (e : Environment) : Loader := ⟨.default, none, false, e⟩

/-- Starts again from other settings. -/
def preset (l : Loader) (s : Settings) : Loader := { l with settings := s }

/-- Takes the settings of a document given as a text. -/
def withText (l : Loader) (text format : String) : Except SettingsError Loader :=
  match Settings.dialect? format with
  | none => .error (.unknownFormat format)
  | some d => (Settings.ofText d text.toList).map l.preset

/-- Takes the settings of a file, whose extension says its language. -/
def withFile (l : Loader) (dir : Directory) (path : String) : Except SettingsError Loader :=
  match dir.get? path with
  | none => .error (.noFile path)
  | some .directory => .error (.unreadable path)
  | some (.file contents) =>
    match Utf8.decode contents with
    | .error _ => .error (.unreadable path)
    | .ok cs =>
      match (extension? path).bind Settings.dialect? with
      | none => .error (.unknownFileFormat path)
      | some d => (Settings.ofText d cs).map fun s => { l with settings := s, fileLoaded := true }

/-- Takes the settings of a file, if it is there. -/
def withOptionalFile (l : Loader) (dir : Directory) (path : String) :
    Except SettingsError Loader :=
  if (dir.get? path).isSome then l.withFile dir path else .ok l

/-- Chooses the prefix of environment variables. -/
def withEnvPrefix (l : Loader) (before : String) : Loader :=
  { l with envPrefix := some (Unicode.uppercase before) }

/-- Sets the variables of the environment file, if it is there. -/
def withEnvironmentFile (l : Loader) (dir : Directory) : Except SettingsError Loader :=
  match dir.get? ".env" with
  | some (.file contents) =>
    match EnvironmentFile.load l.environment contents with
    | some e => .ok { l with environment := e }
    | none => .error .environmentFile
  | _ => .ok l

/-- The settings after environment variables, checked. -/
def load (l : Loader) : Except SettingsError Settings :=
  match l.envPrefix with
  | none => l.settings.check
  | some before =>
    match l.settings.overrideAll before l.environment.entries with
    | .ok s => s.check
    | .error (name, fault) => .error (.badVariable name fault)

end Loader

end RequestBinding
