import RequestBinding.Environment.Basic
import RequestBinding.Settings.Basic
import RequestBinding.Text.Form
import RequestBinding.Unicode.Case

/-!
# Settings in environment variables

A variable such as `APP__API__MOUNT_PATH` sets one value: its name is a prefix that the program
chooses, a section and a key, with two underscores between them. Variables that are not made that
way are ignored.

## Main definitions

* `VariableFault` - why the value of a variable is not acceptable
* `Settings.override`, `Settings.overrideAll` - applies variables
-/

namespace RequestBinding

/-- Why the value of a variable is not acceptable. -/
inductive VariableFault where
  | notFlag
  | notFormat
  deriving Repr, DecidableEq

/-- The wording of a fault. -/
def VariableFault.reason : VariableFault → String
  | .notFlag => "expected boolean"
  | .notFormat => "expected 'json' or 'pretty'"

namespace Settings

/-- The truth value that a text denotes, in any case. -/
def flag? (s : String) : Option Bool :=
  let word := Unicode.lowercase s
  if ["true", "1", "yes", "on"].contains word then some true
  else if ["false", "0", "no", "off"].contains word then some false
  else none

/-- The parts of a text between pairs of underscores. -/
def parts (current : List Char) : List Char → List (List Char)
  | [] => [current.reverse]
  | '_' :: '_' :: rest => current.reverse :: parts [] rest
  | c :: rest => parts (c :: current) rest

/-- The section and key that a variable is about: what follows the prefix and two underscores, in
parts. -/
def keyOf? (before name : String) : Option (List String) :=
  if before.toList.isPrefixOf name.toList then
    match name.toList.drop before.toList.length with
    | '_' :: '_' :: rest => some ((parts [] rest).map String.ofList)
    | _ => none
  else none

/-- Changes the kind of job with an identifier, which is taken in small letters; a new one has
neither queue nor class. -/
def changeJob (s : Settings) (identifier : String) (change : JobKind → JobKind) : Settings :=
  let identifier := Unicode.lowercase identifier
  { s with jobs := s.jobs.insert identifier (change ((s.jobs.get? identifier).getD ⟨"", ""⟩)) }

/-- Changes the section about logging by a truth value. -/
def changeFlag (s : Settings) (value : String) (change : LoggingSettings → Bool → LoggingSettings) :
    Except VariableFault Settings :=
  match flag? value with
  | some b => .ok { s with logging := change s.logging b }
  | none => .error .notFlag

/-- Sets the value under a section and a key. -/
def overrideKey (s : Settings) (key : List String) (value : String) :
    Except VariableFault Settings :=
  match key with
  | ["API", "MOUNT_PATH"] => .ok { s with api := { s.api with mountPath := value } }
  | ["API", "SERVICE_NAME"] => .ok { s with api := { s.api with serviceName := value } }
  | ["LOGGING", "ENABLED"] => s.changeFlag value fun l b => { l with enabled := b }
  | ["LOGGING", "LEVEL"] => .ok { s with logging := { s.logging with level := value } }
  | ["LOGGING", "FORMAT"] =>
    match LogFormat.ofName? (Unicode.lowercase value) with
    | some f => .ok { s with logging := { s.logging with format := f } }
    | none => .error .notFormat
  | ["LOGGING", "ANSI_ENABLED"] => s.changeFlag value fun l b => { l with ansiEnabled := b }
  | ["LOGGING", "INCLUDE_LOCATION"] =>
    s.changeFlag value fun l b => { l with includeLocation := b }
  | ["JOBS", identifier, "QUEUE"] =>
    .ok (s.changeJob identifier fun k => { k with queue := value })
  | ["JOBS", identifier, "CLASS"] =>
    .ok (s.changeJob identifier fun k => { k with class_ := value })
  | _ => .ok s

/-- Applies one variable; a fault comes with the name of the variable. -/
def override (before : String) (s : Settings) (v : String × String) :
    Except (String × VariableFault) Settings :=
  match keyOf? before v.1 with
  | none => .ok s
  | some key =>
    match s.overrideKey key v.2 with
    | .ok s => .ok s
    | .error fault => .error (v.1, fault)

/-- Applies a list of variables in order, up to the first fault. -/
def overrideAll (before : String) (s : Settings) :
    List (String × String) → Except (String × VariableFault) Settings
  | [] => .ok s
  | v :: rest =>
    match override before s v with
    | .ok s => overrideAll before s rest
    | .error e => .error e

end Settings

end RequestBinding
