import RequestBinding.Settings.Basic

/-!
# Settings in documents

A document in JSON or TOML gives some of the settings; what it does not mention is as if nothing
were said. A section is a table of its fields, or a list of them in the order of their declaration.
Unknown and repeated fields are refused.

## Main definitions

* `Document` - what JSON and TOML documents have in common
* `Dialect` - where they differ
* `Document.settings?`, `Document.logging?` - reading settings
-/

namespace RequestBinding

/-- A document: texts, truth values, lists and tables; nothing, as JSON has it; and scalars of any
other kind. -/
inductive Document where
  | text (s : String)
  | flag (b : Bool)
  | nothing
  | scalar
  | list (items : List Document)
  | table (members : List (String × Document))
  deriving Repr, Inhabited

/-- The languages in which documents are written. -/
inductive Dialect where
  | json
  | toml
  deriving Repr, DecidableEq

namespace Document

mutual

/-- The document that a JSON value is. -/
def ofJson : Json → Document
  | .null => .nothing
  | .bool b => .flag b
  | .int _ => .scalar
  | .float _ => .scalar
  | .str s => .text s
  | .arr items => .list (ofJsonItems items)
  | .obj members => .table (ofJsonMembers members)

/-- The documents of a list of JSON values. -/
def ofJsonItems : List Json → List Document
  | [] => []
  | v :: rest => ofJson v :: ofJsonItems rest

/-- The documents of the members of a JSON object. -/
def ofJsonMembers : List (String × Json) → List (String × Document)
  | [] => []
  | (k, v) :: rest => (k, ofJson v) :: ofJsonMembers rest

end

/-! ## Parts -/

/-- A text. -/
def text? : Document → Option String
  | .text s => some s
  | _ => none

/-- A truth value. -/
def flag? : Document → Option Bool
  | .flag b => some b
  | _ => none

/-- Whether a document stands for the absence of further contents: nothing in JSON, an empty
container in TOML. -/
def isVoid (d : Dialect) : Document → Bool
  | .nothing => d == .json
  | .list [] => d == .toml
  | .table [] => d == .toml
  | _ => false

/-- A choice: the name as a text, or a table whose only member has the name as its key. -/
def choice? (d : Dialect) : Document → Option String
  | .text s => some s
  | .table [(k, v)] => if v.isVoid d then some k else none
  | _ => none

/-- The fields of a section. A table has known fields only, each at most once. In a list the fields
stand in order, and the last ones may be left out; TOML ignores what comes after the last field. -/
def fields? (d : Dialect) (names : List String) : Document → Option (List (String × Document))
  | .table ms =>
    if ms.all (fun m => names.contains m.1) && (ms.map (·.1)).Nodup then some ms else none
  | .list items =>
    if d == .json && names.length < items.length then none else some (names.zip items)
  | _ => none

/-- The value of a field, or its default if the field is not there. -/
def field? {α : Type} (ms : List (String × Document)) (name : String) (read : Document → Option α)
    (default : Option α) : Option α :=
  match Members.get? name ms with
  | some v => read v
  | none => default

/-! ## Sections -/

/-- The section about mounting. -/
def api? (d : Dialect) (doc : Document) : Option ApiSettings := do
  let ms ← doc.fields? d ["mount_path", "service_name"]
  let mountPath ← field? ms "mount_path" text? (some ApiSettings.default.mountPath)
  let serviceName ← field? ms "service_name" text? (some ApiSettings.default.serviceName)
  return ⟨mountPath, serviceName⟩

/-- The section about logging. -/
def logging? (d : Dialect) (doc : Document) : Option LoggingSettings := do
  let ms ← doc.fields? d ["enabled", "level", "format", "ansi_enabled", "include_location"]
  let base := LoggingSettings.default
  let enabled ← field? ms "enabled" flag? (some base.enabled)
  let level ← field? ms "level" text? (some base.level)
  let format ← field? ms "format" (fun v => (v.choice? d).bind LogFormat.ofName?) (some base.format)
  let ansiEnabled ← field? ms "ansi_enabled" flag? (some base.ansiEnabled)
  let includeLocation ← field? ms "include_location" flag? (some base.includeLocation)
  return ⟨enabled, level, format, ansiEnabled, includeLocation⟩

/-- A kind of job, both of whose fields have to be there. -/
def job? (d : Dialect) (doc : Document) : Option JobKind := do
  let ms ← doc.fields? d ["queue", "class"]
  let queue ← field? ms "queue" text? none
  let class_ ← field? ms "class" text? none
  return ⟨queue, class_⟩

/-- The kinds of jobs: a table by identifier, in which the last one of an identifier stays. -/
def jobs? (d : Dialect) : Document → Option JobKinds
  | .table ms =>
    (ms.mapM fun (m : String × Document) => (job? d m.2).map (m.1, ·)).map JobKinds.ofList
  | _ => none

/-- All settings. -/
def settings? (d : Dialect) (doc : Document) : Option Settings := do
  let ms ← doc.fields? d ["api", "logging", "jobs"]
  let api ← field? ms "api" (api? d) (some .default)
  let logging ← field? ms "logging" (logging? d) (some .default)
  let jobs ← field? ms "jobs" (jobs? d) (some .default)
  return ⟨api, logging, jobs⟩

end Document

end RequestBinding
