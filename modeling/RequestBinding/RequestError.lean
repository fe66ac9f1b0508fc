import RequestBinding.Json.Basic

/-!
# Errors of a request

Every failure while a request is bound ends as a `RequestError`, which knows its HTTP status, the
name that clients tell errors apart by, and the subject it is about.

## Main definitions

* `ErrorCategory` - the three categories with their status and name
* `RequestError` - the errors
-/

namespace RequestBinding

/-- The categories of errors. -/
inductive ErrorCategory where
  | notFound
  | wrongParams
  | internal
  deriving Repr, DecidableEq

namespace ErrorCategory

/-- The HTTP status of a category. -/
def status : ErrorCategory → Nat
  | .notFound => 404
  | .wrongParams => 400
  | .internal => 500

/-- The name of a category in answers. -/
def name : ErrorCategory → String
  | .notFound => "not_found"
  | .wrongParams => "wrong_params"
  | .internal => "internal"

/-- The category with a name. -/
def ofName? (s : String) : Option ErrorCategory :=
  [notFound, wrongParams, internal].find? (·.name == s)

/-- Reads a category: its name as a string, or an object whose only member has the name as its key
and null as its value. -/
def ofJson? : Json → Option ErrorCategory
  | .str s => ofName? s
  | .obj [(k, .null)] => ofName? k
  | _ => none

end ErrorCategory

/-- An error of a request. -/
inductive RequestError where
  /-- Nothing is there; `resource` names the kind of thing that was looked for. -/
  | notFound (message : String) (resource : Option String)
  /-- The parameters are unusable; `field` names the one at fault. -/
  | wrongParams (message : String) (field : Option String)
  | internal (message : String)
  deriving Repr, DecidableEq

namespace RequestError

/-- The error that a resource of some kind is not there. -/
def resourceNotFound (resource : String) : RequestError :=
  .notFound (resource ++ " not found") (some resource)

/-- The error that a field is missing. -/
def missingField (field : String) : RequestError :=
  .wrongParams ("missing " ++ field) (some field)

/-- The wording of an error. -/
def message : RequestError → String
  | .notFound m _ => m
  | .wrongParams m _ => m
  | .internal m => m

/-- The category of an error. -/
def category : RequestError → ErrorCategory
  | .notFound .. => .notFound
  | .wrongParams .. => .wrongParams
  | .internal _ => .internal

/-- What an error is about. -/
def subject : RequestError → Option String
  | .notFound _ resource => resource
  | .wrongParams _ field => field
  | .internal _ => none

end RequestError

/-- The names of resources: lowercase ASCII letters, digits and underscores, not beginning with a
digit. -/
def isResourceName (s : String) : Bool :=
  match s.toList with
  | [] => false
  | c :: rest =>
    (c.isLower || c == '_') && rest.all fun d => d.isLower || d.isDigit || d == '_'

end RequestBinding
