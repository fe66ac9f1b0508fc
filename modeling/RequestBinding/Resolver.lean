import RequestBinding.Coerce
import RequestBinding.Field
import RequestBinding.Jobs.Registry
import RequestBinding.User

/-!
# Reading fields of a request

A field is looked for in three places of a bag: under its qualified name; within the object that
stands under its resource; and under its bare name, if the request is about that resource. The
first place that is there decides, even if it holds nothing or null. The resource that a request is
about is the one its type hint names, else the main type of the matched route.

A resolver remembers what it has answered, and answers can be set beforehand.

## Main definitions

* `Tier`, `Resolver.tier`, `Resolver.lookup` - where a field is found, and its value
* `Resolver.resolve`, `Resolver.set`, `Resolver.required` - reading and setting fields
* `Resolver.includes` - the names to include in the answer
* `Resolver.perform` - hands a job over
-/

namespace RequestBinding

/-- Where the value of a field is looked for. -/
inductive Tier where
  | qualified
  | nested
  | bare
  | unresolved
  deriving Repr, DecidableEq

/-- The name of a tier that decides. -/
def Tier.name : Tier → String
  | .qualified => "qualified"
  | .nested => "nested"
  | .bare => "bare"
  | .unresolved => ""

/-- Reads the fields of one request. -/
structure Resolver where
  params : Params
  mainType : String
  /-- The answers that are fixed, latest first. -/
  known : List (Field × Option Json)
  jobs : Option JobRegistry

namespace Resolver

/-- A resolver that has not answered yet. -/
def new (params : Params) (mainType : String) (jobs : Option JobRegistry) : Resolver :=
  ⟨params, mainType, [], jobs⟩

/-- The resource that a request is about. -/
def effectiveTypeOf (params : Params) (mainType : String) : String :=
  params.typeHint.getD mainType

/-- The resource that the request is about. -/
def effectiveType (r : Resolver) : String := effectiveTypeOf r.params r.mainType

/-- A value, unless it is null. -/
def present : Option Json → Option Json
  | some .null => none
  | v => v

/-- The place that decides on a field, and what it holds. -/
def tierOf (params : Params) (mainType : String) (f : Field) : Tier × Option Json :=
  match params.get? f.qualified with
  | some v => (.qualified, some v)
  | none =>
    match params.get? f.owner with
    | some (.obj members) => (.nested, Members.get? f.name members)
    | _ =>
      if effectiveTypeOf params mainType = f.owner then (.bare, params.get? f.name)
      else (.unresolved, none)

/-- The value of a field in a bag. -/
def lookup (params : Params) (mainType : String) (f : Field) : Option Json :=
  present (tierOf params mainType f).2

/-- The part of the program that reports on fields. -/
def target : String := "ariadne_params::resolver"

/-- The event that reports where a field was found. -/
def lookupEvent (r : Resolver) (f : Field) : Event :=
  let tier := (tierOf r.params r.mainType f).1
  if tier = .unresolved then
    ⟨.trace, target, "parameter not resolved",
      [("param", .text f.qualified), ("effective_type", .text r.effectiveType)]⟩
  else
    ⟨.trace, target, "resolved parameter",
      [("param", .text f.qualified), ("tier", .text tier.name)]⟩

/-- The answer that is fixed for a field. -/
def known? (r : Resolver) (f : Field) : Option (Option Json) :=
  (r.known.find? (·.1 == f)).map (·.2)

/-- Fixes the answer for a field. -/
def set (r : Resolver) (f : Field) (v : Option Json) : Resolver :=
  { r with known := (f, v) :: r.known }

/-- The value of a field, and the resolver that remembers it. -/
def resolve (r : Resolver) (f : Field) : Traced (Option Json × Resolver) :=
  match r.known? f with
  | some v => .pure (v, r)
  | none =>
    let v := lookup r.params r.mainType f
    .logged (v, r.set f v) (r.lookupEvent f)

/-- The value of a field that has to be there; neither nothing nor false counts as a value. -/
def required (r : Resolver) (f : Field) : Traced (Except ParamsError Json × Resolver) :=
  (r.resolve f).bind fun (v, r) =>
    let missing : Traced (Except ParamsError Json × Resolver) :=
      ⟨(.error (.missing f.qualified), r), [
        .event ⟨.debug, target, "missing required parameter", [("param", .text f.qualified)]⟩,
        .count (.paramsMissing f.qualified)]⟩
    match v with
    | none => missing
    | some (.bool false) => missing
    | some v => .pure (.ok v, r)

/-- Whether a name is to be included in the answer. -/
def includes (r : Resolver) (key : String) : Bool :=
  (Json.names (r.params.get? Params.includeKey)).contains key

/-- Hands a job over by way of the registry, if there is one. -/
def perform (r : Resolver) (identifier : String) (args : List Json) (stamp : Stamp) (o : Outbox) :
    Traced (Except ParamsError JobId × Outbox) :=
  match r.jobs with
  | none => .pure (.error (.job .noRegistry), o)
  | some jobs =>
    (jobs.perform identifier args stamp o).map fun (result, o) =>
      (match result with
        | .ok id => .ok id
        | .error e => .error (.job e), o)

end Resolver

end RequestBinding
