import RequestBinding.Http.Method
import RequestBinding.RequestError
import RequestBinding.Resource
import RequestBinding.Route.Basic
import RequestBinding.Signal

/-!
# Tables of routes

The routes of a list of trees stand in a table in the order in which their actions are declared.
The first route with the method of a request whose pattern matches the path wins. Compiling stops
at the first declaration with a fault.

## Main definitions

* `RouteError` - why there is no table, or no route
* `RouteTable.compile` - the table of a list of trees
* `RouteTable.find`, `RouteTable.allowed` - matching
-/

namespace RequestBinding

/-- Why there is no table, or no route for a request. -/
inductive RouteError where
  | notFound (method : Method) (path : String)
  | invalidTemplate (template : String) (fault : TemplateFault)
  | invalidResource (name : String)
  | invalidConstraint (field : String) (fault : ConstraintFault)
  deriving Repr, DecidableEq

namespace RouteError

/-- The wording of the error that no route matches. -/
def notFoundMessage (method : Method) (path : String) : String :=
  "no route matches " ++ method.name ++ " " ++ path

/-- The wording of an error. -/
def message : RouteError → String
  | .notFound method path => notFoundMessage method path
  | .invalidTemplate template fault =>
    "invalid route template '" ++ template ++ "': " ++ fault.reason
  | .invalidResource name => "invalid resource name '" ++ name ++ "'"
  | .invalidConstraint field fault =>
    "invalid capture constraint for '" ++ field ++ "': " ++ fault.reason

/-- Whether no route matched. -/
def isNotFound : RouteError → Bool
  | .notFound .. => true
  | _ => false

/-- The error of the request: faults of the declarations are not the client's. -/
def toRequestError (e : RouteError) : RequestError :=
  if e.isNotFound then .notFound e.message none else .internal e.message

end RouteError

/-- The part of the program that reports on routes. -/
def Route.target : String := "ariadne_router::router"

/-! ## Compiling -/

namespace Declaration

/-- Reads a template. -/
def parseTemplate (source : String) : Except RouteError Template :=
  match Template.parse source with
  | .ok t => .ok t
  | .error fault => .error (.invalidTemplate source fault)

/-- Whether a resource may be entered: its name, its template and its constraints are looked at in
this order. -/
def check (s : Scope) : Except RouteError Unit :=
  if isResourceName s.resource then
    match (s.templates.getLast?).map parseTemplate with
    | some (.error e) => .error e
    | _ =>
      match s.declared.fault? with
      | some (field, fault) => .error (.invalidConstraint field fault)
      | none => .ok ()
  else .error (.invalidResource s.resource)

/-- The route of an action. -/
def route (s : Scope) (a : Action) : Except RouteError Route :=
  match (s.templates ++ [a.subpath]).mapM parseTemplate with
  | .error e => .error e
  | .ok ts =>
    let template := String.join (s.templates ++ [a.subpath])
    match Pattern.ofTemplates s.constraints ts with
    | some pattern => .ok ⟨a.method, template, pattern, a.name, s.resource⟩
    | none => .error (.invalidTemplate template .pattern)

/-- The routes that a declaration adds. -/
def routes : Declaration → Except RouteError (List Route)
  | .resource s => (check s).map fun _ => []
  | .action s a => (route s a).map ([·])

end Declaration

/-- Routes in the order in which they are tried. -/
structure RouteTable where
  routes : List Route
  deriving Repr, Inhabited

namespace RouteTable

/-- The event that reports a route. -/
def routeEvent (r : Route) : Event :=
  ⟨.trace, Route.target, "compiled route",
    [("route", .text r.display), ("pattern", .text r.pattern.text)]⟩

/-- The routes of a list of declarations, up to the first fault. -/
def compileAll : List Declaration → Traced (Except RouteError (List Route))
  | [] => .pure (.ok [])
  | d :: rest =>
    match d.routes with
    | .error e => .pure (.error e)
    | .ok rs =>
      let more := compileAll rest
      ⟨more.value.map (rs ++ ·), rs.map (fun r => .event (routeEvent r)) ++ more.signals⟩

/-- The table of a list of trees. -/
def compile (resources : List Resource) : Traced (Except RouteError RouteTable) :=
  (compileAll (resources.flatMap Resource.declarations)).bind fun
    | .error e => .pure (.error e)
    | .ok rs =>
      .logged (.ok ⟨rs⟩)
        ⟨.debug, Route.target, "compiled route table", [("routes", .count rs.length)]⟩

/-! ## Matching -/

/-- The first route with a method that accepts a path, with the values captured. -/
def find? (t : RouteTable) (method : Method) (path : String) : Option (Route × Captures) :=
  t.routes.findSome? fun r =>
    if r.method = method then (r.captures path).map (r, ·) else none

/-- The route for a request, with the values captured. -/
def find (t : RouteTable) (method : Method) (path : String) :
    Traced (Except RouteError (Route × Captures)) :=
  match t.find? method path with
  | some (r, captures) =>
    .logged (.ok (r, captures)) ⟨.debug, Route.target, "route matched",
      [("method", .text method.name), ("path", .text path), ("handler", .text r.handler)]⟩
  | none =>
    .logged (.error (.notFound method path)) ⟨.debug, Route.target, "no route matched",
      [("method", .text method.name), ("path", .text path)]⟩

/-- The methods of the routes that accept a path, each once, in the order of the routes. -/
def allowed (t : RouteTable) (path : String) : List Method :=
  ((t.routes.filter (·.accepts path)).map (·.method)).eraseDups

end RouteTable

end RequestBinding
