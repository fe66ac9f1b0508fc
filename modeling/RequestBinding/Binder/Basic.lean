import RequestBinding.Binder.Body
import RequestBinding.Http.Uri
import RequestBinding.Resolver
import RequestBinding.Route.Table
import RequestBinding.Settings.Basic

/-!
# Binding requests

A binder finds the route of a request below its mount path and gathers the parameters: those
captured from the path, then those of the query, then those of the body. What is there first under
a key stays.

## Main definitions

* `Binder`, `Binder.ofSettings` - binders
* `Binder.strip?` - paths below the mount path
* `Binder.allowed` - the methods for a target
* `Binding`, `Binder.bind`, `Binder.bindRequest` - binding
-/

namespace RequestBinding

/-- Binds requests to the routes of a table. -/
structure Binder where
  routes : RouteTable
  mountPath : String
  /-- The types of results by handler, where they differ from the resource; the latest counts. -/
  resultTypes : List (String × String)
  jobs : Option JobRegistry

/-- A request that is bound: its route, and the reader of its parameters. -/
structure Binding where
  route : Route
  resolver : Resolver

/-- A request as it comes in. -/
structure Request where
  method : Method
  uri : Uri
  headers : List (String × String)
  body : List UInt8
  deriving Repr

namespace Binder

/-- A binder without mount path and jobs. -/
def new (routes : RouteTable) : Binder := ⟨routes, "", [], none⟩

/-- Sets the mount path. -/
def withMountPath (b : Binder) (path : String) : Binder := { b with mountPath := path }

/-- Sets the type of the results of a handler. -/
def withResultType (b : Binder) (handler type : String) : Binder :=
  { b with resultTypes := (handler, type) :: b.resultTypes }

/-- Sets the registry of jobs. -/
def withJobs (b : Binder) (jobs : JobRegistry) : Binder := { b with jobs := some jobs }

/-- The binder that settings describe; their kinds of jobs have to be acceptable. -/
def ofSettings (s : Settings) (routes : RouteTable) : Except RequestError Binder :=
  match JobRegistry.empty.registerAll s.jobs.entries with
  | .ok jobs => .ok (((new routes).withMountPath s.api.mountPath).withJobs jobs)
  | .error e => .error e.toRequestError

/-! ## Paths -/

/-- The path below a mount path; none if it lies outside. -/
def stripPath? (mount path : String) : Option String :=
  if mount.isEmpty then some path
  else if mount.toList.isPrefixOf path.toList then
    match path.toList.drop mount.toList.length with
    | [] => some "/"
    | '/' :: rest => some (String.ofList ('/' :: rest))
    | _ => none
  else none

/-- The path below the mount path; none if it lies outside. -/
def strip? (b : Binder) (path : String) : Option String := stripPath? b.mountPath path

/-- The methods for which a target has a route. -/
def allowed (b : Binder) (uri : Uri) : List Method :=
  match b.strip? uri.path with
  | some path => b.routes.allowed path
  | none => []

/-! ## Binding -/

/-- The type that the results of a route have. -/
def typeOf (b : Binder) (r : Route) : String :=
  match b.resultTypes.find? (·.1 == r.handler) with
  | some t => t.2
  | none => r.resource

/-- The bag of the values captured from a path. -/
def captured (c : Captures) : Params := .ofList (c.pairs.map fun p => (p.1, .str p.2))

/-- The parameters of a request: those of the path, then those of the query, then those of the
body. -/
def gather (c : Captures) (query : Option String) (body : Body) : Except BodyFault Params :=
  let p := captured c
  body.extend (match query with | some q => p.extendQuery q | none => p)

/-- The part of the program that reports on binding. -/
def target : String := "ariadne::dispatch"

/-- The route of a request below the mount path; counts the match or the miss. -/
def route (b : Binder) (method : Method) (uri : Uri) :
    Traced (Except RequestError (Route × Captures)) :=
  match b.strip? uri.path with
  | none =>
    ⟨.error (.notFound (RouteError.notFoundMessage method uri.path) none), [
      .event ⟨.debug, target, "outside mount path", [("method", .text method.name),
        ("path", .text uri.path), ("mount", .text b.mountPath)]⟩,
      .count .routeMisses]⟩
  | some path =>
    (b.routes.find method path).bind fun
      | .error e => ⟨.error e.toRequestError, [.count .routeMisses]⟩
      | .ok (r, c) => ⟨.ok (r, c), [.count (.routeMatches r.resource r.action)]⟩

/-- Binds a request whose body is to be read in a known way. -/
def bindBody (b : Binder) (method : Method) (uri : Uri) (body : Body) :
    Traced (Except RequestError Binding) :=
  (b.route method uri).bind fun
    | .error e => .pure (.error e)
    | .ok (r, c) =>
      match gather c uri.query body with
      | .error fault => .pure (.error (ParamsError.body fault).toRequestError)
      | .ok p =>
        let type := b.typeOf r
        .logged (.ok ⟨r, .new p type b.jobs⟩) ⟨.debug, target, "request bound",
          [("handler", .text r.handler), ("resource", .text type), ("params", .count p.size)]⟩

/-- Binds a request with a JSON body. -/
def bind (b : Binder) (method : Method) (uri : Uri) (body : List UInt8) :
    Traced (Except RequestError Binding) :=
  b.bindBody method uri (.json body)

/-- Binds a request whose header fields say how its body is read. -/
def bindRequest (b : Binder) (r : Request) : Traced (Except RequestError Binding) :=
  b.bindBody r.method r.uri (.classify (Body.contentType? r.headers) r.body)

end Binder

end RequestBinding
