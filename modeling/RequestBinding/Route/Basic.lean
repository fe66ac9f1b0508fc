import RequestBinding.Captures
import RequestBinding.Http.Method
import RequestBinding.Template.Pattern
import RequestBinding.Text.Percent

/-!
# Routes

A route leads from a method and the paths of a template to an action of a resource.

## Main definitions

* `Route` - routes
* `Route.handler` - the resource and the action of a route
* `Route.captures` - matching a path
-/

namespace RequestBinding

/-- A route: its method, its whole template, the pattern of its paths, and the action of the
resource that it leads to. -/
structure Route where
  method : Method
  template : String
  pattern : Pattern
  action : String
  resource : String
  deriving Repr

namespace Route

/-- The handler of an action of a resource. -/
def handlerOf (resource action : String) : String := resource ++ "#" ++ action

/-- The handler that a route leads to. -/
def handler (r : Route) : String := handlerOf r.resource r.action

/-- The keys under which a route captures values, in the order of its template. -/
def keys (r : Route) : List String := r.pattern.groups.map (·.key)

/-- A route in one line. -/
def display (r : Route) : String :=
  r.method.name ++ " " ++ r.template ++ " -> " ++ r.handler

/-- The values of the groups that took part in a match, decoded. -/
def capturesOf (groups : List CaptureGroup) (stop : Regex.Stop) : Captures :=
  ⟨groups.filterMap fun g =>
    (stop.get? g.name).map fun text => (g.key, Percent.decodeText (String.ofList text))⟩

/-- The values that a path gives to the placeholders of a route; none if it does not match. -/
def captures (r : Route) (path : String) : Option Captures :=
  (r.pattern.regex.find path.toList).map (capturesOf r.pattern.groups)

/-- Whether a path matches, whatever the method. -/
def accepts (r : Route) (path : String) : Bool := (r.pattern.regex.find path.toList).isSome

end Route

end RequestBinding
