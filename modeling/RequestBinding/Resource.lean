import RequestBinding.Constraint
import RequestBinding.Http.Method

/-!
# Trees of resources

A resource has a name, a path template, constraints for placeholders, and entries: actions and
nested resources, in the order in which they are declared. `Resource.declarations` walks a tree in
that order and says for each resource and each action what holds there: the chain of templates from
the root, and the constraints in effect.

## Main definitions

* `Action`, `Resource`, `Entry` - trees
* `Resource.route`, `Resource.capture`, `Resource.action`, … - building a resource
* `Scope`, `Declaration`, `Resource.declarations` - walking a tree
-/

namespace RequestBinding

/-- An action: its method, its name, and the template after that of its resource. -/
structure Action where
  method : Method
  name : String
  subpath : String
  deriving Repr, DecidableEq

mutual

/-- A resource with its entries. -/
inductive Resource where
  | node (name template : String) (constraints : Constraints) (entries : List Entry)

/-- What is declared within a resource. -/
inductive Entry where
  | action (a : Action)
  | nested (r : Resource)

end

namespace Resource

instance : Inhabited Resource := ⟨.node "" "" .empty []⟩

/-- The name of a resource. -/
def name : Resource → String
  | .node name _ _ _ => name

/-- The template of a resource alone. -/
def template : Resource → String
  | .node _ template _ _ => template

/-- The constraints that a resource declares. -/
def constraints : Resource → Constraints
  | .node _ _ constraints _ => constraints

/-- The entries of a resource. -/
def entries : Resource → List Entry
  | .node _ _ _ entries => entries

/-- The actions declared on a resource itself. -/
def actions (r : Resource) : List Action :=
  r.entries.filterMap fun
    | .action a => some a
    | .nested _ => none

/-- The resources nested directly under a resource. -/
def children (r : Resource) : List Resource :=
  r.entries.filterMap fun
    | .action _ => none
    | .nested child => some child

/-! ## Building -/

/-- A resource that has only a name. -/
def named (name : String) : Resource := .node name "" .empty []

/-- Sets the template. -/
def route (r : Resource) (template : String) : Resource :=
  .node r.name template r.constraints r.entries

/-- Declares a constraint for a field, or for a field of a certain resource. -/
def capture (r : Resource) (field : String) (c : Constraint) : Resource :=
  .node r.name r.template (r.constraints.declare field c) r.entries

/-- Adds an entry at the end. -/
def add (r : Resource) (e : Entry) : Resource :=
  .node r.name r.template r.constraints (r.entries ++ [e])

/-- Declares an action. -/
def action (r : Resource) (method : Method) (name subpath : String) : Resource :=
  r.add (.action ⟨method, name, subpath⟩)

/-- Declares an action for GET on the template of the resource itself. -/
def get (r : Resource) (name : String) : Resource := r.action .get name ""

/-- Declares an action for GET on a template below the resource. -/
def getAt (r : Resource) (name subpath : String) : Resource := r.action .get name subpath

/-- Declares an action for POST on the template of the resource itself. -/
def post (r : Resource) (name : String) : Resource := r.action .post name ""

/-- Declares an action for POST on a template below the resource. -/
def postAt (r : Resource) (name subpath : String) : Resource := r.action .post name subpath

/-- Nests a resource. -/
def resource (r child : Resource) : Resource := r.add (.nested child)

end Resource

/-! ## Walking -/

/-- What holds within a resource: its name, the templates from the root to its own, the constraints
it declares, and those in effect. -/
structure Scope where
  resource : String
  templates : List String
  declared : Constraints
  constraints : Constraints
  deriving Repr

/-- A step of a walk: a resource is entered, or an action of it is met. -/
inductive Declaration where
  | resource (s : Scope)
  | action (s : Scope) (a : Action)
  deriving Repr

namespace Resource

/-- The scope of a resource below given templates and constraints. -/
def scopeOf (templates : List String) (inherited : Constraints) (name template : String)
    (declared : Constraints) : Scope :=
  ⟨name, templates ++ [template], declared, inherited.overlay declared⟩

mutual

/-- The declarations of a tree below given templates and constraints. -/
def declarationsIn (templates : List String) (inherited : Constraints) :
    Resource → List Declaration
  | .node name template declared entries =>
    let s := scopeOf templates inherited name template declared
    .resource s :: declarationsOfEntries s entries

/-- The declarations of one entry. -/
def declarationsOfEntry (s : Scope) : Entry → List Declaration
  | .action a => [.action s a]
  | .nested r => declarationsIn s.templates s.constraints r

/-- The declarations of a list of entries. -/
def declarationsOfEntries (s : Scope) : List Entry → List Declaration
  | [] => []
  | e :: rest => declarationsOfEntry s e ++ declarationsOfEntries s rest

end

/-- The declarations of a tree, in the order in which they are written. -/
def declarations (r : Resource) : List Declaration := declarationsIn [] .empty r

end Resource

end RequestBinding
