import RequestBinding.Proofs.Route.Tables
import RequestBinding.Proofs.Template.Placeholder
import RequestBinding.Proofs.Template.Source

/-!
# Tables flatten their trees

A walk over trees of resources meets each resource and each action with its line of ancestors. What
a route looks like is told by the line of its action alone: neither siblings nor descendants of the
resources on it matter. A table is compiled exactly if nothing that is met has a fault, and its
routes are those of the actions in the order of the walk.

## Main definitions

* `Lineage` - a resource with its ancestors, and what holds there
* `Visit`, `Resource.visits` - walks
* `Visit.Sound` - what is met has no fault
* `Lineage.IsRoute` - the route of an action

## Main statements

* `Lineage.pattern_constraints` - scopes have the constraints of lines of ancestors
* `Resource.declarations_eq_visits` - declarations are what a walk meets
* `RouteTable.compile_flattens` - compiled tables are walks
-/

namespace RequestBinding

/-- The segments of a chain of templates, each read by itself. -/
def Template.SegmentsOf (sources : List String) (ss : List Segment) : Prop :=
  ∃ ts, List.Forall₂ (fun source t => parse source = .ok t) sources ts ∧
    ss = ts.flatMap (·.segments)

/-! ## Lines of ancestors -/

/-- A resource with its ancestors, the nearest first. -/
structure Lineage where
  resource : Resource
  ancestors : List Resource

namespace Lineage

/-- The resource and its ancestors, from the inside outward. -/
def members (l : Lineage) : List Resource := l.resource :: l.ancestors

/-- The templates from the root to the resource. -/
def templates (l : Lineage) : List String := l.members.reverse.map Resource.template

/-- What the nearest member that declares a constraint under a key declares. -/
def declared? (l : Lineage) (key : String) : Option Constraint :=
  l.members.findSome? fun r => r.constraints.get? key

/-- The constraint for a placeholder: the nearest under its qualified name, else the nearest under
its field alone. -/
def governing? (l : Lineage) (resource field : String) : Option Constraint :=
  (l.declared? (resource ++ "." ++ field)).or (l.declared? field)

/-- The pattern for a placeholder. -/
def patternOf (l : Lineage) (resource field : String) : String :=
  ((l.governing? resource field).map Constraint.regex).getD Constraint.defaultPattern

/-- A route leads to an action of the resource: it has the texts of all templates up to the
sub-path of the action, and the pattern of their segments. -/
structure IsRoute (l : Lineage) (a : Action) (r : Route) : Prop where
  method : r.method = a.method
  action : r.action = a.name
  resource : r.resource = l.resource.name
  template : r.template = String.join (l.templates ++ [a.subpath])
  pattern : ∃ ss, Template.SegmentsOf (l.templates ++ [a.subpath]) ss ∧
    Segment.pattern? l.patternOf ss = some r.pattern

end Lineage

/-! ## Walks -/

/-- What a walk meets. -/
inductive Visit where
  | resource (l : Lineage)
  | action (l : Lineage) (a : Action)

/-- A constraint can be used: a pattern is not empty and well-formed. -/
def Constraint.Valid : Constraint → Prop
  | .digits => True
  | .pattern text => text ≠ "" ∧ (Regex.ofPattern? text.toList).isSome = true

namespace Visit

/-- The action that is met, if it is one. -/
def action? : Visit → Option (Lineage × Action)
  | .resource _ => none
  | .action l a => some (l, a)

/-- What is met has no fault. -/
def Sound : Visit → Prop
  | .resource l => isResourceName l.resource.name = true ∧
      (∃ t, Template.parse l.resource.template = .ok t) ∧
      ∀ e ∈ l.resource.constraints.entries, e.2.Valid
  | .action l a => (∃ t, Template.parse a.subpath = .ok t) ∧
      ∃ ss, Template.SegmentsOf (l.templates ++ [a.subpath]) ss ∧
        (Segment.pattern? l.patternOf ss).isSome = true

end Visit

namespace Resource

mutual

/-- A walk over a tree below ancestors. -/
def visitsBelow (ancestors : List Resource) : Resource → List Visit
  | .node name template constraints entries =>
    let l : Lineage := ⟨.node name template constraints entries, ancestors⟩
    .resource l :: visitsOfEntries l entries

def visitsOfEntry (l : Lineage) : Entry → List Visit
  | .action a => [.action l a]
  | .nested r => visitsBelow l.members r

def visitsOfEntries (l : Lineage) : List Entry → List Visit
  | [] => []
  | e :: rest => visitsOfEntry l e ++ visitsOfEntries l rest

end

/-- A walk over a tree: entries are met in the order in which they are declared, with all that is
nested in one before the next. -/
def visits (r : Resource) : List Visit := visitsBelow [] r

end Resource

/-! ## Scopes -/

theorem Constraints.get?_overlay (inherited own : Constraints) (key : String) :
    (inherited.overlay own).get? key = (own.get? key).or (inherited.get? key) := by
  rw [get?, overlay, List.find?_append, Option.map_or]
  rfl

namespace Lineage

/-- The constraints within nested resources, the innermost first. -/
def inEffect (members : List Resource) : Constraints :=
  members.foldr (fun r inherited => inherited.overlay r.constraints) .empty

/-- The scope of a line of ancestors. -/
def scope (l : Lineage) : Scope :=
  ⟨l.resource.name, l.templates, l.resource.constraints, inEffect l.members⟩

theorem get?_inEffect (members : List Resource) (key : String) :
    (inEffect members).get? key = members.findSome? fun r => r.constraints.get? key := by
  induction members with
  | nil => rfl
  | cons r members ih =>
    have hrest := Constraints.get?_overlay (inEffect members) r.constraints key
    rw [ih] at hrest
    rw [List.findSome?_cons]
    refine hrest.trans ?_
    cases r.constraints.get? key <;> rfl

/-- A scope has the constraints of its line of ancestors. -/
theorem pattern_constraints (l : Lineage) : l.scope.constraints.pattern = l.patternOf := by
  funext resource field
  have hget : ∀ key, l.scope.constraints.get? key = l.declared? key := get?_inEffect l.members
  rw [Constraints.pattern_eq, Constraints.nearest?, hget, hget]
  rfl

end Lineage

/-- What is declared where a walk meets something. -/
def Visit.declaration : Visit → Declaration
  | .resource l => .resource l.scope
  | .action l a => .action l.scope a

namespace Resource

mutual

theorem declarationsIn_eq (ancestors : List Resource) (r : Resource) :
    declarationsIn (ancestors.reverse.map template) (Lineage.inEffect ancestors) r =
      (visitsBelow ancestors r).map Visit.declaration := by
  match r with
  | .node name template constraints entries =>
    have hscope : scopeOf (ancestors.reverse.map Resource.template) (Lineage.inEffect ancestors)
        name template constraints =
          Lineage.scope ⟨.node name template constraints entries, ancestors⟩ := by
      simp [scopeOf, Lineage.scope, Lineage.templates, Lineage.members, Lineage.inEffect,
        Resource.name, Resource.template, Resource.constraints]
    rw [declarationsIn, visitsBelow, hscope, declarationsOfEntries_eq, List.map_cons]
    rfl

theorem declarationsOfEntry_eq (l : Lineage) (e : Entry) :
    declarationsOfEntry l.scope e = (visitsOfEntry l e).map Visit.declaration := by
  match e with
  | .action a => rw [declarationsOfEntry, visitsOfEntry]; rfl
  | .nested r =>
    rw [declarationsOfEntry, visitsOfEntry]
    exact declarationsIn_eq l.members r

theorem declarationsOfEntries_eq (l : Lineage) (es : List Entry) :
    declarationsOfEntries l.scope es = (visitsOfEntries l es).map Visit.declaration := by
  match es with
  | [] => rw [declarationsOfEntries, visitsOfEntries, List.map_nil]
  | e :: rest =>
    rw [declarationsOfEntries, visitsOfEntries, declarationsOfEntry_eq,
      declarationsOfEntries_eq, List.map_append]

end

/-- The declarations of a tree are what a walk meets. -/
theorem declarations_eq_visits (r : Resource) :
    r.declarations = r.visits.map Visit.declaration := declarationsIn_eq [] r

/-- The declarations of several trees are what a walk over all of them meets. -/
theorem flatMap_declarations (resources : List Resource) :
    resources.flatMap declarations = (resources.flatMap visits).map Visit.declaration := by
  rw [List.map_flatMap]
  exact List.flatMap_congr fun r _ => r.declarations_eq_visits

end Resource

/-! ## Faults -/

theorem Constraint.check_eq_ok_iff (c : Constraint) : c.check = .ok () ↔ c.Valid := by
  cases c with
  | digits => exact iff_of_true rfl trivial
  | pattern text =>
    have hempty : text.isEmpty = true ↔ text = "" := String.isEmpty_iff
    rw [check, Valid]
    by_cases ht : text = ""
    · rw [if_pos (hempty.2 ht)]
      simp [ht]
    · rw [if_neg (mt hempty.1 ht)]
      split <;> simp_all

theorem Constraints.fault?_eq_none_iff (cs : Constraints) :
    cs.fault? = none ↔ ∀ e ∈ cs.entries, e.2.Valid := by
  rw [fault?, List.findSome?_eq_none_iff]
  refine forall₂_congr fun e _ => ?_
  rw [← Constraint.check_eq_ok_iff]
  simp only
  split <;> simp_all

namespace Declaration

theorem segmentsOf_iff {sources : List String} {ss : List Segment} :
    Template.SegmentsOf sources ss ↔
      ∃ ts, sources.mapM parseTemplate = .ok ts ∧ ss = ts.flatMap (·.segments) := by
  simp only [Template.SegmentsOf, mapM_eq_ok_iff, parseTemplate_eq_ok_iff]

/-- A resource is entered if there is no fault in what it declares itself. -/
theorem check_eq_ok_iff (l : Lineage) : check l.scope = .ok () ↔ (Visit.resource l).Sound := by
  have hlast : l.scope.templates.getLast? = some l.resource.template := by
    simp [Lineage.scope, Lineage.templates, Lineage.members]
  have hfault := Constraints.fault?_eq_none_iff l.resource.constraints
  rw [check, hlast, Option.map_some, Visit.Sound, ← hfault]
  simp only [← parseTemplate_eq_ok_iff]
  by_cases hname : isResourceName l.resource.name = true
  · rw [if_pos (show isResourceName l.scope.resource = true from hname)]
    cases parseTemplate l.resource.template with
    | error _ => simp
    | ok t =>
      rw [show l.scope.declared = l.resource.constraints from rfl]
      cases l.resource.constraints.fault? <;> simp [hname]
  · rw [if_neg (show ¬ isResourceName l.scope.resource = true from hname)]
    simp [hname]

/-- The route of an action is what its line of ancestors makes of it. -/
theorem route_eq_ok_iff (l : Lineage) (a : Action) (r : Route) :
    route l.scope a = .ok r ↔ l.IsRoute a r := by
  constructor
  · intro h
    obtain ⟨ts, hts, hp⟩ := exists_templates_of_route h
    rw [Pattern.ofTemplates_eq, l.pattern_constraints] at hp
    have hpattern : ∃ ss, Template.SegmentsOf (l.templates ++ [a.subpath]) ss ∧
        Segment.pattern? l.patternOf ss = some r.pattern :=
      ⟨_, segmentsOf_iff.2 ⟨ts, hts, rfl⟩, hp⟩
    unfold route at h
    rw [hts] at h
    simp only at h
    split at h
    · cases h
      exact ⟨rfl, rfl, rfl, rfl, hpattern⟩
    · cases h
  · rintro ⟨hmethod, haction, hresource, htemplate, ss, hss, hp⟩
    obtain ⟨ts, hts, rfl⟩ := segmentsOf_iff.1 hss
    rw [← l.pattern_constraints, ← Pattern.ofTemplates_eq] at hp
    have hts' : (l.scope.templates ++ [a.subpath]).mapM parseTemplate = .ok ts := hts
    unfold route
    simp only [hts', hp]
    rw [← hmethod, ← haction]
    cases r
    cases hresource
    cases htemplate
    rfl

/-- An action has a route if all that makes up its pattern is well-formed. -/
theorem exists_route_iff (l : Lineage) (a : Action) :
    (∃ r, route l.scope a = .ok r) ↔ (Visit.action l a).Sound := by
  constructor
  · rintro ⟨r, hr⟩
    obtain ⟨ss, hss, hp⟩ := ((route_eq_ok_iff l a r).1 hr).pattern
    refine ⟨?_, ss, hss, by rw [hp]; rfl⟩
    obtain ⟨ts, hts, _⟩ := hss
    have hlast := List.forall₂_reverse_iff.2 hts
    rw [List.reverse_append, List.reverse_singleton, List.singleton_append,
      List.forall₂_cons_left_iff] at hlast
    obtain ⟨t, _, ht, _⟩ := hlast
    exact ⟨t, ht⟩
  · rintro ⟨_, ss, hss, hp⟩
    obtain ⟨p, hp⟩ := Option.isSome_iff_exists.1 hp
    exact ⟨⟨a.method, _, p, a.name, l.resource.name⟩,
      (route_eq_ok_iff l a _).2 ⟨rfl, rfl, rfl, rfl, ss, hss, hp⟩⟩

end Declaration

/-! ## Tables -/

namespace RouteTable

/-- What is met adds the route of an action, or nothing. -/
theorem routes_eq_ok_iff (v : Visit) (rs : List Route) : v.declaration.routes = .ok rs ↔
    v.Sound ∧ List.Forall₂ (fun p => p.1.IsRoute p.2) v.action?.toList rs := by
  cases v with
  | resource l =>
    rw [← Declaration.check_eq_ok_iff, Visit.action?, Option.toList_none,
      List.forall₂_nil_left_iff]
    show (Declaration.check l.scope).map (fun _ => []) = .ok rs ↔ _
    cases Declaration.check l.scope with
    | error _ => simp [Except.map]
    | ok _ => simp [Except.map, eq_comm]
  | action l a =>
    rw [← Declaration.exists_route_iff, Visit.action?, Option.toList_some]
    show (Declaration.route l.scope a).map ([·]) = .ok rs ↔ _
    constructor
    · intro h
      obtain ⟨r, hr, rfl⟩ := exists_of_map_eq_ok h
      exact ⟨⟨r, hr⟩, .cons ((Declaration.route_eq_ok_iff l a r).1 hr) .nil⟩
    · rintro ⟨_, h⟩
      obtain ⟨r, _, hr, hnil, rfl⟩ := List.forall₂_cons_left_iff.1 h
      cases hnil
      rw [(Declaration.route_eq_ok_iff l a r).2 hr]
      rfl

/-- Routes are compiled exactly if all that is met is sound, in the order in which it is met. -/
theorem compileAll_eq_ok_iff (vs : List Visit) (rs : List Route) :
    (compileAll (vs.map Visit.declaration)).value = .ok rs ↔ (∀ v ∈ vs, v.Sound) ∧
      List.Forall₂ (fun p => p.1.IsRoute p.2) (vs.filterMap Visit.action?) rs := by
  induction vs generalizing rs with
  | nil => simp [compileAll, Traced.pure, eq_comm]
  | cons v vs ih =>
    have hactions : (v :: vs).filterMap Visit.action? =
        v.action?.toList ++ vs.filterMap Visit.action? := by
      rw [List.filterMap_cons]
      cases v.action? <;> rfl
    rw [List.map_cons, compileAll, hactions, List.forall_mem_cons]
    constructor
    · intro h
      split at h
      · cases h
      · next first hfirst =>
        obtain ⟨more, hmore, rfl⟩ := exists_of_map_eq_ok h
        obtain ⟨hv, hroutes⟩ := (routes_eq_ok_iff v first).1 hfirst
        obtain ⟨hvs, hrest⟩ := (ih more).1 hmore
        exact ⟨⟨hv, hvs⟩, List.rel_append hroutes hrest⟩
    · rintro ⟨⟨hv, hvs⟩, hroutes⟩
      -- the routes of the first visit are as many as it has actions
      have hfirst := (List.forall₂_take_append rs _ _ hroutes.flip).flip
      have hrest := (List.forall₂_drop_append rs _ _ hroutes.flip).flip
      rw [(routes_eq_ok_iff v _).2 ⟨hv, hfirst⟩]
      simp only [(ih _).2 ⟨hvs, hrest⟩, Except.map, List.take_append_drop]

/-- The actions of a walk that meets no fault have routes. -/
theorem exists_routes_of_sound {vs : List Visit} (h : ∀ v ∈ vs, v.Sound) :
    ∃ rs, List.Forall₂ (fun p => p.1.IsRoute p.2) (vs.filterMap Visit.action?) rs := by
  refine exists_forall₂ fun p hp => ?_
  obtain ⟨v, hv, hp⟩ := List.mem_filterMap.1 hp
  cases v with
  | resource l => cases hp
  | action l a =>
    cases hp
    obtain ⟨r, hr⟩ := (Declaration.exists_route_iff l a).2 (h _ hv)
    exact ⟨r, (Declaration.route_eq_ok_iff l a r).1 hr⟩

/-- A table is compiled exactly if a walk over the trees meets nothing with a fault. Its routes are
then those of the actions, in the order of the walk. -/
theorem compile_flattens (resources : List Resource) :
    ((∃ t, (compile resources).value = .ok t) ↔
      ∀ v ∈ resources.flatMap Resource.visits, v.Sound) ∧
    ∀ t, (compile resources).value = .ok t →
      List.Forall₂ (fun p => p.1.IsRoute p.2)
        ((resources.flatMap Resource.visits).filterMap Visit.action?) t.routes := by
  have hwalk : resources.flatMap Resource.declarations =
      (resources.flatMap Resource.visits).map Visit.declaration := by
    rw [List.map_flatMap]
    exact List.flatMap_congr fun r _ => r.declarations_eq_visits
  -- a table is what has been compiled of the whole walk
  have hvalue : (compile resources).value =
      (compileAll ((resources.flatMap Resource.visits).map Visit.declaration)).value.map
        RouteTable.mk := by
    rw [compile, Traced.value_bind, hwalk]
    split <;> simp_all [Except.map, Traced.pure, Traced.logged]
  rw [hvalue]
  refine ⟨⟨?_, ?_⟩, ?_⟩
  · rintro ⟨t, ht⟩
    obtain ⟨rs, hrs, _⟩ := exists_of_map_eq_ok ht
    exact ((compileAll_eq_ok_iff _ rs).1 hrs).1
  · intro hsound
    obtain ⟨rs, hrs⟩ := exists_routes_of_sound hsound
    exact ⟨⟨rs⟩, by rw [(compileAll_eq_ok_iff _ rs).2 ⟨hsound, hrs⟩]; rfl⟩
  · intro t ht
    obtain ⟨rs, hrs, rfl⟩ := exists_of_map_eq_ok ht
    exact ((compileAll_eq_ok_iff _ rs).1 hrs).2

/-- A repository with builds and users. Within builds a slug has to be a number; neither the users
nor the repository itself take notice of it. -/
def nestedTrees : List Resource :=
  [(Resource.named "repository").route "/repo/{repository.slug}"
    |>.capture "slug" .slug
    |>.get "show"
    |>.resource ((Resource.named "build").route "/build/{build.id}"
      |>.capture "id" .digits |>.capture "slug" .digits |>.get "find")
    |>.resource ((Resource.named "user").route "/user/{user.id}"
      |>.capture "user.id" (.pattern "[a-z]+") |>.get "find")
    |>.post "create"]

theorem compile_flattens_nestedTrees : ∃ t, (compile nestedTrees).value = .ok t ∧
    List.Forall₂ (fun p => p.1.IsRoute p.2)
      ((nestedTrees.flatMap Resource.visits).filterMap Visit.action?) t.routes := by
  have hok : (compile nestedTrees).value.isOk = true := by decide +kernel
  obtain ⟨t, ht⟩ := exists_of_isOk hok
  exact ⟨t, ht, (compile_flattens nestedTrees).2 t ht⟩

example : (compile nestedTrees).value.toOption.map (fun t => t.routes.map (·.pattern.text)) =
    some ["^/repo/(?P<c0>[^/]+%2[fF][^/]+)$",
      "^/repo/(?P<c0>[0-9]+)/build/(?P<c1>[0-9]+)$",
      "^/repo/(?P<c0>[^/]+%2[fF][^/]+)/user/(?P<c1>[a-z]+)$",
      "^/repo/(?P<c0>[^/]+%2[fF][^/]+)$"] := by decide +kernel

end RouteTable

end RequestBinding
