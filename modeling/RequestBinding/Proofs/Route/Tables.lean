import RequestBinding.Proofs.Outcome
import RequestBinding.Proofs.Template.Groups
import RequestBinding.Route.Table

/-!
# Routes of compiled tables

Each route of a compiled table comes from an action that is declared, and captures only under the
keys of placeholders in its templates. These keys are qualified names, so they have a dot in them.

## Main definitions

* `RouteTable.actions` - the actions that are declared in trees

## Main statements

* `Declaration.keys_of_route` - the keys of a route are those of its templates
* `RouteTable.forall₂_of_compile` - the routes of a table are those of the actions, in order
* `RouteTable.dot_mem_of_find?` - values are captured under qualified names alone
-/

namespace RequestBinding

namespace Declaration

/-- The action that is declared, if it is one, with its scope. -/
def action? : Declaration → Option (Scope × Action)
  | .resource _ => none
  | .action s a => some (s, a)

theorem parseTemplate_eq_ok_iff {source : String} {t : Template} :
    parseTemplate source = .ok t ↔ Template.parse source = .ok t := by
  unfold parseTemplate
  cases Template.parse source <;> simp

/-- What a route is made of. -/
theorem exists_eq_of_route {s : Scope} {a : Action} {r : Route} (h : route s a = .ok r) :
    ∃ ts p, (s.templates ++ [a.subpath]).mapM parseTemplate = .ok ts ∧
      Pattern.ofTemplates s.constraints ts = some p ∧
      r = ⟨a.method, String.join (s.templates ++ [a.subpath]), p, a.name, s.resource⟩ := by
  unfold route at h
  split at h
  · cases h
  · next ts hts =>
    simp only at h
    split at h
    · next p hp =>
      cases h
      exact ⟨ts, p, hts, hp, rfl⟩
    · cases h

theorem method_of_route {s : Scope} {a : Action} {r : Route} (h : route s a = .ok r) :
    r.method = a.method := by
  obtain ⟨_, _, _, _, rfl⟩ := exists_eq_of_route h
  rfl

theorem template_of_route {s : Scope} {a : Action} {r : Route}
    (h : route s a = .ok r) : r.template = String.join (s.templates ++ [a.subpath]) := by
  obtain ⟨_, _, _, _, rfl⟩ := exists_eq_of_route h
  rfl

/-- The route of an action has the pattern of its templates. -/
theorem exists_templates_of_route {s : Scope} {a : Action} {r : Route} (h : route s a = .ok r) :
    ∃ ts, (s.templates ++ [a.subpath]).mapM parseTemplate = .ok ts ∧
      Pattern.ofTemplates s.constraints ts = some r.pattern := by
  obtain ⟨ts, p, hts, hp, rfl⟩ := exists_eq_of_route h
  exact ⟨ts, hts, hp⟩

/-- The segments of a chain of templates begin with those of the first one. -/
theorem segments_of_head {source : String} {ss : List Segment}
    (hsource : parseTemplate source = .ok ⟨source, ss⟩) {sources : List String}
    (hhead : sources.head? = some source) {ts : List Template}
    (hts : sources.mapM parseTemplate = .ok ts) : ∃ us,
      sources.tail.mapM parseTemplate = .ok us ∧
        ts.flatMap (·.segments) = ss ++ us.flatMap (·.segments) := by
  obtain ⟨rest, rfl⟩ := List.head?_eq_some_iff.1 hhead
  rw [List.mapM_cons, hsource] at hts
  obtain ⟨_, hfirst, hts⟩ := exists_of_bind_eq_ok hts
  obtain ⟨us, hus, hts⟩ := exists_of_bind_eq_ok hts
  cases hfirst
  cases hts
  exact ⟨us, hus, List.flatMap_cons⟩

/-- A route captures under the keys of the placeholders in its templates, in their order. -/
theorem keys_of_route {s : Scope} {a : Action} {r : Route} (h : route s a = .ok r) :
    ∃ ts, (s.templates ++ [a.subpath]).mapM parseTemplate = .ok ts ∧
      r.keys = Segment.keys (ts.flatMap (·.segments)) := by
  obtain ⟨ts, hts, hp⟩ := exists_templates_of_route h
  refine ⟨ts, hts, ?_⟩
  rw [Route.keys, Pattern.groups_of_ofTemplates hp, numbered_keys]

end Declaration

namespace Route

theorem keys_capturesOf_sublist (groups : List CaptureGroup) (stop : Regex.Stop) :
    (capturesOf groups stop).keys.Sublist (groups.map (·.key)) := by
  induction groups with
  | nil => exact .slnil
  | cons g groups ih =>
    rw [Captures.keys, capturesOf] at ih ⊢
    rw [List.filterMap_cons]
    cases stop.get? g.name with
    | none => exact ih.cons g.key
    | some text => exact ih.cons_cons g.key

/-- What is captured is captured under keys of the route, in their order. -/
theorem keys_sublist_of_captures {r : Route} {path : String} {c : Captures}
    (h : r.captures path = some c) : c.keys.Sublist r.keys := by
  rw [captures, Option.map_eq_some_iff] at h
  obtain ⟨stop, _, rfl⟩ := h
  exact keys_capturesOf_sublist _ stop

theorem mem_keys_of_captures {r : Route} {path : String} {c : Captures}
    (h : r.captures path = some c) {k : String} (hk : k ∈ c.keys) : k ∈ r.keys :=
  (keys_sublist_of_captures h).subset hk

end Route

namespace RouteTable

/-- A declaration adds the route of its action, if it is one. -/
theorem forall₂_of_routes {d : Declaration} {rs : List Route} (h : d.routes = .ok rs) :
    List.Forall₂ (fun p r => Declaration.route p.1 p.2 = .ok r) d.action?.toList rs := by
  cases d with
  | resource s =>
    -- entering a resource only looks for faults
    obtain ⟨_, _, rfl⟩ := exists_of_map_eq_ok h
    exact .nil
  | action s a =>
    obtain ⟨r, hr, rfl⟩ := exists_of_map_eq_ok h
    exact .cons hr .nil

/-- The routes are those of the actions that are declared, in their order. -/
theorem forall₂_of_compileAll {ds : List Declaration} {rs : List Route}
    (h : (compileAll ds).value = .ok rs) :
    List.Forall₂ (fun p r => Declaration.route p.1 p.2 = .ok r)
      (ds.filterMap Declaration.action?) rs := by
  induction ds generalizing rs with
  | nil =>
    cases h
    exact .nil
  | cons d ds ih =>
    rw [compileAll] at h
    split at h
    · cases h
    · next first hfirst =>
      obtain ⟨more, hmore, rfl⟩ := exists_of_map_eq_ok h
      have hactions : (d :: ds).filterMap Declaration.action? =
          d.action?.toList ++ ds.filterMap Declaration.action? := by
        rw [List.filterMap_cons]
        cases d.action? <;> rfl
      rw [hactions]
      exact List.rel_append (forall₂_of_routes hfirst) (ih hmore)

/-- The actions that are declared in trees, each with its scope. -/
def actions (resources : List Resource) : List (Scope × Action) :=
  (resources.flatMap Resource.declarations).filterMap Declaration.action?

theorem value_compile_eq_ok_iff {resources : List Resource} {t : RouteTable} :
    (compile resources).value = .ok t ↔
      (compileAll (resources.flatMap Resource.declarations)).value = .ok t.routes := by
  obtain ⟨routes⟩ := t
  rw [compile, Traced.value_bind]
  split <;> simp_all [Traced.pure, Traced.logged]

theorem forall₂_of_compile {resources : List Resource} {t : RouteTable}
    (h : (compile resources).value = .ok t) :
    List.Forall₂ (fun p r => Declaration.route p.1 p.2 = .ok r) (actions resources) t.routes :=
  forall₂_of_compileAll (value_compile_eq_ok_iff.1 h)

theorem mem_actions_iff {resources : List Resource} {s : Scope} {a : Action} :
    (s, a) ∈ actions resources ↔
      Declaration.action s a ∈ resources.flatMap Resource.declarations := by
  rw [actions, List.mem_filterMap]
  constructor
  · rintro ⟨d, hd, heq⟩
    cases d with
    | resource s => cases heq
    | action s' a' =>
      cases heq
      exact hd
  · intro h
    exact ⟨_, h, rfl⟩

/-- Each route of a compiled table comes from an action that is declared. -/
theorem exists_action_of_compile {resources : List Resource} {t : RouteTable}
    (h : (compile resources).value = .ok t) {r : Route} (hr : r ∈ t.routes) :
    ∃ s a, Declaration.action s a ∈ resources.flatMap Resource.declarations ∧
      Declaration.route s a = .ok r := by
  obtain ⟨⟨s, a⟩, hmem, hroute⟩ := exists_of_forall₂ (forall₂_of_compile h) hr
  exact ⟨s, a, mem_actions_iff.1 hmem, hroute⟩

/-- A route that is found is one of the table, has the method, and captures what is found. -/
theorem find?_spec {t : RouteTable} {method : Method} {path : String} {r : Route} {c : Captures}
    (h : t.find? method path = some (r, c)) :
    r ∈ t.routes ∧ r.method = method ∧ r.captures path = some c := by
  rw [find?, List.findSome?_eq_some_iff] at h
  obtain ⟨before, r', after, hroutes, hr', _⟩ := h
  split at hr'
  · next hmethod =>
    obtain ⟨c', hc', heq⟩ := Option.map_eq_some_iff.1 hr'
    cases heq
    rw [hroutes]
    exact ⟨List.mem_append_right before List.mem_cons_self, hmethod, hc'⟩
  · cases hr'

theorem of_find? {t : RouteTable} {method : Method} {path : String} {r : Route} {c : Captures}
    (h : t.find? method path = some (r, c)) : r ∈ t.routes ∧ r.captures path = some c :=
  ⟨(find?_spec h).1, (find?_spec h).2.2⟩

/-- The routes of a compiled table capture under qualified names alone. -/
theorem dot_mem_of_find? {resources : List Resource} {t : RouteTable}
    (ht : (compile resources).value = .ok t) {method : Method} {path : String} {r : Route}
    {c : Captures} (h : t.find? method path = some (r, c)) {k : String} (hk : k ∈ c.keys) :
    '.' ∈ k.toList := by
  obtain ⟨hr, hc⟩ := of_find? h
  obtain ⟨s, a, _, hroute⟩ := exists_action_of_compile ht hr
  obtain ⟨ts, _, hkeys⟩ := Declaration.keys_of_route hroute
  have hmem := Route.mem_keys_of_captures hc hk
  rw [hkeys] at hmem
  obtain ⟨resource, field, rfl⟩ := Segment.exists_of_mem_keys _ hmem
  rw [Segment.key, String.toList_ofList]
  exact List.mem_append_right resource List.mem_cons_self

end RouteTable

end RequestBinding
