import Mathlib.Data.List.Induction
import RequestBinding.Proofs.Binder.Precedence
import RequestBinding.Proofs.Route.Acceptance
import RequestBinding.Proofs.Text.Cutting

/-!
# The types of results

The parameters of a request are read for the type of the results of its handler, which is the
resource of the route unless another type was registered for the handler. A handler is written as
the resource, a number sign and the action. Actions may be called anything, but a name of a resource
with a number sign in it is refused when a table is compiled. So handlers that are written alike are
the same, and a type that is registered for one of them is not used for another one.

## Main definitions

* `Binder.Setup`, `Binder.assembled` - how binders are set up
* `Binder.Typed` - the type of the results of a handler
* `Binder.SameExcept` - binders that differ at most in the type of one handler

## Main statements

* `Route.handlerOf_eq_iff` - handlers that are written alike
* `RouteTable.isResourceName_of_compile` - the resources of a compiled table
* `Binder.exists_assembled_of_ofSettings` - the binder of settings
* `Binder.typed_assembled` - the types of a binder are those registered last
* `Binder.SameExcept.binds` - the type of one handler does not matter for others
* `Binder.typed_of_binds` - the types of bindings
-/

namespace RequestBinding

/-! ## Handlers -/

theorem hash_not_mem_of_isResourceName {name : String} (h : isResourceName name = true) :
    '#' ∉ name.toList := by
  rw [isResourceName] at h
  intro hmem
  cases hname : name.toList with
  | nil =>
    rw [hname] at hmem
    cases hmem
  | cons c rest =>
    rw [hname] at h hmem
    simp only [Bool.and_eq_true, List.all_eq_true] at h
    rcases List.mem_cons.1 hmem with rfl | hmem
    · exact absurd h.1 (by decide)
    · exact absurd (h.2 _ hmem) (by decide)

/-- The first number sign ends the name of the resource, whatever the action is called. -/
theorem Route.handlerOf_eq_iff {resource resource' action action' : String}
    (h : '#' ∉ resource.toList) (h' : '#' ∉ resource'.toList) :
    handlerOf resource action = handlerOf resource' action' ↔
      resource = resource' ∧ action = action' := by
  constructor
  · intro heq
    have hlist : resource.toList ++ '#' :: action.toList =
        resource'.toList ++ '#' :: action'.toList := by
      simpa [handlerOf] using congrArg String.toList heq
    -- on both sides, the resource is what stands before the first number sign
    have hsign : ∀ rest, ∀ c ∈ ('#' :: rest : List Char).head?, c = '#' := by simp
    obtain ⟨hfront, hback⟩ := takeWhile_bne_append h (hsign action.toList)
    obtain ⟨hfront', hback'⟩ := takeWhile_bne_append h' (hsign action'.toList)
    rw [hlist] at hfront hback
    have haction := List.cons.inj (hback.symm.trans hback')
    exact ⟨String.toList_inj.1 (hfront.symm.trans hfront'), String.toList_inj.1 haction.2⟩
  · rintro ⟨rfl, rfl⟩
    rfl

namespace RouteTable

variable {resources : List Resource} {t : RouteTable}

/-- The routes of a compiled table lead to resources with proper names: the resource of an action is
entered before the action is met. -/
theorem isResourceName_of_compile (ht : (compile resources).value = .ok t) {r : Route}
    (hr : r ∈ t.routes) : isResourceName r.resource = true := by
  have hsound := exists_compile_iff.1 ⟨t, ht⟩
  obtain ⟨s, a, hmem, hroute⟩ := exists_action_of_compile ht hr
  rw [Resource.flatMap_declarations] at hmem
  obtain ⟨v, hv, hdeclaration⟩ := List.mem_map.1 hmem
  cases v with
  | resource l => cases hdeclaration
  | action l a =>
    cases hdeclaration
    obtain ⟨l', hl', hvisit⟩ := Resource.exists_visit_of_mem_members hv List.mem_cons_self
    have hname := (hsound _ hvisit).1
    rw [hl'] at hname
    obtain ⟨_, _, _, _, rfl⟩ := Declaration.exists_eq_of_route hroute
    exact hname

/-- The routes of a compiled table have the same handler exactly if they lead to the same action of
the same resource. -/
theorem handler_eq_iff_of_compile (ht : (compile resources).value = .ok t) {r r' : Route}
    (hr : r ∈ t.routes) (hr' : r' ∈ t.routes) :
    r.handler = r'.handler ↔ r.resource = r'.resource ∧ r.action = r'.action :=
  Route.handlerOf_eq_iff (hash_not_mem_of_isResourceName (isResourceName_of_compile ht hr))
    (hash_not_mem_of_isResourceName (isResourceName_of_compile ht hr'))

end RouteTable

namespace Binder

/-! ## Setting up -/

/-- A step of setting a binder up. -/
inductive Setup where
  | mountPath (path : String)
  | resultType (handler type : String)
  | jobs (registry : JobRegistry)

/-- The binder after a step. -/
def setUp (b : Binder) : Setup → Binder
  | .mountPath path => b.withMountPath path
  | .resultType handler type => b.withResultType handler type
  | .jobs registry => b.withJobs registry

/-- The binder of a table after several steps. -/
def assembled (t : RouteTable) (steps : List Setup) : Binder := steps.foldl setUp (new t)

variable {t : RouteTable} {steps : List Setup} {resource action type : String}

theorem assembled_snoc (t : RouteTable) (steps : List Setup) (step : Setup) :
    assembled t (steps ++ [step]) = (assembled t steps).setUp step := by
  rw [assembled, List.foldl_append]
  rfl

theorem routes_assembled (t : RouteTable) (steps : List Setup) : (assembled t steps).routes = t := by
  induction steps using List.reverseRecOn with
  | nil => rfl
  | append_singleton steps step ih =>
    rw [assembled_snoc]
    cases step <;> exact ih

/-- The binder of settings is set up in two steps. -/
theorem exists_assembled_of_ofSettings {s : Settings} {b : Binder} (h : ofSettings s t = .ok b) :
    ∃ jobs, b = assembled t [.mountPath s.api.mountPath, .jobs jobs] := by
  rw [ofSettings] at h
  split at h
  · next jobs _ => exact ⟨jobs, (Except.ok.inj h).symm⟩
  · cases h

/-! ## Types -/

/-- The type of the results of an action of a resource: the one that was registered last for the
handler, or the resource itself if none was. -/
inductive Typed (steps : List Setup) (resource action : String) : String → Prop
  | registered {before after : List Setup} {type : String}
      (h : steps = before ++ .resultType (resource ++ "#" ++ action) type :: after)
      (hlast : ∀ other, .resultType (resource ++ "#" ++ action) other ∉ after) :
      Typed steps resource action type
  | unregistered (h : ∀ type, .resultType (resource ++ "#" ++ action) type ∉ steps) :
      Typed steps resource action resource

/-- A step that does not register a type for a handler leaves its type alone. -/
theorem Typed.snoc (h : Typed steps resource action type) {step : Setup}
    (hstep : ∀ other, step ≠ .resultType (resource ++ "#" ++ action) other) :
    Typed (steps ++ [step]) resource action type := by
  have hnot : ∀ {l : List Setup}, (∀ other, .resultType (resource ++ "#" ++ action) other ∉ l) →
      ∀ other, .resultType (resource ++ "#" ++ action) other ∉ l ++ [step] := by
    intro l hl other hmem
    rcases List.mem_append.1 hmem with hmem | hmem
    · exact hl other hmem
    · exact hstep other (List.mem_singleton.1 hmem).symm
  cases h with
  | @registered before after _ h hlast =>
    have hsplit : steps ++ [step] =
        before ++ .resultType (resource ++ "#" ++ action) type :: (after ++ [step]) := by
      rw [h, List.append_assoc, List.cons_append]
    exact .registered hsplit (hnot hlast)
  | unregistered h => exact .unregistered (hnot h)

theorem typeOf_withResultType (b : Binder) (handler type : String) (r : Route) :
    (b.withResultType handler type).typeOf r =
      if handler = r.handler then type else b.typeOf r := by
  rw [typeOf, withResultType, List.find?_cons]
  by_cases h : handler = r.handler
  · rw [if_pos h, beq_iff_eq.2 h]
  · rw [if_neg h, beq_false_of_ne h]
    rfl

/-- The types of a binder are those that were registered last. -/
theorem typed_assembled (t : RouteTable) (steps : List Setup) (r : Route) :
    Typed steps r.resource r.action ((assembled t steps).typeOf r) := by
  -- from the last step on, as the type that was registered last is found first
  induction steps using List.reverseRecOn with
  | nil => exact .unregistered fun _ => List.not_mem_nil
  | append_singleton steps step ih =>
    rw [assembled_snoc]
    cases step with
    | mountPath path => exact ih.snoc nofun
    | jobs registry => exact ih.snoc nofun
    | resultType handler type =>
      show Typed _ _ _ (((assembled t steps).withResultType handler type).typeOf r)
      rw [typeOf_withResultType]
      by_cases h : handler = r.handler
      · rw [if_pos h, h]
        exact .registered rfl fun _ => List.not_mem_nil
      · rw [if_neg h]
        refine ih.snoc fun other heq => h ?_
        cases heq
        rfl

/-! ## Other handlers -/

/-- Two binders differ at most in the type of one handler. -/
structure SameExcept (handler : String) (b b' : Binder) : Prop where
  routes_eq : b.routes = b'.routes
  mountPath_eq : b.mountPath = b'.mountPath
  jobs_eq : b.jobs = b'.jobs
  typeOf_eq : ∀ r : Route, r.handler ≠ handler → b.typeOf r = b'.typeOf r

namespace SameExcept

variable {handler : String} {b b' : Binder}

theorem symm (h : SameExcept handler b b') : SameExcept handler b' b :=
  ⟨h.routes_eq.symm, h.mountPath_eq.symm, h.jobs_eq.symm, fun r hr => (h.typeOf_eq r hr).symm⟩

theorem setUp (h : SameExcept handler b b') (step : Setup) :
    SameExcept handler (b.setUp step) (b'.setUp step) := by
  cases step with
  | mountPath path => exact ⟨h.routes_eq, rfl, h.jobs_eq, h.typeOf_eq⟩
  | jobs registry => exact ⟨h.routes_eq, h.mountPath_eq, rfl, h.typeOf_eq⟩
  | resultType other type =>
    refine ⟨h.routes_eq, h.mountPath_eq, h.jobs_eq, fun r hr => ?_⟩
    show (b.withResultType other type).typeOf r = (b'.withResultType other type).typeOf r
    rw [typeOf_withResultType, typeOf_withResultType, h.typeOf_eq r hr]

theorem foldl_setUp (h : SameExcept handler b b') (steps : List Setup) :
    SameExcept handler (steps.foldl Binder.setUp b) (steps.foldl Binder.setUp b') := by
  induction steps generalizing b b' with
  | nil => exact h
  | cons step steps ih => exact ih (h.setUp step)

/-- A registration more or less only matters for its own handler. -/
theorem assembled (t : RouteTable) (before after : List Setup) (handler type : String) :
    SameExcept handler (assembled t (before ++ after))
      (assembled t (before ++ .resultType handler type :: after)) := by
  rw [Binder.assembled, Binder.assembled, List.foldl_append, List.foldl_append, List.foldl_cons]
  have hstep (b : Binder) : SameExcept handler b (b.withResultType handler type) :=
    ⟨rfl, rfl, rfl, fun r hr => by rw [typeOf_withResultType, if_neg hr.symm]⟩
  exact (hstep _).foldl_setUp after

/-- A binding to another handler is the same. -/
theorem binds (h : SameExcept handler b b') {method : Method} {uri : Uri} {body : Body}
    {x : Binding} (hx : b.Binds method uri body x) (hne : x.route.handler ≠ handler) :
    b'.Binds method uri body x := by
  obtain ⟨path, c, p, hpath, hfind, hgather, hresolver⟩ := exists_of_bindBody hx.value_eq
  rw [strip?, h.mountPath_eq] at hpath
  rw [h.routes_eq] at hfind
  refine hx.of_value_eq ((value_bindBody_of_route (value_route_of_find? uri hpath hfind)
    hgather).trans ?_)
  rw [← h.typeOf_eq _ hne, ← h.jobs_eq, ← hresolver]

end SameExcept

/-! ## Bindings -/

theorem mem_routes_of_binds {method : Method} {uri : Uri} {body : Body} {x : Binding}
    (h : (assembled t steps).Binds method uri body x) : x.route ∈ t.routes := by
  obtain ⟨path, c, p, _, hfind, _⟩ := exists_of_bindBody h.value_eq
  rw [routes_assembled] at hfind
  exact (RouteTable.of_find? hfind).1

/-- In a compiled table, handlers tell the actions of resources apart. So a binding has the type that
was registered last for its own action, or else that of its resource, and to register a type for an
action of another resource, or for another action, does not change it. -/
theorem typed_of_binds {resources : List Resource}
    (ht : (RouteTable.compile resources).value = .ok t) :
    (∀ r ∈ t.routes, ∀ r' ∈ t.routes,
      (r.handler = r'.handler ↔ r.resource = r'.resource ∧ r.action = r'.action)) ∧
    (∀ steps method uri body x, (assembled t steps).Binds method uri body x →
      Typed steps x.route.resource x.route.action x.resolver.mainType) ∧
    ∀ before after resource action type, '#' ∉ resource.toList → ∀ method uri body x,
      ¬(x.route.resource = resource ∧ x.route.action = action) →
        ((assembled t (before ++ after)).Binds method uri body x ↔
          (assembled t (before ++ .resultType (resource ++ "#" ++ action) type :: after)).Binds
            method uri body x) := by
  refine ⟨fun r hr r' hr' => RouteTable.handler_eq_iff_of_compile ht hr hr', ?_, ?_⟩
  · intro steps method uri body x hx
    obtain ⟨_, _, _, _, _, _, hresolver⟩ := exists_of_bindBody hx.value_eq
    rw [hresolver]
    exact typed_assembled t steps x.route
  · intro before after resource action type hsign method uri body x hne
    have hsame := SameExcept.assembled t before after (resource ++ "#" ++ action) type
    have hother : x.route ∈ t.routes → x.route.handler ≠ resource ++ "#" ++ action := by
      intro hr heq
      have hname := RouteTable.isResourceName_of_compile ht hr
      exact hne ((Route.handlerOf_eq_iff (hash_not_mem_of_isResourceName hname) hsign).1 heq)
    exact ⟨fun hx => hsame.binds hx (hother (mem_routes_of_binds hx)),
      fun hx => hsame.symm.binds hx (hother (mem_routes_of_binds hx))⟩

/-- A resource with two actions, and the name of one goes on after that of the other. -/
def merged : Resource :=
  (((Resource.named "request").route "/requests").get "merge").post "merge#all"

/-- The type of one of the actions is registered twice. -/
def retyped : List Setup :=
  [.resultType "request#merge#all" "build", .mountPath "/v3", .resultType "request#merge#all" "job"]

theorem typed_of_binds_merged : ∃ t, (RouteTable.compile [merged]).value = .ok t ∧
    (∃ x, (assembled t retyped).Binds .post ⟨"/v3/requests", none⟩ (.json []) x ∧
      Typed retyped x.route.resource x.route.action x.resolver.mainType) ∧
    ∃ x, (assembled t [.mountPath "/v3"]).Binds .get ⟨"/v3/requests", none⟩ (.json []) x ∧
      (assembled t [.mountPath "/v3", .resultType "request#merge#all" "job"]).Binds .get
        ⟨"/v3/requests", none⟩ (.json []) x := by
  have hcompile : (RouteTable.compile [merged]).value.isOk = true := by decide +kernel
  have hpost : ((assembled ((RouteTable.compile [merged]).value.toOption.getD default) retyped).bind
      .post ⟨"/v3/requests", none⟩ []).value.isOk = true := by decide +kernel
  have hget : ((assembled ((RouteTable.compile [merged]).value.toOption.getD default)
      [.mountPath "/v3"]).bind .get ⟨"/v3/requests", none⟩ []).value.toOption.any
        (·.route.action == "merge") = true := by decide +kernel
  obtain ⟨t, ht⟩ := exists_of_isOk hcompile
  rw [ht] at hpost hget
  obtain ⟨x, hx⟩ := exists_of_isOk hpost
  obtain ⟨y, hy, haction⟩ := exists_of_any_toOption hget
  obtain ⟨_, htype, hother⟩ := typed_of_binds ht
  refine ⟨t, ht, ⟨x, .json hx, htype retyped _ _ _ _ (.json hx)⟩, y, .json hy, ?_⟩
  refine (hother [.mountPath "/v3"] [] "request" "merge#all" "job" (by decide) _ _ _ _ ?_).1
    (.json hy)
  rintro ⟨-, heq⟩
  rw [beq_iff_eq] at haction
  exact absurd (haction.symm.trans heq) (by decide)

end Binder

end RequestBinding
