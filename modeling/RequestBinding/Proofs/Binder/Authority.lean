import RequestBinding.Proofs.Binder.Precedence
import RequestBinding.Proofs.Resolver.Lookup
import RequestBinding.Proofs.Route.Tables

/-!
# Captured values decide on their own fields alone

The routes of a compiled table capture under qualified names. So a value that is captured for a
field is what the field is resolved to, whatever the query and the body say, and all other fields
are resolved as if nothing had been captured: a key with a dot in it is never read as a resource, a
bare name or a type hint.

## Main definitions

* `Binder.Authoritative` - the captured values of a binding decide on their own fields alone

## Main statements

* `Binder.lookup_of_captured` - a field that was captured
* `Binder.lookup_of_not_captured` - a field that was not captured
* `Binder.authoritative_of_bind` - both for the bindings of a compiled table
-/

namespace RequestBinding.Binder

/-! ## Fields in a bag -/

/-- A single value that was captured for a field decides on it. -/
theorem lookup_of_captured {c : Captures} {query : Option String} {body : Body} {p : Params}
    (h : gather c query body = .ok p) {f : Field} {v : String}
    (hv : (c.pairs.filter (·.1 == f.qualified)).map (·.2) = [v]) (mainType : String) :
    Resolver.lookup p mainType f = some (.str v) := by
  have hmem : ∀ w, (f.qualified, w) ∈ c.pairs → w = v := by
    intro w hw
    have hin : w ∈ (c.pairs.filter (·.1 == f.qualified)).map (·.2) :=
      List.mem_map.2 ⟨_, List.mem_filter.2 ⟨hw, beq_self_eq_true f.qualified⟩, rfl⟩
    rw [hv] at hin
    exact List.mem_singleton.1 hin
  have hkey : f.qualified ∈ c.keys := by
    have hin : v ∈ (c.pairs.filter (·.1 == f.qualified)).map (·.2) := by
      rw [hv]
      exact List.mem_singleton.2 rfl
    obtain ⟨q, hq, _⟩ := List.mem_map.1 hin
    obtain ⟨hq, heq⟩ := List.mem_filter.1 hq
    rw [← beq_iff_eq.1 heq]
    exact List.mem_map_of_mem hq
  obtain ⟨w, hw, hcap⟩ := exists_get?_captured hkey
  obtain ⟨_, _, hall⟩ := get?_of_gather h
  obtain ⟨p', hp', hget⟩ := hall c
  have hp : p' = p := Except.ok.inj (hp'.symm.trans h)
  refine Resolver.lookup_of_qualified ?_
  rw [← hp, hget, hcap, Option.some_or, hmem w hw]

/-- Without a dot in its parts, a field that was not captured is found as if nothing had been
captured. -/
theorem lookup_of_not_captured {c : Captures} {query : Option String} {body : Body} {p : Params}
    (h : gather c query body = .ok p) (hdot : ∀ k ∈ c.keys, '.' ∈ k.toList) {f : Field}
    (howner : '.' ∉ f.owner.toList) (hname : '.' ∉ f.name.toList) (hf : f.qualified ∉ c.keys)
    (mainType : String) : ∃ q, gather .empty query body = .ok q ∧
      Resolver.lookup p mainType f = Resolver.lookup q mainType f := by
  obtain ⟨_, _, hall⟩ := get?_of_gather h
  obtain ⟨p', hp', hgetp⟩ := hall c
  obtain ⟨q, hq, hgetq⟩ := hall .empty
  have hp : p' = p := Except.ok.inj (hp'.symm.trans h)
  have hsame : ∀ k, k ∉ c.keys → p.get? k = q.get? k := by
    intro k hk
    -- without captures, only the query and the body are left on both sides
    have hempty : k ∉ Captures.empty.keys := List.not_mem_nil
    rw [← hp, hgetp, hgetq, get?_captured_of_not_mem hk, get?_captured_of_not_mem hempty]
  have hplain : ∀ k : String, '.' ∉ k.toList → p.get? k = q.get? k := by
    intro k hk
    exact hsame k fun hmem => hk (hdot k hmem)
  exact ⟨q, hq, Resolver.lookup_congr (hsame _ hf) (hplain _ howner) (hplain _ hname)
    (hplain _ (by decide))⟩

/-! ## Bindings -/

/-- The captured values of a binding decide on their own fields alone: a field with a single
captured value is resolved to this value, and a field that was not captured is resolved as if
nothing had been captured. -/
def Authoritative (b : Binder) (method : Method) (uri : Uri) (body : Body) (x : Binding) : Prop :=
  ∃ path c, b.strip? uri.path = some path ∧ b.routes.find? method path = some (x.route, c) ∧
    ∀ f : Field, '.' ∉ f.owner.toList → '.' ∉ f.name.toList →
      (∀ v, (c.pairs.filter (·.1 == f.qualified)).map (·.2) = [v] →
        (x.resolver.resolve f).value.1 = some (.str v)) ∧
      (f.qualified ∉ c.keys → ∃ q, gather .empty uri.query body = .ok q ∧
        (x.resolver.resolve f).value.1 =
          ((Resolver.new q (b.typeOf x.route) b.jobs).resolve f).value.1)

theorem authoritative_of_bindBody {b : Binder} {resources : List Resource}
    (hb : (RouteTable.compile resources).value = .ok b.routes) {method : Method} {uri : Uri}
    {body : Body} {x : Binding} (h : (b.bindBody method uri body).value = .ok x) :
    b.Authoritative method uri body x := by
  obtain ⟨path, c, p, hpath, hfind, hgather, hx⟩ := exists_of_bindBody h
  refine ⟨path, c, hpath, hfind, fun f howner hname => ⟨fun v hv => ?_, fun hf => ?_⟩⟩
  · rw [hx, Resolver.value_resolve_new]
    exact lookup_of_captured hgather hv _
  · have hdot : ∀ k ∈ c.keys, '.' ∈ k.toList := fun k hk => RouteTable.dot_mem_of_find? hb hfind hk
    obtain ⟨q, hq, hlookup⟩ :=
      lookup_of_not_captured hgather hdot howner hname hf (b.typeOf x.route)
    refine ⟨q, hq, ?_⟩
    rw [hx, Resolver.value_resolve_new, Resolver.value_resolve_new]
    exact hlookup

/-- For every compiled table, mount path and registration of result types, the captured values of a
binding decide on their own fields alone. -/
theorem authoritative_of_bind {b : Binder} {resources : List Resource}
    (hb : (RouteTable.compile resources).value = .ok b.routes) (x : Binding) :
    (∀ method uri bytes, (b.bind method uri bytes).value = .ok x →
      b.Authoritative method uri (.json bytes) x) ∧
    ∀ r : Request, (b.bindRequest r).value = .ok x →
      b.Authoritative r.method r.uri (.classify (Body.contentType? r.headers) r.body) x :=
  ⟨fun _ _ _ h => authoritative_of_bindBody hb h, fun _ h => authoritative_of_bindBody hb h⟩

/-- A number of a repository in the query does not override the one in the path. -/
theorem authoritative_of_bind_requests :
    ∃ x, (ofRequests.bind .post otherRepository []).value = .ok x ∧
      ofRequests.Authoritative .post otherRepository (.json []) x := by
  have hcompile : (RouteTable.compile [requests]).value.isOk = true := by decide +kernel
  have hbind : (ofRequests.bind .post otherRepository []).value.isOk = true := by decide +kernel
  obtain ⟨t, ht⟩ := exists_of_isOk hcompile
  have hroutes : (RouteTable.compile [requests]).value = .ok ofRequests.routes := by
    rw [ofRequests, ht]
    rfl
  obtain ⟨x, hx⟩ := exists_of_isOk hbind
  exact ⟨x, hx, (authoritative_of_bind hroutes x).1 _ _ _ hx⟩

end RequestBinding.Binder
