import RequestBinding.Binder.Basic
import RequestBinding.Proofs.Outcome
import RequestBinding.Proofs.Params.Merge

/-!
# Which source a parameter comes from

The parameters of a bound request are those captured from the path, then those of the query, then
those of the body. Each entry comes whole from the first of these sources that has its key, where
the query and the body are each read on their own.

## Main definitions

* `Binder.queryBag` - the bag of a query on its own
* `Binder.Binds` - the bindings of a binder
* `Binder.Layered` - each entry of a binding comes from the first source that has its key

## Main statements

* `Binder.exists_of_bindBody` - what a binding is made of
* `Binder.get?_of_gather` - the entries that are gathered
* `Binder.layered_of_bind` - bindings are layered
-/

namespace RequestBinding.Binder

/-! ## Gathering -/

/-- The bag of the query of a request on its own. -/
def queryBag (query : Option String) : Params := query.elim .empty Params.empty.extendQuery

/-- The last value that was captured under a key is found. -/
theorem get?_captured (c : Captures) (k : String) :
    (captured c).get? k = (c.pairs.reverse.find? (·.1 == k)).map fun p => .str p.2 := by
  have h := Members.get?_ofList k (c.pairs.map fun p => (p.1, Json.str p.2))
  rw [← List.map_reverse, List.find?_map, Option.map_map] at h
  exact h

theorem get?_captured_of_not_mem {c : Captures} {k : String} (h : k ∉ c.keys) :
    (captured c).get? k = none := by
  rw [get?_captured, Option.map_eq_none_iff, List.find?_eq_none]
  intro p hp heq
  have hmem := List.mem_map_of_mem (f := (·.1)) (List.mem_reverse.1 hp)
  rw [beq_iff_eq.1 heq] at hmem
  exact h hmem

/-- Of the values that were captured under a key, one is found. -/
theorem exists_get?_captured {c : Captures} {k : String} (h : k ∈ c.keys) :
    ∃ v, (k, v) ∈ c.pairs ∧ (captured c).get? k = some (.str v) := by
  obtain ⟨p, hp, rfl⟩ := List.mem_map.1 h
  have hsome : (c.pairs.reverse.find? (·.1 == p.1)).isSome = true := by
    rw [List.find?_isSome]
    exact ⟨p, List.mem_reverse.2 hp, beq_self_eq_true p.1⟩
  obtain ⟨q, hq⟩ := Option.isSome_iff_exists.1 hsome
  have hkey : q.1 = p.1 := by simpa using List.find?_some hq
  refine ⟨q.2, ?_, ?_⟩
  · rw [← hkey]
    exact List.mem_reverse.1 (List.mem_of_find?_eq_some hq)
  · rw [get?_captured, hq]
    rfl

theorem gather_eq (c : Captures) (query : Option String) (body : Body) :
    gather c query body = body.extend (query.elim (captured c) (captured c).extendQuery) := by
  cases query <;> rfl

theorem get?_elim_extendQuery (p : Params) (query : Option String) (k : String) :
    (query.elim p p.extendQuery).get? k = (p.get? k).or ((queryBag query).get? k) := by
  cases query with
  | none => exact Option.or_none.symm
  | some q => exact p.get?_extendQuery q k

/-- What is gathered is found in the captures, else in the query, else in the body. Whatever the
captures are, the same entries of the query and the body are behind them. -/
theorem get?_of_gather {c : Captures} {query : Option String} {body : Body} {p : Params}
    (h : gather c query body = .ok p) : ∃ bdy, body.extend .empty = .ok bdy ∧
      ∀ c', ∃ p', gather c' query body = .ok p' ∧ ∀ k, p'.get? k =
        ((captured c').get? k).or (((queryBag query).get? k).or (bdy.get? k)) := by
  rw [gather_eq] at h
  obtain ⟨bdy, hbdy, hall⟩ := Body.get?_extend h
  refine ⟨bdy, hbdy, fun c' => ?_⟩
  obtain ⟨p', hp', hget⟩ := hall (query.elim (captured c') (captured c').extendQuery)
  rw [← gather_eq] at hp'
  refine ⟨p', hp', fun k => ?_⟩
  rw [hget, get?_elim_extendQuery, Option.or_assoc]

/-! ## Bindings -/

/-- The bindings of a binder, with the way in which the body is read. -/
inductive Binds (b : Binder) : Method → Uri → Body → Binding → Prop
  | json {method : Method} {uri : Uri} {bytes : List UInt8} {x : Binding}
      (h : (b.bind method uri bytes).value = .ok x) : Binds b method uri (.json bytes) x
  | request {r : Request} {x : Binding} (h : (b.bindRequest r).value = .ok x) :
      Binds b r.method r.uri (.classify (Body.contentType? r.headers) r.body) x

theorem Binds.value_eq {b : Binder} {method : Method} {uri : Uri} {body : Body} {x : Binding}
    (h : b.Binds method uri body x) : (b.bindBody method uri body).value = .ok x := by
  cases h with
  | json h => exact h
  | request h => exact h

/-- The way in which a body is read does not depend on the binder. -/
theorem Binds.of_value_eq {b b' : Binder} {method : Method} {uri : Uri} {body : Body}
    {x x' : Binding} (h : b.Binds method uri body x)
    (h' : (b'.bindBody method uri body).value = .ok x') : b'.Binds method uri body x' := by
  cases h with
  | json _ => exact .json h'
  | request _ => exact .request h'

theorem exists_of_route {b : Binder} {method : Method} {uri : Uri} {r : Route} {c : Captures}
    (h : (b.route method uri).value = .ok (r, c)) :
    ∃ path, b.strip? uri.path = some path ∧ b.routes.find? method path = some (r, c) := by
  unfold route at h
  split at h
  · cases h
  · next path hpath =>
    refine ⟨path, hpath, ?_⟩
    unfold RouteTable.find at h
    cases hfind : b.routes.find? method path with
    | none =>
      rw [hfind] at h
      cases h
    | some found =>
      rw [hfind] at h
      cases h
      rfl

theorem value_route_of_find? {b : Binder} {method : Method} (uri : Uri) {path : String}
    (hpath : b.strip? uri.path = some path) {r : Route} {c : Captures}
    (hfind : b.routes.find? method path = some (r, c)) :
    (b.route method uri).value = .ok (r, c) := by
  rw [route, hpath]
  simp only [RouteTable.find, hfind]
  rfl

/-- A binding is made of the route that is found for the path below the mount path, and of a fresh
resolver of what is gathered. -/
theorem exists_of_bindBody {b : Binder} {method : Method} {uri : Uri} {body : Body} {x : Binding}
    (h : (b.bindBody method uri body).value = .ok x) :
    ∃ path c p, b.strip? uri.path = some path ∧ b.routes.find? method path = some (x.route, c) ∧
      gather c uri.query body = .ok p ∧ x.resolver = .new p (b.typeOf x.route) b.jobs := by
  rw [bindBody, Traced.value_bind] at h
  split at h
  · cases h
  · next r c hroute =>
    obtain ⟨path, hpath, hfind⟩ := exists_of_route hroute
    split at h
    · cases h
    · next p hgather =>
      cases h
      exact ⟨path, c, p, hpath, hfind, hgather, rfl⟩

/-- Only the path of a target matters for its route. -/
theorem route_congr (b : Binder) (method : Method) {uri uri' : Uri} (h : uri.path = uri'.path) :
    b.route method uri = b.route method uri' := by
  rw [route, route, h]

/-- A request with a route is bound if its parameters can be gathered. -/
theorem value_bindBody_of_route {b : Binder} {method : Method} {uri : Uri} {body : Body}
    {r : Route} {c : Captures} (hroute : (b.route method uri).value = .ok (r, c)) {p : Params}
    (hgather : gather c uri.query body = .ok p) :
    (b.bindBody method uri body).value = .ok ⟨r, .new p (b.typeOf r) b.jobs⟩ := by
  rw [bindBody, Traced.value_bind, hroute]
  simp only [hgather]
  rfl

/-- A binding has the route of its request below the mount path, and each entry of its bag is one
that the route captured under the key, else the one of the query, else the one of the body. -/
def Layered (b : Binder) (method : Method) (uri : Uri) (body : Body) (x : Binding) : Prop :=
  ∃ path c bdy, b.strip? uri.path = some path ∧ b.routes.find? method path = some (x.route, c) ∧
    body.extend .empty = .ok bdy ∧ ∀ k : String,
      (k ∈ c.keys → ∃ v, (k, v) ∈ c.pairs ∧ x.resolver.params.get? k = some (.str v)) ∧
      (k ∉ c.keys →
        x.resolver.params.get? k = ((queryBag uri.query).get? k).or (bdy.get? k))

theorem layered_of_bindBody {b : Binder} {method : Method} {uri : Uri} {body : Body} {x : Binding}
    (h : (b.bindBody method uri body).value = .ok x) : b.Layered method uri body x := by
  obtain ⟨path, c, p, hpath, hfind, hgather, hx⟩ := exists_of_bindBody h
  obtain ⟨bdy, hbdy, hall⟩ := get?_of_gather hgather
  obtain ⟨p', hp', hget⟩ := hall c
  have hp : p' = p := by
    rw [hgather] at hp'
    cases hp'
    rfl
  have hparams : x.resolver.params = p' := by
    rw [hx, hp]
    rfl
  refine ⟨path, c, bdy, hpath, hfind, hbdy, fun k => ⟨fun hk => ?_, fun hk => ?_⟩⟩
  · obtain ⟨v, hv, hcap⟩ := exists_get?_captured hk
    refine ⟨v, hv, ?_⟩
    rw [hparams, hget, hcap, Option.some_or]
  · rw [hparams, hget, get?_captured_of_not_mem hk, Option.none_or]

/-- Every binding is layered, whether the body is known to be JSON or the header fields say how it
is read. -/
theorem layered_of_bind (b : Binder) (x : Binding) :
    (∀ method uri bytes, (b.bind method uri bytes).value = .ok x →
      b.Layered method uri (.json bytes) x) ∧
    ∀ r : Request, (b.bindRequest r).value = .ok x →
      b.Layered r.method r.uri (.classify (Body.contentType? r.headers) r.body) x :=
  ⟨fun _ _ _ h => layered_of_bindBody h, fun _ h => layered_of_bindBody h⟩

/-- The requests of a repository, which is known by its number. -/
def requests : Resource :=
  (((Resource.named "request").route "/repo/\x7brepository.id\x7d/requests").capture "id"
    .digits).post "create"

/-- A binder of the requests of a repository. -/
def ofRequests : Binder := .new ((RouteTable.compile [requests]).value.toOption.getD default)

/-- A number of a repository in the query, next to the one in the path. -/
def otherRepository : Uri := ⟨"/repo/7/requests", some "repository.id=8&branch=main"⟩

/-- A request with a number of a repository in its path, its query, and its body. -/
def formRequest : Request :=
  ⟨.post, otherRepository, [("Content-Type", "application/x-www-form-urlencoded")],
    Utf8.encode "repository.id=9"⟩

theorem layered_of_bind_requests :
    (∃ x, (ofRequests.bind .post otherRepository []).value = .ok x ∧
      ofRequests.Layered .post otherRepository (.json []) x) ∧
    ∃ x, (ofRequests.bindRequest formRequest).value = .ok x ∧
      ofRequests.Layered .post otherRepository
        (.classify (Body.contentType? formRequest.headers) formRequest.body) x := by
  have hbind : (ofRequests.bind .post otherRepository []).value.isOk = true := by decide +kernel
  have hrequest : (ofRequests.bindRequest formRequest).value.isOk = true := by decide +kernel
  obtain ⟨x, hx⟩ := exists_of_isOk hbind
  obtain ⟨y, hy⟩ := exists_of_isOk hrequest
  exact ⟨⟨x, hx, (layered_of_bind ofRequests x).1 _ _ _ hx⟩,
    ⟨y, hy, (layered_of_bind ofRequests y).2 _ hy⟩⟩

end RequestBinding.Binder
