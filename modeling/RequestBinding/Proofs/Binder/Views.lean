import RequestBinding.Proofs.Binder.Precedence
import RequestBinding.Proofs.Route.Tables

/-!
# Captured values in the match and in the bag

The values that a route captures are kept twice: in the list of the match, where the first value
under a key is found, and in the bag of the binding, where the last one is. Both are the same value
unless a placeholder stands more than once in the templates of the route.

## Main definitions

* `Captures.values` - all values under a key
* `Binder.Viewed` - what the match and the bag of a binding hold for the keys that were captured

## Main statements

* `Captures.get?_eq_head?`, `Binder.get?_captured_eq_getLast?` - which of the values is found
* `Binder.viewed_of_bind` - the two views of a binding
-/

namespace RequestBinding

namespace Captures

/-- The values under a key, in order. -/
def values (c : Captures) (key : String) : List String :=
  (c.pairs.filter (·.1 == key)).map (·.2)

theorem get?_eq_head? (c : Captures) (key : String) : c.get? key = (c.values key).head? := by
  rw [values, List.head?_map, List.head?_filter]
  rfl

theorem length_values (c : Captures) (key : String) :
    (c.values key).length = c.keys.count key := by
  rw [values, List.length_map, keys, List.count, List.countP_map, List.countP_eq_length_filter]
  rfl

/-- The only value under a key is the first and the last one. -/
theorem head?_values_eq_getLast? {c : Captures} {key : String} (h : c.keys.count key = 1) :
    (c.values key).head? = (c.values key).getLast? := by
  rw [← length_values] at h
  obtain ⟨v, hv⟩ := List.length_eq_one_iff.1 h
  rw [hv]
  rfl

end Captures

/-- Under a key that occurs once in a route, a match has at most one value. -/
theorem Route.count_keys_of_captures {r : Route} {path : String} {c : Captures}
    (h : r.captures path = some c) {k : String} (hk : k ∈ c.keys) (hr : r.keys.count k = 1) :
    c.keys.count k = 1 := by
  have hle := (keys_sublist_of_captures h).count_le k
  have hpos : 0 < c.keys.count k := List.count_pos_iff.2 hk
  omega

namespace Binder

theorem get?_captured_eq_getLast? (c : Captures) (k : String) :
    (captured c).get? k = (c.values k).getLast?.map .str := by
  rw [get?_captured, Captures.values, List.getLast?_map, List.getLast?_filter, Option.map_map]
  rfl

/-- For each key that a route captured, the match holds the first value that was captured, and the
bag holds the last one. They agree exactly if these two are the same value, as they are for a key
that occurs once in the route. -/
def Viewed (b : Binder) (method : Method) (uri : Uri) (x : Binding) : Prop :=
  ∃ path c, b.strip? uri.path = some path ∧ b.routes.find? method path = some (x.route, c) ∧
    ∀ k ∈ c.keys,
      c.get? k = (c.values k).head? ∧
      x.resolver.params.get? k = (c.values k).getLast?.map .str ∧
      (x.resolver.params.get? k = (c.get? k).map .str ↔
        (c.values k).head? = (c.values k).getLast?) ∧
      (x.route.keys.count k = 1 → x.resolver.params.get? k = (c.get? k).map .str)

theorem viewed_of_bindBody {b : Binder} {method : Method} {uri : Uri} {body : Body} {x : Binding}
    (h : (b.bindBody method uri body).value = .ok x) : b.Viewed method uri x := by
  obtain ⟨path, c, p, hpath, hfind, hgather, hx⟩ := exists_of_bindBody h
  obtain ⟨bdy, _, hall⟩ := get?_of_gather hgather
  obtain ⟨p', hp', hget⟩ := hall c
  have hparams : x.resolver.params = p' := by
    rw [hx, Except.ok.inj (hp'.symm.trans hgather)]
    rfl
  refine ⟨path, c, hpath, hfind, fun k hk => ?_⟩
  -- what was captured is in the bag first, so nothing else takes its place
  have hbag : x.resolver.params.get? k = (c.values k).getLast?.map .str := by
    obtain ⟨v, _, hv⟩ := exists_get?_captured hk
    rw [hparams, hget, hv, Option.some_or, ← hv, get?_captured_eq_getLast?]
  have hiff : x.resolver.params.get? k = (c.get? k).map .str ↔
      (c.values k).head? = (c.values k).getLast? := by
    rw [hbag, Captures.get?_eq_head?, Option.map_inj_right (fun _ _ => Json.str.inj), eq_comm]
  refine ⟨c.get?_eq_head? k, hbag, hiff, fun hcount => hiff.2 ?_⟩
  have hcaptures := (RouteTable.of_find? hfind).2
  exact Captures.head?_values_eq_getLast? (Route.count_keys_of_captures hcaptures hk hcount)

/-- Every binding has the two views, whether the body is known to be JSON or the header fields say
how it is read. -/
theorem viewed_of_bind (b : Binder) (x : Binding) :
    (∀ method uri bytes, (b.bind method uri bytes).value = .ok x → b.Viewed method uri x) ∧
    ∀ r : Request, (b.bindRequest r).value = .ok x → b.Viewed r.method r.uri x :=
  ⟨fun _ _ _ h => viewed_of_bindBody h, fun _ h => viewed_of_bindBody h⟩

theorem viewed_of_bind_requests :
    (∃ x, (ofRequests.bind .post otherRepository []).value = .ok x ∧
      ofRequests.Viewed .post otherRepository x) ∧
    ∃ x, (ofRequests.bindRequest formRequest).value = .ok x ∧
      ofRequests.Viewed .post otherRepository x := by
  have hbind : (ofRequests.bind .post otherRepository []).value.isOk = true := by decide +kernel
  have hrequest : (ofRequests.bindRequest formRequest).value.isOk = true := by decide +kernel
  obtain ⟨x, hx⟩ := exists_of_isOk hbind
  obtain ⟨y, hy⟩ := exists_of_isOk hrequest
  exact ⟨⟨x, hx, (viewed_of_bind ofRequests x).1 _ _ _ hx⟩,
    ⟨y, hy, (viewed_of_bind ofRequests y).2 _ hy⟩⟩

/-- A resource below another one that has the same placeholder in its template. -/
def twice : Resource :=
  ((Resource.named "parent").route "/\x7bd.x\x7d").resource
    (((Resource.named "d").route "/\x7bd.x\x7d").get "find")

/-- The table of a placeholder that stands twice. -/
def repeated : RouteTable := (RouteTable.compile [twice]).value.toOption.getD default

/-- With a placeholder that stands twice, the match finds the first value and the bag the last. -/
theorem views_differ_of_repeated :
    (repeated.find? .get "/first/last").bind (·.2.get? "d.x") = some "first" ∧
      ((((new repeated).bind .get ⟨"/first/last", none⟩ []).value.toOption.bind
        (·.resolver.params.get? "d.x")).bind Json.str?) = some "last" := by
  decide +kernel

end Binder

end RequestBinding
