import RequestBinding.Proofs.Binder.Answers

/-!
# The methods for a target

A table allows exactly the methods that it finds a route for, and a binder exactly those whose
requests do not fail with nothing being there.

## Main definitions

* `RouteTable.MethodsAgree` - the methods allowed for a path are those with a route

## Main statements

* `RouteTable.methodsAgree` - this holds of every table
* `Binder.mem_allowed_iff` - a method is allowed for a target if a route matches
* `Binder.methods_agree` - both for the answers of tables and of binders
-/

namespace RequestBinding

/-- The methods that are allowed for a path are those that a route is found for. Each is there once,
and they stand in the order of their first routes, which are the ones that are found. -/
structure RouteTable.MethodsAgree (t : RouteTable) (path : String) : Prop where
  mem_iff : ∀ method, method ∈ t.allowed path ↔ ∃ r c, (t.find method path).value = .ok (r, c)
  nodup : (t.allowed path).Nodup
  ordered : (t.allowed path).Pairwise fun m n => t.place path m < t.place path n
  first : ∀ method r c, (t.find method path).value = .ok (r, c) →
    t.routes[t.place path method]? = some r

theorem RouteTable.methodsAgree (t : RouteTable) (path : String) : t.MethodsAgree path where
  mem_iff _ := mem_allowed_iff.trans exists_value_find_iff.symm
  nodup := t.nodup_allowed path
  ordered := t.pairwise_allowed path
  first _ _ _ h := getElem?_place (value_find_eq_ok_iff.1 h)

namespace Binder

theorem mem_allowed_iff {b : Binder} {uri : Uri} {method : Method} :
    method ∈ b.allowed uri ↔ b.Matches method uri.path := by
  rw [allowed]
  cases hstrip : b.strip? uri.path with
  | none =>
    have hno : ¬b.Matches method uri.path := by
      rintro ⟨rest, hbelow, -⟩
      exact strip?_eq_none_iff.1 hstrip rest hbelow
    simp [hno]
  | some rest =>
    rw [matches_iff_of_strip? hstrip, RouteTable.isSome_find?_iff]
    exact RouteTable.mem_allowed_iff

/-- Methods and matching agree: for a path in every table, and for a target with every binder, where
the body is empty. -/
theorem methods_agree :
    (∀ (t : RouteTable) (path : String), t.MethodsAgree path) ∧
      ∀ (b : Binder) (uri : Uri) (method : Method),
        method ∈ b.allowed uri ↔ failure? (b.bind method uri []).value ≠ some .notFound := by
  refine ⟨RouteTable.methodsAgree, fun b uri method => ?_⟩
  have h := (answers_of_bindBody b method uri (.json [])).notFound
  rw [mem_allowed_iff, ne_eq, bind, h, not_not]

end Binder

end RequestBinding
