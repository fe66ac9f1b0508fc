import RequestBinding.Proofs.Route.Tables

/-!
# The methods for a path

The methods that a table allows for a path are those for which it finds a route. Each stands there
once, at the place that its first route has among those of the others.

## Main definitions

* `RouteTable.place` - the place of the first route with a method that accepts a path

## Main statements

* `RouteTable.isSome_find?_iff` - a route is found if there is one
* `RouteTable.getElem?_place` - the route that is found is the first one
* `RouteTable.mem_allowed_iff` - a method is allowed if there is a route
* `RouteTable.pairwise_allowed` - methods are allowed in the order of their first routes
-/

namespace RequestBinding

theorem Route.isSome_captures (r : Route) (path : String) :
    (r.captures path).isSome = r.accepts path := by
  rw [captures, accepts, Option.isSome_map]

namespace RouteTable

/-- The place of the first route with a method that is one of some routes. -/
def placeAmong (p : Route → Bool) (rs : List Route) (method : Method) : Nat :=
  rs.findIdx fun r => decide (r.method = method) && p r

/-- The place of the first route with a method that accepts a path. -/
def place (t : RouteTable) (path : String) (method : Method) : Nat :=
  placeAmong (·.accepts path) t.routes method

/-! ## Finding -/

/-- A route is found if one with the method accepts the path. -/
theorem isSome_find?_iff {t : RouteTable} {method : Method} {path : String} :
    (t.find? method path).isSome = true ↔
      ∃ r ∈ t.routes, r.method = method ∧ r.accepts path = true := by
  rw [find?, List.findSome?_isSome_iff]
  refine exists_congr fun r => and_congr_right fun _ => ?_
  by_cases hr : r.method = method
  · rw [if_pos hr, Option.isSome_map, Route.isSome_captures]
    exact (and_iff_right hr).symm
  · rw [if_neg hr]
    simp [hr]

/-- What is found is the first route with the method that accepts the path. -/
theorem getElem?_place {t : RouteTable} {method : Method} {path : String} {r : Route} {c : Captures}
    (h : t.find? method path = some (r, c)) : t.routes[t.place path method]? = some r := by
  obtain ⟨before, r', after, hroutes, hr', hbefore⟩ := List.findSome?_eq_some_iff.1 h
  have hskipped : ∀ s ∈ before, (decide (s.method = method) && s.accepts path) = false := by
    intro s hs
    have hnone := hbefore s hs
    by_cases hmethod : s.method = method
    · rw [if_pos hmethod, Option.map_eq_none_iff] at hnone
      rw [← s.isSome_captures, hnone, Option.isSome_none, Bool.and_false]
    · rw [decide_eq_false hmethod, Bool.false_and]
  by_cases hmethod : r'.method = method
  · rw [if_pos hmethod] at hr'
    obtain ⟨c', hc', heq⟩ := Option.map_eq_some_iff.1 hr'
    cases heq
    have haccepts : r.accepts path = true := by
      rw [← r.isSome_captures, hc', Option.isSome_some]
    have hplace : t.place path method = before.length := by
      rw [place, placeAmong, hroutes, List.findIdx_append, List.findIdx_cons,
        List.findIdx_eq_length_of_false hskipped]
      simp [hmethod, haccepts]
    rw [hplace, hroutes, List.getElem?_append_right (Nat.le_refl _), Nat.sub_self,
      List.getElem?_cons_zero]
  · rw [if_neg hmethod] at hr'
    cases hr'

theorem value_find_eq_ok_iff {t : RouteTable} {method : Method} {path : String}
    {found : Route × Captures} :
    (t.find method path).value = .ok found ↔ t.find? method path = some found := by
  rw [find]
  cases t.find? method path <;> simp [Traced.logged]

theorem exists_value_find_iff {t : RouteTable} {method : Method} {path : String} :
    (∃ r c, (t.find method path).value = .ok (r, c)) ↔
      ∃ r ∈ t.routes, r.method = method ∧ r.accepts path = true := by
  rw [← isSome_find?_iff, Option.isSome_iff_exists, Prod.exists]
  simp only [value_find_eq_ok_iff]

/-! ## Methods -/

theorem mem_allowed_iff {t : RouteTable} {path : String} {method : Method} :
    method ∈ t.allowed path ↔ ∃ r ∈ t.routes, r.method = method ∧ r.accepts path = true := by
  simp only [allowed, List.mem_eraseDups, List.mem_map, List.mem_filter]
  exact exists_congr fun r => by rw [and_assoc, and_comm (a := r.accepts path = true)]

theorem placeAmong_cons (p : Route → Bool) (r : Route) (rs : List Route) (method : Method) :
    placeAmong p (r :: rs) method =
      if r.method = method ∧ p r = true then 0 else placeAmong p rs method + 1 := by
  rw [placeAmong, List.findIdx_cons, placeAmong]
  by_cases hmethod : r.method = method
  · cases p r <;> simp [hmethod]
  · simp [hmethod]

/-- Routes with other methods do not matter for the place of a method. -/
theorem placeAmong_without (p : Route → Bool) (rs : List Route) {method other : Method}
    (h : method ≠ other) :
    placeAmong (fun r => p r && !(r.method == other)) rs method = placeAmong p rs method := by
  refine congrArg (fun q => rs.findIdx q) (funext fun r => ?_)
  by_cases hr : r.method = method
  · simp [hr, h]
  · simp [hr]

/-- The methods of some of the routes stand in the order of their first routes among these. -/
theorem pairwise_eraseDups (p : Route → Bool) (rs : List Route) :
    ((rs.filter p).map (·.method)).eraseDups.Pairwise fun m n =>
      placeAmong p rs m < placeAmong p rs n := by
  -- behind the first of these routes, only those with other methods count
  induction rs generalizing p with
  | nil => exact List.Pairwise.nil
  | cons r rs ih =>
    cases hp : p r with
    | false =>
      have hsucc : ∀ m, placeAmong p (r :: rs) m = placeAmong p rs m + 1 := by
        intro m
        simp [placeAmong_cons, hp]
      rw [List.filter_cons, hp, if_neg Bool.false_ne_true]
      simp only [hsucc, Nat.add_lt_add_iff_right]
      exact ih p
    | true =>
      let others := (rs.filter fun s => p s && !(s.method == r.method)).map (·.method)
      have hrest : ((rs.filter p).map (·.method)).filter (fun m => !m == r.method) = others := by
        rw [List.filter_map, List.filter_filter]
        refine congrArg (List.map Route.method) (List.filter_congr fun s _ => ?_)
        exact Bool.and_comm _ _
      have hother : ∀ m ∈ others.eraseDups, m ≠ r.method := by
        intro m hm
        obtain ⟨s, hs, rfl⟩ := List.mem_map.1 (List.mem_eraseDups.1 hm)
        simpa using (Bool.and_eq_true_iff.1 (List.mem_filter.1 hs).2).2
      have hsucc : ∀ m ∈ others.eraseDups, placeAmong p (r :: rs) m =
          placeAmong (fun s => p s && !(s.method == r.method)) rs m + 1 := by
        intro m hm
        rw [placeAmong_cons, placeAmong_without p rs (hother m hm),
          if_neg fun h => hother m hm h.1.symm]
      rw [List.filter_cons, hp, if_pos rfl, List.map_cons, List.eraseDups_cons, hrest,
        List.pairwise_cons]
      constructor
      · intro m hm
        rw [hsucc m hm, placeAmong_cons, if_pos ⟨rfl, hp⟩]
        exact Nat.succ_pos _
      · refine (ih _).imp_of_mem fun hm hn hlt => ?_
        rw [hsucc _ hm, hsucc _ hn]
        exact Nat.succ_lt_succ hlt

/-- The methods that are allowed stand in the order of their first routes. -/
theorem pairwise_allowed (t : RouteTable) (path : String) :
    (t.allowed path).Pairwise fun m n => t.place path m < t.place path n :=
  pairwise_eraseDups (·.accepts path) t.routes

theorem nodup_allowed (t : RouteTable) (path : String) : (t.allowed path).Nodup :=
  (t.pairwise_allowed path).imp fun h => by
    rintro rfl
    exact Nat.lt_irrefl _ h

end RouteTable

end RequestBinding
