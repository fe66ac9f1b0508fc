import RequestBinding.Proofs.Route.Methods

/-!
# Tables of more trees

The trees of a list are compiled one by one, so the routes of further trees stand behind those of
the first ones. As the first route for a request wins, further trees change no answer that there
was before, and they answer all other requests as they would alone.

## Main definitions

* `RouteTable.First` - the first route for a request
* `RouteTable.Extends` - a table with the routes of two others

## Main statements

* `RouteTable.value_find_eq_ok_iff_first` - the route that is found is the first one
* `RouteTable.value_compileAll_append` - further declarations
* `RouteTable.extends_of_routes` - the answers of a table with the routes of two others
* `RouteTable.compile_appends` - further trees
-/

namespace RequestBinding.RouteTable

/-! ## First routes -/

/-- A route stands at a place of a table, has the method of a request and captures certain values
from its path; no route before it has the method and accepts the path. -/
structure First (t : RouteTable) (method : Method) (path : String) (i : Nat) (r : Route)
    (c : Captures) : Prop where
  route : t.routes[i]? = some r
  method_eq : r.method = method
  captures_eq : r.captures path = some c
  least : ∀ j q, t.routes[j]? = some q → q.method = method → q.accepts path = true → i ≤ j

/-- What one route of a table answers. -/
def answer (method : Method) (path : String) (r : Route) : Option (Route × Captures) :=
  if r.method = method then (r.captures path).map (r, ·) else none

theorem answer_eq_some_iff {method : Method} {path : String} {r : Route}
    {found : Route × Captures} : answer method path r = some found ↔
      r.method = method ∧ r.captures path = some found.2 ∧ found.1 = r := by
  obtain ⟨r', c⟩ := found
  rw [answer]
  by_cases hmethod : r.method = method
  · cases r.captures path <;> simp [hmethod, eq_comm, and_comm]
  · simp [hmethod]

theorem answer_eq_none_iff {method : Method} {path : String} {r : Route} :
    answer method path r = none ↔ (r.method = method → r.accepts path = false) := by
  rw [answer, ← r.isSome_captures, Option.isSome_eq_false_iff, Option.isNone_iff_eq_none]
  by_cases hmethod : r.method = method
  · simp [hmethod]
  · simp [hmethod]

theorem find?_eq (t : RouteTable) (method : Method) (path : String) :
    t.find? method path = t.routes.findSome? (answer method path) := rfl

/-- A search in a list finds the first place with a result. -/
theorem findSome?_eq_some_iff_getElem? {α β : Type} {f : α → Option β} {as : List α} {b : β} :
    as.findSome? f = some b ↔
      ∃ i a, as[i]? = some a ∧ f a = some b ∧
        ∀ (j : Nat) a', j < i → as[j]? = some a' → f a' = none := by
  rw [List.findSome?_eq_some_iff]
  constructor
  · rintro ⟨before, a, after, rfl, ha, hnone⟩
    refine ⟨before.length, a, by simp, ha, fun j a' hj ha' => hnone a' ?_⟩
    rw [List.getElem?_append_left hj] at ha'
    exact List.mem_of_getElem? ha'
  · rintro ⟨i, a, ha, hb, hnone⟩
    obtain ⟨hi, rfl⟩ := List.getElem?_eq_some_iff.1 ha
    refine ⟨as.take i, as[i], as.drop (i + 1), by simp, hb, fun a' ha' => ?_⟩
    obtain ⟨j, hj, rfl⟩ := List.mem_take_iff_getElem.1 ha'
    have hlt : j < i := by omega
    exact hnone j _ hlt (List.getElem?_eq_getElem _)

/-- The route that is found is the first one for the request. -/
theorem value_find_eq_ok_iff_first {t : RouteTable} {method : Method} {path : String} {r : Route}
    {c : Captures} :
    (t.find method path).value = .ok (r, c) ↔ ∃ i, t.First method path i r c := by
  rw [value_find_eq_ok_iff, find?_eq, findSome?_eq_some_iff_getElem?]
  simp only [answer_eq_some_iff, answer_eq_none_iff]
  constructor
  · rintro ⟨i, _, hroute, ⟨hmethod, hcaptures, rfl⟩, hnone⟩
    refine ⟨i, hroute, hmethod, hcaptures, fun j q hq hqmethod haccepts => ?_⟩
    by_contra hlt
    have hrefused := hnone j q (Nat.lt_of_not_le hlt) hq hqmethod
    rw [haccepts] at hrefused
    cases hrefused
  · rintro ⟨i, hroute, hmethod, hcaptures, hleast⟩
    refine ⟨i, r, hroute, ⟨hmethod, hcaptures, rfl⟩, fun j q hj hq hqmethod => ?_⟩
    by_contra haccepts
    exact Nat.not_le_of_lt hj (hleast j q hq hqmethod (Bool.not_eq_false _ ▸ haccepts))

/-- There is no route for a request if no route with its method accepts its path. -/
theorem value_find_eq_error_iff {t : RouteTable} {method : Method} {path : String}
    {e : RouteError} : (t.find method path).value = .error e ↔
      e = .notFound method path ∧ ∀ r ∈ t.routes, r.method = method → r.accepts path = false := by
  have hnone : t.find? method path = none ↔
      ∀ r ∈ t.routes, r.method = method → r.accepts path = false := by
    rw [find?_eq, List.findSome?_eq_none_iff]
    exact forall₂_congr fun r _ => answer_eq_none_iff
  rw [← hnone, find]
  cases t.find? method path <;> simp [Traced.logged, eq_comm]

/-! ## Further routes -/

/-- A table has the routes of one table and then those of another. The requests that the first one
finds a route for are answered as it answers them, and all others as the second one answers
them. -/
structure Extends (t front back : RouteTable) : Prop where
  routes : t.routes = front.routes ++ back.routes
  kept : ∀ method path found, (front.find method path).value = .ok found →
    t.find method path = front.find method path
  others : ∀ method path e, (front.find method path).value = .error e →
    t.find method path = back.find method path

theorem extends_of_routes {t front back : RouteTable} (h : t.routes = front.routes ++ back.routes) :
    t.Extends front back := by
  have hfind : ∀ method path, t.find? method path =
      (front.find? method path).or (back.find? method path) := by
    intro method path
    rw [find?_eq, h, List.findSome?_append]
    rfl
  refine ⟨h, fun method path found hfound => ?_, fun method path e he => ?_⟩
  · rw [value_find_eq_ok_iff] at hfound
    rw [find, find, hfind, hfound, Option.some_or]
  · have hnone : front.find? method path = none := by
      rw [find] at he
      cases hfound : front.find? method path with
      | none => rfl
      | some found =>
        rw [hfound] at he
        cases he
    rw [find, find, hfind, hnone, Option.none_or]

/-! ## Further trees -/

/-- Nothing is kept from one declaration to the next but the routes, so lists of declarations are
compiled one after the other. -/
theorem value_compileAll_append (ds es : List Declaration) : (compileAll (ds ++ es)).value =
    (compileAll ds).value.bind fun rs => (compileAll es).value.map (rs ++ ·) := by
  induction ds with
  | nil =>
    show (compileAll es).value = (compileAll es).value.map _
    cases (compileAll es).value <;> rfl
  | cons d ds ih =>
    rw [List.cons_append, compileAll, compileAll]
    cases d.routes with
    | error e => rfl
    | ok first =>
      simp only [ih]
      cases (compileAll ds).value with
      | error e => rfl
      | ok rs =>
        cases (compileAll es).value with
        | error e => rfl
        | ok more => exact congrArg Except.ok (List.append_assoc first rs more).symm

/-- The first route for a request is the one that is found, with what it captures; and the trees of
two lists that are compiled are compiled as one list too, into the routes of the first list and then
those of the second. So requests for which the first trees have a route are answered as by these
alone, and all others as by the second ones alone. -/
theorem compile_appends :
    (∀ (t : RouteTable) (method : Method) (path : String),
      (∀ r c, (t.find method path).value = .ok (r, c) ↔ ∃ i, t.First method path i r c) ∧
      ∀ e, (t.find method path).value = .error e ↔ e = .notFound method path ∧
        ∀ r ∈ t.routes, r.method = method → r.accepts path = false) ∧
    ∀ (first more : List Resource) (front back : RouteTable),
      (compile first).value = .ok front → (compile more).value = .ok back →
      ∃ t, (compile (first ++ more)).value = .ok t ∧ t.Extends front back := by
  refine ⟨fun t method path => ⟨fun r c => value_find_eq_ok_iff_first,
    fun e => value_find_eq_error_iff⟩, fun first more front back hfront hback => ?_⟩
  rw [value_compile_eq_ok_iff] at hfront hback
  refine ⟨⟨front.routes ++ back.routes⟩, ?_, extends_of_routes rfl⟩
  rw [value_compile_eq_ok_iff, List.flatMap_append, value_compileAll_append, hfront, hback]
  rfl

/-- Users by their number. -/
def usersByNumber : List Resource :=
  [(Resource.named "user").route "/user" |>.capture "id" .digits |>.getAt "find" "/{user.id}"]

/-- Users by their login, which may be any text, a number too. -/
def usersByLogin : List Resource :=
  [(Resource.named "login").route "/user" |>.getAt "find" "/{user.login}" |>.post "create"]

/-- A number is not taken for a login, as the route for numbers stands before the one for logins. -/
theorem compile_appends_users : ∃ front back t,
    (compile usersByNumber).value = .ok front ∧ (compile usersByLogin).value = .ok back ∧
    (compile (usersByNumber ++ usersByLogin)).value = .ok t ∧ t.Extends front back ∧
    (t.find? .get "/user/42").map (·.1.resource) = some "user" ∧
    (t.find? .get "/user/4x").map (·.1.resource) = some "login" := by
  have hfront : (compile usersByNumber).value.isOk = true := by decide +kernel
  have hback : (compile usersByLogin).value.isOk = true := by decide +kernel
  obtain ⟨front, hfront⟩ := exists_of_isOk hfront
  obtain ⟨back, hback⟩ := exists_of_isOk hback
  obtain ⟨t, ht, hextends⟩ := compile_appends.2 _ _ front back hfront hback
  have hrun : (compile (usersByNumber ++ usersByLogin)).value.toOption.any (fun t =>
      decide ((t.find? .get "/user/42").map (·.1.resource) = some "user") &&
        decide ((t.find? .get "/user/4x").map (·.1.resource) = some "login")) = true := by
    decide +kernel
  rw [ht] at hrun
  obtain ⟨hnumber, hlogin⟩ := Bool.and_eq_true_iff.1 hrun
  exact ⟨front, back, t, hfront, hback, ht, hextends, of_decide_eq_true hnumber,
    of_decide_eq_true hlogin⟩

end RequestBinding.RouteTable
