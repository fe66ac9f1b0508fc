import RequestBinding.Proofs.Route.Captures
import RequestBinding.Proofs.Route.Methods
import RequestBinding.Proofs.Template.Outline

/-!
# Tables without overlaps

If the outlines of any two actions with the same method are apart, no path is accepted by two routes
of the table that have the same method. It does not matter then in which order the routes stand.

## Main definitions

* `Declaration.Regular` - actions whose paths go along the outlines of their templates
* `Declaration.Exclusive` - actions that have no request in common
* `RouteTable.Exclusive` - tables in which no two routes have a request in common

## Main statements

* `RouteTable.exclusive_of_compile` - the outlines of the actions decide
* `RouteTable.Exclusive.length_filter_le_one` - at most one route is in question
* `RouteTable.Exclusive.find_perm` - the order does not matter
-/

namespace RequestBinding

/-! ## Actions -/

namespace Declaration

/-- The segments of the templates of an action; none if they are malformed. -/
def segments? (s : Scope) (a : Action) : Option (List Segment) :=
  match (s.templates ++ [a.subpath]).mapM parseTemplate with
  | .ok ts => some (ts.flatMap (·.segments))
  | .error _ => none

/-- The constraints of an action are built in, and what is not literal text in its templates stays
within a segment of a path. -/
structure Regular (p : Scope × Action) : Prop where
  builtIn : ∀ e ∈ p.1.constraints.entries, e.2 = .digits ∨ e.2 = .slug
  within : ∀ ss ∈ segments? p.1 p.2, Segment.staysWithin ss = true

instance (p : Scope × Action) : Decidable (Regular p) :=
  decidable_of_iff (_ ∧ _) ⟨fun ⟨h₁, h₂⟩ => ⟨h₁, h₂⟩, fun ⟨h₁, h₂⟩ => ⟨h₁, h₂⟩⟩

/-- If two actions have the same method, the outlines of their templates are apart. -/
def Exclusive (p q : Scope × Action) : Prop :=
  p.2.method = q.2.method → ∀ ss ∈ segments? p.1 p.2, ∀ ts ∈ segments? q.1 q.2,
    Segment.Apart (Segment.outline ss) (Segment.outline ts)

instance : DecidableRel Exclusive := fun _ _ => inferInstanceAs (Decidable (_ → _))

/-- The parts of a path that is accepted go along the outline of the templates. -/
theorem forall₂_along_of_accepts {p : Scope × Action} {r : Route} (hp : Regular p)
    (h : route p.1 p.2 = .ok r) {path : String} (hpath : r.accepts path = true) :
    ∃ ss ∈ segments? p.1 p.2,
      List.Forall₂ Segment.Along (Segment.outline ss) (path.toList.splitOn '/') := by
  rw [← r.isSome_captures] at hpath
  obtain ⟨c, hc⟩ := Option.isSome_iff_exists.1 hpath
  obtain ⟨ts, pairs, hts, hcut, _⟩ := exists_cut_of_captures hp.builtIn h hc
  have hsegments : segments? p.1 p.2 = some (ts.flatMap (·.segments)) := by
    rw [segments?, hts]
  exact ⟨_, hsegments, Segment.forall₂_along_of_cut (hp.within _ hsegments) hcut⟩

/-- Actions whose outlines are apart do not share a request. -/
theorem Exclusive.not_accepts {p q : Scope × Action} (h : Exclusive p q) (hp : Regular p)
    (hq : Regular q) {r u : Route} (hr : route p.1 p.2 = .ok r) (hu : route q.1 q.2 = .ok u)
    (hmethod : r.method = u.method) {path : String} (haccepts : r.accepts path = true) :
    u.accepts path = false := by
  rw [method_of_route hr, method_of_route hu] at hmethod
  by_contra hboth
  obtain ⟨ss, hss, halong⟩ := forall₂_along_of_accepts hp hr haccepts
  obtain ⟨ts, hts, halong'⟩ := forall₂_along_of_accepts hq hu (Bool.not_eq_false _ ▸ hboth)
  exact (h hmethod ss hss ts hts).elim halong halong'

end Declaration

/-! ## Tables -/

namespace RouteTable

/-- No path is accepted by two routes with the same method. -/
def Exclusive (t : RouteTable) : Prop :=
  t.routes.Pairwise fun r u =>
    r.method = u.method → ∀ path, r.accepts path = true → u.accepts path = false

theorem exclusive_of_compile {resources : List Resource} {t : RouteTable}
    (ht : (compile resources).value = .ok t)
    (hregular : ∀ p ∈ actions resources, Declaration.Regular p)
    (h : (actions resources).Pairwise Declaration.Exclusive) : t.Exclusive := by
  have hboth : (actions resources).Pairwise fun p q =>
      Declaration.Exclusive p q ∧ Declaration.Regular p ∧ Declaration.Regular q :=
    h.imp_of_mem fun hp hq hpq => ⟨hpq, hregular _ hp, hregular _ hq⟩
  refine pairwise_of_forall₂ (forall₂_of_compile ht) hboth ?_
  rintro p q r u ⟨hpq, hp, hq⟩ hr hu hmethod path haccepts
  exact hpq.not_accepts hp hq hr hu hmethod haccepts

/-- Lists of at most one member that are rearrangements of each other are the same. -/
theorem eq_of_perm {α : Type} {as bs : List α} (h : as.Perm bs) (hbs : bs.length ≤ 1) :
    as = bs := by
  match bs with
  | [] => exact h.eq_nil
  | [b] => exact h.eq_singleton
  | _ :: _ :: _ => simp at hbs

namespace Exclusive

variable {t : RouteTable}

/-- At most one route has a method and accepts a path. -/
theorem length_filter_le_one (h : t.Exclusive) (method : Method) (path : String) :
    (t.routes.filter fun r => decide (r.method = method) && r.accepts path).length ≤ 1 := by
  have hnone : (t.routes.filter fun r => decide (r.method = method) && r.accepts path).Pairwise
      fun _ _ => False := by
    refine (List.Pairwise.filter _ h).imp_of_mem fun {r u} hr hu hru => ?_
    simp only [List.mem_filter, Bool.and_eq_true, decide_eq_true_eq] at hr hu
    have hrefused := hru (hr.2.1.trans hu.2.1.symm) path hr.2.2
    rw [hu.2.2] at hrefused
    cases hrefused
  generalize t.routes.filter (fun r => decide (r.method = method) && r.accepts path) = rs at hnone ⊢
  match rs with
  | [] => exact Nat.zero_le 1
  | [_] => exact Nat.le_refl 1
  | r :: u :: _ => exact ((List.pairwise_cons.1 hnone).1 u List.mem_cons_self).elim

/-- Routes with a method that accept the same path are the same. -/
theorem eq_of_accepts (h : t.Exclusive) {r u : Route} (hr : r ∈ t.routes) (hu : u ∈ t.routes)
    (hmethod : r.method = u.method) {path : String} (hpath : r.accepts path = true)
    (hpath' : u.accepts path = true) : r = u := by
  have hlength := h.length_filter_le_one u.method path
  have hmem : r ∈ t.routes.filter fun r => decide (r.method = u.method) && r.accepts path := by
    simp [hr, hmethod, hpath]
  have hmem' : u ∈ t.routes.filter fun r => decide (r.method = u.method) && r.accepts path := by
    simp [hu, hpath']
  generalize t.routes.filter (fun r => decide (r.method = u.method) && r.accepts path) = rs
    at hlength hmem hmem'
  match rs with
  | [] => cases hmem
  | [_] => rw [List.mem_singleton.1 hmem, List.mem_singleton.1 hmem']
  | _ :: _ :: _ => simp at hlength

/-- The order of the routes does not matter for what is found. -/
theorem find_perm (h : t.Exclusive) {rs : List Route} (hrs : rs.Perm t.routes) (method : Method)
    (path : String) : (RouteTable.mk rs).find method path = t.find method path := by
  let answer : Route → Option (Route × Captures) := fun r =>
    if r.method = method then (r.captures path).map (r, ·) else none
  have hlength : (t.routes.filterMap answer).length ≤ 1 := by
    rw [List.length_filterMap_eq_countP, List.countP_eq_length_filter]
    refine le_of_eq_of_le (congrArg List.length (List.filter_congr fun r _ => ?_))
      (h.length_filter_le_one method path)
    by_cases hmethod : r.method = method
    · simp [answer, hmethod, r.isSome_captures]
    · simp [answer, hmethod]
  have hanswers : rs.filterMap answer = t.routes.filterMap answer :=
    eq_of_perm (hrs.filterMap answer) hlength
  have hfind : (RouteTable.mk rs).find? method path = t.find? method path := by
    show rs.findSome? answer = t.routes.findSome? answer
    rw [← List.head?_filterMap, ← List.head?_filterMap, hanswers]
  rw [find, find, hfind]

end Exclusive

end RouteTable

end RequestBinding
