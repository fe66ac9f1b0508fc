import Mathlib.Algebra.BigOperators.Group.List.Lemmas
import Mathlib.Algebra.GroupWithZero.Nat
import RequestBinding.Proofs.Binder.Answers

/-!
# Counting requests

Whatever becomes of a request, a binder steps one counter for it: that of the misses if nothing is
there, and else that of the matches of the route, also if the body cannot be read afterwards. A
match is counted for the resource of the route itself, whatever type its results have.

## Main definitions

* `Binder.Call`, `Binder.answers` - calls of a binder, and its answers to several of them
* `Binder.Counts` - the counter that accounts for a call
* `Binder.Accounted` - the counters account for every call

## Main statements

* `sum_countOf_stepped` - the steps of all counters of some kind
* `Binder.counters_bindBody` - only the search for a route steps a counter
* `Binder.counts_answer` - each call steps the counter that accounts for it
* `Binder.accounted` - the counters of any calls
-/

namespace RequestBinding

/-! ## Counters -/

/-- Whether a counter counts matches. -/
def Counter.isMatch : Counter → Bool
  | .routeMatches .. => true
  | _ => false

theorem counters_append (ss ts : List Signal) : counters (ss ++ ts) = counters ss ++ counters ts :=
  List.filterMap_append

theorem nodup_eraseDups {α : Type} [DecidableEq α] : ∀ l : List α, l.eraseDups.Nodup
  | [] => .nil
  | a :: l => by
    rw [List.eraseDups_cons, List.nodup_cons]
    exact ⟨by simp, nodup_eraseDups _⟩
termination_by l => l.length
decreasing_by exact Nat.lt_succ_of_le (List.length_filter_le _ _)

/-- The steps of all counters of some kind, counter by counter. -/
theorem sum_countOf_stepped (p : Counter → Bool) (ss : List Signal) :
    (((stepped ss).filter p).map (countOf · ss)).sum = (counters ss).countP p := by
  have hperm : (stepped ss).Perm (counters ss).dedup := by
    rw [stepped, List.perm_ext_iff_of_nodup (nodup_eraseDups _) (List.nodup_dedup _)]
    intro c
    rw [List.mem_eraseDups, List.mem_dedup]
  rw [((hperm.filter p).map _).sum_eq]
  exact List.sum_map_count_dedup_filter_eq_countP p (counters ss)

namespace Binder

/-! ## Calls -/

/-- A call of a binder. -/
inductive Call where
  | bind (method : Method) (uri : Uri) (bytes : List UInt8)
  | request (r : Request)

namespace Call

/-- The method of a call. -/
def method : Call → Method
  | .bind method _ _ => method
  | .request r => r.method

/-- The target of a call. -/
def uri : Call → Uri
  | .bind _ uri _ => uri
  | .request r => r.uri

/-- The body of a call, by the way it is read. -/
def body : Call → Body
  | .bind _ _ bytes => .json bytes
  | .request r => .classify (Body.contentType? r.headers) r.body

end Call

variable {b : Binder} {call : Call}

/-- The answer of a binder to a call. -/
def answer (b : Binder) : Call → Traced (Except RequestError Binding)
  | .bind method uri bytes => b.bind method uri bytes
  | .request r => b.bindRequest r

/-- The answers of a binder to several calls, with all signals. -/
def answers (b : Binder) : List Call → Traced (List (Except RequestError Binding))
  | [] => .pure []
  | call :: calls => (b.answer call).bind fun x => (b.answers calls).map (x :: ·)

theorem answer_eq (b : Binder) (call : Call) :
    b.answer call = b.bindBody call.method call.uri call.body := by
  cases call <;> rfl

/-- The counter that accounts for a call: the misses if nothing is there, and else the matches of
the route that is found, under its resource and its action. -/
inductive Counts (b : Binder) (call : Call) : Counter → Prop
  | miss (h : failure? (b.answer call).value = some .notFound) : Counts b call .routeMisses
  | hit {path : String} {r : Route} {c : Captures}
      (h : failure? (b.answer call).value ≠ some .notFound)
      (hpath : b.strip? call.uri.path = some path)
      (hfind : b.routes.find? call.method path = some (r, c)) :
      Counts b call (.routeMatches r.resource r.action)

/-! ## One call -/

/-- The search for a route steps the misses if it fails, and else the matches of the route. -/
theorem counters_route (b : Binder) (method : Method) (uri : Uri) :
    (∃ e, (b.route method uri).value = .error e ∧ e.category = .notFound ∧
        counters (b.route method uri).signals = [.routeMisses]) ∨
      ∃ path r c, b.strip? uri.path = some path ∧ b.routes.find? method path = some (r, c) ∧
        (b.route method uri).value = .ok (r, c) ∧
        counters (b.route method uri).signals = [.routeMatches r.resource r.action] := by
  unfold route
  cases hstrip : b.strip? uri.path with
  | none => exact .inl ⟨_, rfl, rfl, rfl⟩
  | some path =>
    simp only [RouteTable.find]
    cases hfind : b.routes.find? method path with
    | none => exact .inl ⟨_, rfl, rfl, rfl⟩
    | some found => exact .inr ⟨path, found.1, found.2, rfl, hfind, rfl, rfl⟩

/-- Whatever is gathered afterwards, only the search for a route steps a counter. -/
theorem counters_bindBody (b : Binder) (method : Method) (uri : Uri) (body : Body) :
    counters (b.bindBody method uri body).signals = counters (b.route method uri).signals := by
  rw [bindBody, Traced.signals_bind, counters_append]
  split
  · exact List.append_nil _
  · split
    · exact List.append_nil _
    · exact List.append_nil _

/-- Behind a route, a request does not fail with nothing being there. -/
theorem failure?_bindBody_of_route {b : Binder} {method : Method} {uri : Uri} {r : Route}
    {c : Captures} (h : (b.route method uri).value = .ok (r, c)) (body : Body) :
    failure? (b.bindBody method uri body).value ≠ some .notFound := by
  intro hnone
  rw [bindBody, Traced.value_bind, h] at hnone
  simp only at hnone
  split at hnone
  · cases hnone
  · cases hnone

/-- Each call steps the one counter that accounts for it, once. -/
theorem counts_answer (b : Binder) (call : Call) :
    ∃ c, counters (b.answer call).signals = [c] ∧ Counts b call c := by
  rcases b.counters_route call.method call.uri with
    ⟨e, he, hcategory, hcount⟩ | ⟨path, r, c, hpath, hfind, hroute, hcount⟩
  · refine ⟨_, ?_, .miss ?_⟩
    · rw [answer_eq, counters_bindBody, hcount]
    · rw [answer_eq, bindBody, Traced.value_bind, he]
      exact congrArg some hcategory
  · refine ⟨_, ?_, .hit ?_ hpath hfind⟩
    · rw [answer_eq, counters_bindBody, hcount]
    · rw [answer_eq]
      exact failure?_bindBody_of_route hroute call.body

/-- A request that is bound is counted for the resource and the action of its own route. -/
theorem counters_of_ok {x : Binding} (h : (b.answer call).value = .ok x) :
    counters (b.answer call).signals = [.routeMatches x.route.resource x.route.action] := by
  obtain ⟨c, hc, hcounts⟩ := b.counts_answer call
  rw [hc]
  cases hcounts with
  | miss hmiss =>
    rw [h] at hmiss
    cases hmiss
  | hit _ hpath hfind =>
    rw [answer_eq] at h
    obtain ⟨path', c', _, hpath', hfind', _, _⟩ := exists_of_bindBody h
    obtain rfl := Option.some.inj (hpath.symm.trans hpath')
    obtain ⟨rfl, _⟩ := Prod.mk.inj (Option.some.inj (hfind.symm.trans hfind'))
    rfl

/-- The types of results do not matter for the counters. -/
theorem counters_withResultType (b : Binder) (handler type : String) (call : Call) :
    counters ((b.withResultType handler type).answer call).signals =
      counters (b.answer call).signals := by
  rw [answer_eq, answer_eq, counters_bindBody, counters_bindBody]
  rfl

/-! ## Several calls -/

theorem counters_answers_cons (b : Binder) (call : Call) (calls : List Call) :
    counters (b.answers (call :: calls)).signals =
      counters (b.answer call).signals ++ counters (b.answers calls).signals := by
  rw [answers, Traced.signals_bind, counters_append]
  rfl

/-- The counters that several calls step account for them one by one. -/
theorem counts_answers (b : Binder) (calls : List Call) :
    List.Forall₂ (Counts b) calls (counters (b.answers calls).signals) := by
  induction calls with
  | nil => exact .nil
  | cons call calls ih =>
    obtain ⟨c, hc, hcounts⟩ := b.counts_answer call
    rw [counters_answers_cons, hc]
    exact .cons hcounts ih

theorem counters_answers_withResultType (b : Binder) (handler type : String)
    (calls : List Call) : counters ((b.withResultType handler type).answers calls).signals =
      counters (b.answers calls).signals := by
  induction calls with
  | nil => rfl
  | cons call calls ih =>
    rw [counters_answers_cons, counters_answers_cons, counters_withResultType, ih]

theorem Counts.eq_miss_iff {c : Counter} (h : Counts b call c) :
    c = .routeMisses ↔ failure? (b.answer call).value = some .notFound := by
  cases h with
  | miss h => exact iff_of_true rfl h
  | hit h _ _ => exact iff_of_false nofun h

/-- Of the counters that account for calls, those of matches are all but that of the misses. -/
theorem Counts.isMatch_eq {c : Counter} (h : Counts b call c) :
    c.isMatch = !(c == .routeMisses) := by
  cases h with
  | miss => rfl
  | hit => rfl

/-- The misses are the calls that are answered with nothing being there. -/
theorem countOf_misses (b : Binder) (calls : List Call) :
    countOf .routeMisses (b.answers calls).signals =
      calls.countP fun call => failure? (b.answer call).value == some .notFound := by
  refine (countP_eq_of_forall₂ (b.counts_answers calls) fun call c h => ?_).symm
  rw [Bool.eq_iff_iff, beq_iff_eq, beq_iff_eq, h.eq_miss_iff]

/-- Misses and matches add up to the number of calls. -/
theorem countOf_misses_add (b : Binder) (calls : List Call) :
    countOf .routeMisses (b.answers calls).signals +
      (((stepped (b.answers calls).signals).filter Counter.isMatch).map
        (countOf · (b.answers calls).signals)).sum = calls.length := by
  have hall := b.counts_answers calls
  have hmatches : (counters (b.answers calls).signals).countP Counter.isMatch =
      calls.countP fun call => !(failure? (b.answer call).value == some .notFound) := by
    refine (countP_eq_of_forall₂ hall fun call c h => ?_).symm
    rw [h.isMatch_eq, Bool.not_inj_iff, Bool.eq_iff_iff, beq_iff_eq, beq_iff_eq, h.eq_miss_iff]
  rw [sum_countOf_stepped, countOf_misses, hmatches,
    List.length_eq_countP_add_countP fun call => failure? (b.answer call).value == some .notFound]
  refine congrArg _ (List.countP_congr fun call _ => ?_)
  simp

/-- The counters account for calls: each call steps one counter once, which is that of the misses
exactly if nothing is there, and else that of the matches of the route that is found. So misses and
matches add up to the number of calls. The types of results do not matter. -/
structure Accounted (b : Binder) (calls : List Call) : Prop where
  each : ∀ call ∈ calls, ∃ c, counters (b.answer call).signals = [c] ∧ Counts b call c
  /-- A request that is bound counts for the resource of its own route. -/
  own : ∀ call ∈ calls, ∀ x, (b.answer call).value = .ok x →
    counters (b.answer call).signals = [.routeMatches x.route.resource x.route.action]
  all : List.Forall₂ (Counts b) calls (counters (b.answers calls).signals)
  misses : countOf .routeMisses (b.answers calls).signals =
    calls.countP fun call => failure? (b.answer call).value == some .notFound
  total : countOf .routeMisses (b.answers calls).signals +
    (((stepped (b.answers calls).signals).filter Counter.isMatch).map
      (countOf · (b.answers calls).signals)).sum = calls.length
  types : ∀ handler type, counters ((b.withResultType handler type).answers calls).signals =
    counters (b.answers calls).signals

/-- The counters account for any calls. -/
theorem accounted (b : Binder) (calls : List Call) : Accounted b calls where
  each call _ := b.counts_answer call
  own _ _ _ h := counters_of_ok h
  all := b.counts_answers calls
  misses := b.countOf_misses calls
  total := b.countOf_misses_add calls
  types handler type := b.counters_answers_withResultType handler type calls

end Binder

end RequestBinding
