import Mathlib.Algebra.BigOperators.Group.List.Basic
import Mathlib.Algebra.Ring.Defs
import RequestBinding.Proofs.Regex.Stops

/-!
# The order in which stops are preferred

Which stop of an expression is preferred depends on the order in which its parts list theirs. A
preference says for each place where a match from it may stop, the preferred stop first and each
place at most once. A product of preferences is one match after the other, and a sum is a choice, of
which the first summand is preferred. So sums do not commute, and a product distributes over a sum
on its right only if its left factor leaves no choice itself.

## Main definitions

* `Preference` - stops in order of preference, with products and sums
* `Preference.Steady` - there is at most one stop from each place
* `Regex.preference` - the preference of an expression

## Main statements

* `Preference.sum_mul`, `Preference.Steady.mul_sum` - products distribute over sums
* `Preference.head?_sum` - the first choice that leads anywhere is taken
-/

namespace RequestBinding.Regex

/-! ## Preferences -/

/-- Where matches from each place may stop, the preferred stop first. -/
structure Preference where
  stops : Cursor → List Stop
  orderly : ∀ c, Orderly c (stops c)

namespace Preference

@[ext] theorem ext {m n : Preference} (h : ∀ c, m.stops c = n.stops c) : m = n := by
  obtain ⟨s, _⟩ := m
  obtain ⟨t, _⟩ := n
  obtain rfl : s = t := funext h
  rfl

/-- Nothing matches. -/
instance : Zero Preference := ⟨⟨fun _ => [], Orderly.nil⟩⟩

/-- A match stays where it is. -/
instance : One Preference := ⟨⟨fun c => [⟨[], c⟩], fun c => .singleton (ahead_here c [])⟩⟩

/-- One match after the other. -/
instance : Mul Preference :=
  ⟨fun m n => ⟨fun c => follow (m.stops c) n.stops, fun c => (m.orderly c).follow n.orderly⟩⟩

/-- Either of two matches, of which the first is preferred. -/
instance : Add Preference :=
  ⟨fun m n => ⟨fun c => firsts (m.stops c ++ n.stops c),
    fun c => (m.orderly c).append (n.orderly c)⟩⟩

theorem stops_zero (c : Cursor) : (0 : Preference).stops c = [] := rfl

theorem stops_mul (m n : Preference) (c : Cursor) :
    (m * n).stops c = follow (m.stops c) n.stops := rfl

theorem stops_add (m n : Preference) (c : Cursor) :
    (m + n).stops c = firsts (m.stops c ++ n.stops c) := rfl

instance : Monoid Preference where
  mul_assoc m n p := by
    refine ext fun c => follow_follow (comparable_of_ahead (c := c) fun s hs => ?_) p.stops
    obtain ⟨a, ha, hs⟩ := List.mem_flatMap.1 hs
    obtain ⟨b, hb, rfl⟩ := List.mem_map.1 hs
    exact ((m.orderly c).ahead a ha).behind ((n.orderly a.cursor).ahead b hb) a.captures
  one_mul m := ext fun c => (follow_here c m.stops).trans (m.orderly c).distinct
  mul_one m := ext fun c => (follow_skip (m.stops c)).trans (m.orderly c).distinct

instance : AddMonoid Preference where
  add_assoc m n p := by
    refine ext fun c => ?_
    simp only [stops_add]
    rw [firsts_firsts_append, firsts_append_firsts, List.append_assoc]
  zero_add m := ext fun c => (m.orderly c).distinct
  add_zero m := by
    refine ext fun c => ?_
    rw [stops_add, stops_zero, List.append_nil, (m.orderly c).distinct]
  nsmul := nsmulRec

instance : MulZeroClass Preference where
  zero_mul _ := rfl
  mul_zero m := by
    refine ext fun c => ?_
    have hnone : (m.stops c).flatMap (behind (stops 0)) = [] :=
      List.flatMap_eq_nil_iff.2 fun _ _ => rfl
    rw [stops_mul, follow_eq, hnone]
    rfl

/-- A choice may be made before what comes next. -/
instance : RightDistribClass Preference where
  right_distrib m n p := by
    refine ext fun c => ?_
    have hcomparable : Comparable (m.stops c ++ n.stops c) := comparable_of_ahead (c := c)
      fun s hs => (List.mem_append.1 hs).elim ((m.orderly c).ahead s) ((n.orderly c).ahead s)
    rw [stops_mul, stops_add, follow_firsts hcomparable, follow_append]
    rfl

/-- What comes behind a choice may be put behind each of its branches. -/
theorem sum_mul (ms : List Preference) (p : Preference) :
    ms.sum * p = (ms.map (· * p)).sum := by
  induction ms with
  | nil => rfl
  | cons m ms ih => rw [List.sum_cons, add_mul, ih, List.map_cons, List.sum_cons]

/-- The first choice that leads anywhere is taken. -/
theorem head?_sum (ms : List Preference) (c : Cursor) :
    (ms.sum.stops c).head? = ms.findSome? fun m => (m.stops c).head? := by
  induction ms with
  | nil => rfl
  | cons m ms ih =>
    rw [List.sum_cons, stops_add, head?_firsts, List.head?_append, ih, List.findSome?_cons]
    cases (m.stops c).head? <;> rfl

/-! ## Steady preferences -/

/-- There is at most one stop from each place. -/
def Steady (m : Preference) : Prop := ∀ c, (m.stops c).length ≤ 1

theorem steady_one : (1 : Preference).Steady := fun _ => Nat.le_refl 1

theorem Steady.cases {m : Preference} (h : m.Steady) (c : Cursor) :
    m.stops c = [] ∨ ∃ s, m.stops c = [s] := by
  have hle := h c
  cases hs : m.stops c with
  | nil => exact .inl rfl
  | cons s ss =>
    rw [hs, List.length_cons] at hle
    exact .inr ⟨s, by rw [List.length_eq_zero_iff.1 (by omega : ss.length = 0)]⟩

theorem follow_singleton (s : Stop) (m : Preference) :
    follow [s] m.stops = (m.stops s.cursor).map (Stop.after s.captures) := by
  rw [follow_eq, List.flatMap_singleton, behind, firsts_after, (m.orderly s.cursor).distinct]

theorem Steady.mul {m n : Preference} (hm : m.Steady) (hn : n.Steady) : (m * n).Steady := by
  intro c
  rw [stops_mul]
  rcases hm.cases c with h | ⟨s, h⟩
  · rw [h]
    exact Nat.zero_le 1
  · rw [h, follow_singleton, List.length_map]
    exact hn s.cursor

theorem steady_prod {ms : List Preference} (h : ∀ m ∈ ms, m.Steady) : ms.prod.Steady := by
  induction ms with
  | nil => exact steady_one
  | cons m ms ih =>
    rw [List.prod_cons]
    exact (h m List.mem_cons_self).mul (ih fun n hn => h n (List.mem_cons_of_mem m hn))

/-- What leaves no choice may be put before each branch of a choice. -/
theorem Steady.mul_add {m : Preference} (hm : m.Steady) (n p : Preference) :
    m * (n + p) = m * n + m * p := by
  refine ext fun c => ?_
  rw [stops_add, stops_mul, stops_mul, stops_mul]
  rcases hm.cases c with h | ⟨s, h⟩
  · rw [h]
    rfl
  · rw [h, follow_singleton, follow_singleton, follow_singleton, ← List.map_append,
      firsts_after]
    rfl

theorem Steady.mul_sum {m : Preference} (hm : m.Steady) (ms : List Preference) :
    m * ms.sum = (ms.map (m * ·)).sum := by
  induction ms with
  | nil => exact mul_zero m
  | cons n ms ih => rw [List.sum_cons, hm.mul_add, ih, List.map_cons, List.sum_cons]

end Preference

/-- The preference of an expression. -/
def preference (r : Regex) : Preference := ⟨r.stops, orderly_stops r⟩

end RequestBinding.Regex
