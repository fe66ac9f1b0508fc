import Mathlib.Logic.Function.Basic
import RequestBinding.Proofs.Regex.Finding
import RequestBinding.Proofs.Regex.Renaming
import RequestBinding.Proofs.Template.Expression
import RequestBinding.Route.Basic

/-!
# Numbering groups differently

The groups of the same segments have different numbers in different templates. Numbering them
differently renames the groups of their expressions, and changes nothing about the values that are
captured.

## Main definitions

* `renumber` - renaming groups by their numbers
* `shifted` - the numbers of the groups of one alternative and of what follows the alternation

## Main statements

* `Segment.rename_regexes` - renumbered segments
* `Route.capturesOf_shifted` - the values captured are the same
-/

namespace RequestBinding

open Regex

theorem injective_groupName : Function.Injective groupName := fun _ _ => groupName_injective

/-- Renames groups by their numbers and keeps all other names. -/
noncomputable def renumber (g : Nat → Nat) : String → String :=
  Function.extend groupName (groupName ∘ g) id

variable {g : Nat → Nat}

theorem renumber_groupName (n : Nat) : renumber g (groupName n) = groupName (g n) :=
  injective_groupName.extend_apply _ _ n

theorem exists_of_renumber {name : String} {n : Nat} (h : renumber g name = groupName n) :
    ∃ i, name = groupName i ∧ g i = n := by
  by_cases hname : ∃ i, groupName i = name
  · obtain ⟨i, rfl⟩ := hname
    rw [renumber_groupName] at h
    exact ⟨i, rfl, groupName_injective h⟩
  · rw [renumber, Function.extend_apply' _ _ _ hname] at h
    exact (hname ⟨n, h.symm⟩).elim

theorem renumber_eq_iff (hg : Function.Injective g) (name : String) (n : Nat) :
    renumber g name = groupName (g n) ↔ name = groupName n := by
  constructor
  · intro h
    obtain ⟨i, rfl, hi⟩ := exists_of_renumber h
    rw [hg hi]
  · rintro rfl
    exact renumber_groupName n

/-! ## Expressions -/

namespace Regex

theorem rename_choiceOf (f : String → String) (rs : List Regex) :
    (choiceOf rs).rename f = choiceOf (rs.map (rename f)) := by
  rcases rs with _ | ⟨r, _ | ⟨s, rs⟩⟩
  · rfl
  · rfl
  · exact rename_anyOf f (r :: s :: rs)

theorem rename_anchored (f : String → String) (rs : List Regex) :
    (anchored rs).rename f = anchored (rs.map (rename f)) := by
  rw [anchored, rename_concat, List.map_cons, List.map_append, List.map_singleton]
  rfl

theorem find_rename (f : String → String) (r : Regex) (cs : List Char) :
    (r.rename f).find cs = (r.find cs).map (Stop.rename f) := by
  rw [find, find]
  induction Cursor.start cs using findFrom.induct (r := r) with
  | case1 c stop hstop =>
    rw [findFrom_eq, findFrom_eq, stops_rename r c, List.head?_map, hstop]
    rfl
  | case2 c hnone x d hd ih =>
    rw [findFrom_eq, findFrom_eq, stops_rename r c, List.head?_map, hnone, hd]
    exact ih
  | case3 c hnone hd =>
    rw [findFrom_eq, findFrom_eq, stops_rename r c, List.head?_map, hnone, hd]
    rfl

end Regex

namespace Segment

variable {inner : String → String → Regex}

mutual

theorem rename_regexesOne (hinner : ∀ resource field, (inner resource field).names = [])
    (n m : Nat) (s : Segment)
    (hg : ∀ i < (keysOne s).length, g (n + i) = m + i) :
    (regexesOne inner n s).map (rename (renumber g)) = regexesOne inner m s := by
  match s with
  | .literal text =>
    rw [regexesOne, regexesOne, List.map_map]
    rfl
  | .placeholder resource field =>
    have hn : g n = m := hg 0 (by simp [keysOne])
    have hfixed : (inner (String.ofList resource) (String.ofList field)).rename (renumber g) =
        inner (String.ofList resource) (String.ofList field) :=
      rename_of_fixed (by simp [hinner])
    rw [regexesOne, regexesOne, List.map_singleton, rename, hfixed, Option.map_some,
      renumber_groupName, hn]
  | .alternation as =>
    rw [keysOne] at hg
    rw [regexesOne, regexesOne, List.map_singleton, rename_choiceOf,
      rename_regexesAlternatives hinner n m as hg]

/-- Segments whose groups are numbered from elsewhere on. -/
theorem rename_regexes (hinner : ∀ resource field, (inner resource field).names = [])
    (n m : Nat) (ss : List Segment)
    (hg : ∀ i < (keys ss).length, g (n + i) = m + i) :
    (regexes inner n ss).map (rename (renumber g)) = regexes inner m ss := by
  match ss with
  | [] =>
    rw [regexes, regexes]
    rfl
  | s :: rest =>
    rw [keys, List.length_append] at hg
    rw [regexes, regexes, List.map_append, rename_regexesOne hinner n m s fun i hi => hg i (by omega),
      rename_regexes hinner _ _ rest fun i hi => ?_]
    rw [Nat.add_assoc, hg _ (by omega), Nat.add_assoc]

theorem rename_regexesAlternatives (hinner : ∀ resource field, (inner resource field).names = [])
    (n m : Nat) (as : List (List Segment))
    (hg : ∀ i < (keysAlternatives as).length, g (n + i) = m + i) :
    (regexesAlternatives inner n as).map (rename (renumber g)) =
      regexesAlternatives inner m as := by
  match as with
  | [] =>
    rw [regexesAlternatives, regexesAlternatives]
    rfl
  | a :: rest =>
    rw [keysAlternatives, List.length_append] at hg
    rw [regexesAlternatives, regexesAlternatives, List.map_cons, rename_concat,
      rename_regexes hinner n m a fun i hi => hg i (by omega),
      rename_regexesAlternatives hinner _ _ rest fun i hi => ?_]
    rw [Nat.add_assoc, hg _ (by omega), Nat.add_assoc]

end

end Segment

/-! ## Captured values -/

theorem get?_renumber (hg : Function.Injective g) (s : Stop) (n : Nat) :
    (s.rename (renumber g)).get? (groupName (g n)) = s.get? (groupName n) := by
  have hname : ∀ c : Capture, ((c.rename (renumber g)).name == groupName (g n)) =
      (c.name == groupName n) := by
    intro c
    rw [Bool.eq_iff_iff, beq_iff_eq, beq_iff_eq]
    exact renumber_eq_iff hg c.name n
  rw [Stop.get?, Stop.get?, Stop.rename, ← List.map_reverse, List.find?_map, Option.map_map]
  simp only [Function.comp_def, hname]
  rfl

/-- Groups with numbers that are not given to any group took no part in a match. -/
theorem get?_renumber_of_ne {n : Nat} (h : ∀ i, g i ≠ n) (s : Stop) :
    (s.rename (renumber g)).get? (groupName n) = none := by
  rw [Stop.get?, Option.map_eq_none_iff, List.find?_eq_none]
  intro c hc hname
  rw [List.mem_reverse] at hc
  obtain ⟨d, _, rfl⟩ := List.mem_map.1 hc
  obtain ⟨i, _, hi⟩ := exists_of_renumber (beq_iff_eq.1 hname)
  exact h i hi

namespace Route

theorem pairs_append (gs hs : List CaptureGroup) (s : Stop) :
    (capturesOf (gs ++ hs) s).pairs = (capturesOf gs s).pairs ++ (capturesOf hs s).pairs :=
  List.filterMap_append

theorem pairs_renumber (hg : Function.Injective g) (s : Stop) (n m : Nat) {ks : List String}
    (h : ∀ i < ks.length, g (n + i) = m + i) :
    (capturesOf (numbered m ks) (s.rename (renumber g))).pairs =
      (capturesOf (numbered n ks) s).pairs := by
  induction ks generalizing n m with
  | nil => rfl
  | cons k ks ih =>
    have hfirst : g n = m := h 0 (Nat.succ_pos _)
    have hrest := ih (n + 1) (m + 1) fun i hi => by
      rw [Nat.add_right_comm, Nat.add_assoc, h (i + 1) (Nat.succ_lt_succ hi)]
      omega
    have hget := get?_renumber hg s n
    rw [hfirst] at hget
    simp only [capturesOf, numbered, List.filterMap_cons, hget] at hrest ⊢
    rw [hrest]

theorem pairs_renumber_of_ne (s : Stop) (m : Nat) {ks : List String}
    (h : ∀ j, m ≤ j → j < m + ks.length → ∀ i, g i ≠ j) :
    (capturesOf (numbered m ks) (s.rename (renumber g))).pairs = [] := by
  refine List.filterMap_eq_nil_iff.2 fun group hgroup => ?_
  obtain ⟨j, hlow, hhigh, hname⟩ := name_of_mem_numbered hgroup
  rw [hname, get?_renumber_of_ne (h j hlow hhigh), Option.map_none]

end Route

/-! ## Alternatives -/

/-- The numbers of groups when the first `a` of them are numbered from `n` on, and the others from
`k` on. -/
def shifted (a n k i : Nat) : Nat := if i < a then n + i else k + (i - a)

theorem shifted_of_lt {a i : Nat} (h : i < a) (n k : Nat) : shifted a n k i = n + i := if_pos h

theorem shifted_add (a n k i : Nat) : shifted a n k (a + i) = k + i := by
  rw [shifted, if_neg (by omega)]
  omega

theorem injective_shifted {a n k : Nat} (h : n + a ≤ k) :
    Function.Injective (shifted a n k) := by
  intro i j hij
  unfold shifted at hij
  split at hij <;> split at hij <;> omega

/-- The values captured by one alternative and by what follows, among the groups of all
alternatives. -/
theorem Route.capturesOf_shifted (s : Stop) (before own between after : List String) :
    capturesOf (numbered 0 (before ++ (own ++ (between ++ after))))
      (s.rename (renumber (shifted own.length before.length
        (before.length + own.length + between.length)))) =
      capturesOf (numbered 0 (own ++ after)) s := by
  let g := shifted own.length before.length (before.length + own.length + between.length)
  have hg : Function.Injective g := injective_shifted (by omega)
  -- no group is numbered like those of other alternatives
  have hbefore : ∀ j, 0 ≤ j → j < 0 + before.length → ∀ i, g i ≠ j := by
    intro j _ hj i hi
    simp only [g, shifted] at hi
    split at hi <;> omega
  have hbetween : ∀ j, before.length + own.length ≤ j →
      j < before.length + own.length + between.length → ∀ i, g i ≠ j := by
    intro j hlow hhigh i hi
    simp only [g, shifted] at hi
    split at hi <;> omega
  have hown : ∀ i < own.length, g (0 + i) = before.length + i := by
    intro i hi
    rw [Nat.zero_add]
    exact shifted_of_lt hi _ _
  have hafter : ∀ i < after.length,
      g (own.length + i) = before.length + own.length + between.length + i :=
    fun i _ => shifted_add _ _ _ i
  refine congrArg Captures.mk ?_
  show (capturesOf (numbered 0 _) (s.rename (renumber g))).pairs = (capturesOf _ s).pairs
  simp only [numbered_append, pairs_append, Nat.zero_add]
  rw [pairs_renumber_of_ne s 0 hbefore, pairs_renumber hg s 0 before.length hown,
    pairs_renumber_of_ne s _ hbetween, pairs_renumber hg s own.length _ hafter,
    List.nil_append, List.nil_append]

end RequestBinding
