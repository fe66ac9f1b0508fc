import Mathlib.Algebra.BigOperators.Group.List.Basic
import RequestBinding.Proofs.Outcome
import RequestBinding.Proofs.Unicode.RangeSet
import RequestBinding.Regex.Normal

/-!
# Values of normal forms

The functions that build expressions join texts, merge characters into sets and take shared parts out
of branches. A value of expressions that is computed from the values of the parts does not depend on
this, as far as products distribute over sums. Nor does a condition that is inherited by the parts.

## Main definitions

* `Compositional`, `Branching` - values of expressions that are computed from those of the parts
* `Hereditary` - conditions on expressions that are conditions on the parts
* `TakesOne` - expressions that take one character

## Main statements

* `Compositional.concat` - the value of a concatenation
* `Branching.anyOf` - the value of an alternation
* `Hereditary.concat_iff`, `Hereditary.anyOf` - conditions on concatenations and alternations
* `exists_takesOne_of_merged` - branches that are merged into a set
-/

namespace RequestBinding.Regex

open RequestBinding.Unicode

/-! ## Shared parts -/

theorem commonParts_prefix_left (rs ss : List Regex) : commonParts rs ss <+: rs := by
  fun_induction commonParts rs ss with
  | case1 r rs s ss _ ih => exact (List.prefix_cons_inj r).2 ih
  | case2 => exact List.nil_prefix
  | case3 => exact List.nil_prefix

theorem commonParts_prefix_right (rs ss : List Regex) : commonParts rs ss <+: ss := by
  fun_induction commonParts rs ss with
  | case1 r rs s ss h ih =>
    have hrs : r = s := by
      rw [Bool.and_eq_true, beq_iff_eq] at h
      exact h.1
    rw [← hrs]
    exact (List.prefix_cons_inj r).2 ih
  | case2 => exact List.nil_prefix
  | case3 => exact List.nil_prefix

theorem severalParts_begins (r : Regex) : r.severalParts <+: r.parts := by
  cases r with
  | seq r s => exact List.prefix_rfl
  | _ => exact List.nil_prefix

theorem foldl_commonParts_begins (bs : List Regex) (shared : List Regex) :
    bs.foldl (fun shared c => commonParts shared c.severalParts) shared <+: shared ∧
      ∀ b ∈ bs,
        bs.foldl (fun shared c => commonParts shared c.severalParts) shared <+: b.parts := by
  induction bs generalizing shared with
  | nil => exact ⟨List.prefix_rfl, fun b hb => (List.not_mem_nil hb).elim⟩
  | cons b bs ih =>
    obtain ⟨hfirst, hrest⟩ := ih (commonParts shared b.severalParts)
    refine ⟨hfirst.trans (commonParts_prefix_left _ _), ?_⟩
    intro c hc
    rcases List.mem_cons.1 hc with rfl | hc
    · exact (hfirst.trans (commonParts_prefix_right _ _)).trans (severalParts_begins c)
    · exact hrest c hc

/-- All branches begin with the shared parts. -/
theorem sharedParts_begins {bs : List Regex} {b : Regex} (hb : b ∈ bs) :
    sharedParts bs <+: b.parts := by
  cases bs with
  | nil => cases hb
  | cons a bs =>
    obtain ⟨hfirst, hrest⟩ := foldl_commonParts_begins bs a.severalParts
    rcases List.mem_cons.1 hb with rfl | hb
    · exact hfirst.trans (severalParts_begins b)
    · exact hrest b hb

/-! ## Values of expressions -/

/-- A value of expressions under which a concatenation is the product of its parts. -/
structure Compositional {M : Type} [Monoid M] (v : Regex → M) : Prop where
  empty : v .empty = 1
  append : ∀ s t, v (.literal (s ++ t)) = v (.literal s) * v (.literal t)
  seq : ∀ r s, v (.seq r s) = v r * v s

/-- A value of expressions under which an alternation is the sum of its branches, too. -/
structure Branching {M : Type} [Monoid M] [AddMonoid M] (v : Regex → M) : Prop
    extends Compositional v where
  fail : v .fail = 0
  alt : ∀ r s, v (.alt r s) = v r + v s

namespace Compositional

variable {M : Type} [Monoid M] {v : Regex → M}

theorem prod_parts (h : Compositional v) (r : Regex) : (r.parts.map v).prod = v r := by
  induction r with
  | empty => exact h.empty.symm
  | seq r s ihr _ => rw [parts, List.map_append, List.prod_append, ihr, h.seq]; simp
  | _ => simp [parts]

theorem prod_foldl_seq (h : Compositional v) (rs : List Regex) (r : Regex) :
    v (rs.foldl .seq r) = v r * (rs.map v).prod := by
  induction rs generalizing r with
  | nil => simp
  | cons s rs ih => rw [List.foldl_cons, ih, h.seq, List.map_cons, List.prod_cons, mul_assoc]

theorem ofParts (h : Compositional v) (rs : List Regex) :
    v (Regex.ofParts rs) = (rs.map v).prod := by
  cases rs with
  | nil => exact h.empty
  | cons r rs => rw [Regex.ofParts, h.prod_foldl_seq, List.map_cons, List.prod_cons]

theorem prod_joinTexts (h : Compositional v) (rs : List Regex) :
    ((joinTexts rs).map v).prod = (rs.map v).prod := by
  fun_induction joinTexts rs with
  | case1 => rfl
  | case2 s rest t more heq ih =>
    rw [heq, List.map_cons, List.prod_cons] at ih
    simp only [List.map_cons, List.prod_cons]
    rw [h.append, mul_assoc, ih]
  | case3 s rest _ ih => simp only [List.map_cons, List.prod_cons, ih]
  | case4 r rest _ ih => simp only [List.map_cons, List.prod_cons, ih]

/-- A concatenation is the product of its parts. -/
theorem concat (h : Compositional v) (rs : List Regex) :
    v (Regex.concat rs) = (rs.map v).prod := by
  rw [Regex.concat, h.ofParts, h.prod_joinTexts]
  induction rs with
  | nil => rfl
  | cons r rs ih =>
    rw [List.flatMap_cons, List.map_append, List.prod_append, h.prod_parts, ih, List.map_cons,
      List.prod_cons]

/-- A branch is what is shared and then what is left of it. -/
theorem eq_shared (h : Compositional v) {shared : List Regex} {b : Regex}
    (hb : shared <+: b.parts) :
    v b = (shared.map v).prod * v (Regex.concat (b.parts.drop shared.length)) := by
  have hsplit : shared ++ b.parts.drop shared.length = b.parts := List.prefix_iff_eq_append.1 hb
  rw [h.concat, ← List.prod_append, ← List.map_append, hsplit, h.prod_parts]

end Compositional

/-- The branches that are left when shared parts are taken out. -/
def ends (bs : List Regex) : List Regex :=
  (bs.map fun b => concat (b.parts.drop (sharedParts bs).length)).flatMap branches

/-- Branches that may be merged into sets, and of which shared parts may be taken out, without
changing the sum of the values. -/
structure Distributes {M : Type} [Monoid M] [AddMonoid M] (v : Regex → M)
    (good : List Regex → Prop) : Prop where
  ends : ∀ bs, good bs → good (ends bs)
  merged : ∀ bs s, good bs → merged? bs = some s → v (ofSet s) = (bs.map v).sum
  shared : ∀ a b bs, good (a :: b :: bs) → ∀ ms : List M,
    ((sharedParts (a :: b :: bs)).map v).prod * ms.sum =
      (ms.map (((sharedParts (a :: b :: bs)).map v).prod * ·)).sum

namespace Branching

variable {M : Type} [Monoid M] [AddMonoid M] {v : Regex → M}

theorem sum_branches (h : Branching v) (r : Regex) : (r.branches.map v).sum = v r := by
  induction r with
  | alt r s _ ihs => rw [branches, List.map_cons, List.sum_cons, ihs, h.alt]
  | _ => simp [branches]

theorem sum_flatMap_branches (h : Branching v) (rs : List Regex) :
    ((rs.flatMap branches).map v).sum = (rs.map v).sum := by
  induction rs with
  | nil => rfl
  | cons r rs ih =>
    rw [List.flatMap_cons, List.map_append, List.sum_append, h.sum_branches, ih, List.map_cons,
      List.sum_cons]

theorem ofBranches (h : Branching v) (bs : List Regex) :
    v (Regex.ofBranches bs) = (bs.map v).sum := by
  fun_induction Regex.ofBranches bs with
  | case1 => exact h.fail
  | case2 r => simp
  | case3 r rest _ ih => rw [h.alt, ih, List.map_cons, List.sum_cons]

theorem factor (h : Branching v) {good : List Regex → Prop} (hgood : Distributes v good)
    (fuel : Nat) {bs : List Regex} (hbs : good bs) :
    v (Regex.factor fuel bs) = (bs.map v).sum := by
  induction fuel generalizing bs with
  | zero => exact h.ofBranches bs
  | succ fuel ih =>
    rcases bs with _ | ⟨a, _ | ⟨b, bs⟩⟩
    · exact h.ofBranches []
    · exact h.ofBranches [a]
    · rw [Regex.factor]
      · split
        · next s hs => exact hgood.merged _ s hbs hs
        · split
          · exact h.ofBranches _
          · have hsum := ih (hgood.ends _ hbs)
            rw [ends, h.sum_flatMap_branches, List.map_map] at hsum
            have hbranch : ∀ r ∈ a :: b :: bs, v r = ((sharedParts (a :: b :: bs)).map v).prod *
                v (Regex.concat (r.parts.drop (sharedParts (a :: b :: bs)).length)) :=
              fun r hr => h.eq_shared (sharedParts_begins hr)
            rw [h.concat, List.map_append, List.prod_append, List.map_singleton,
              List.prod_singleton]
            refine (congrArg _ hsum).trans ?_
            rw [hgood.shared a b bs hbs, List.map_map, List.map_congr_left hbranch]
            rfl
      all_goals simp

/-- An alternation is the sum of its branches. -/
theorem anyOf (h : Branching v) {good : List Regex → Prop} (hgood : Distributes v good)
    {rs : List Regex} (hrs : good (rs.flatMap branches)) :
    v (Regex.anyOf rs) = (rs.map v).sum := by
  rw [← h.sum_flatMap_branches]
  exact h.factor hgood _ hrs

end Branching

/-! ## Conditions on expressions -/

/-- A condition that a concatenation meets if its parts do, and that the branches of an alternation
inherit. -/
structure Hereditary (p : Regex → Prop) : Prop where
  empty : p .empty
  literal : ∀ text, p (.literal text)
  seq : ∀ {r s}, p (.seq r s) ↔ p r ∧ p s
  branches : ∀ {r}, p r → ∀ b ∈ r.branches, p b

namespace Hereditary

variable {p : Regex → Prop}

theorem parts_iff (h : Hereditary p) {r : Regex} : (∀ q ∈ r.parts, p q) ↔ p r := by
  induction r with
  | empty => exact ⟨fun _ => h.empty, fun _ q hq => (List.not_mem_nil hq).elim⟩
  | seq r s ihr _ => simp [Regex.parts, or_imp, forall_and, ihr, h.seq]
  | _ => simp [Regex.parts]

theorem joinTexts_iff (h : Hereditary p) {rs : List Regex} :
    (∀ r ∈ Regex.joinTexts rs, p r) ↔ ∀ r ∈ rs, p r := by
  fun_induction Regex.joinTexts rs with
  | case1 => exact Iff.rfl
  | case2 s rest t more heq ih =>
    rw [heq] at ih
    simpa only [List.forall_mem_cons, h.literal, true_and] using ih
  | case3 s rest _ ih => simpa only [List.forall_mem_cons, h.literal, true_and] using ih
  | case4 q rest _ ih => rw [List.forall_mem_cons, List.forall_mem_cons, ih]

theorem foldl_seq_iff (h : Hereditary p) {rs : List Regex} {r : Regex} :
    p (rs.foldl .seq r) ↔ p r ∧ ∀ s ∈ rs, p s := by
  induction rs generalizing r with
  | nil => simp
  | cons s rs ih => rw [List.foldl_cons, ih, h.seq, List.forall_mem_cons, and_assoc]

/-- A concatenation meets a condition if its parts do. -/
theorem concat_iff (h : Hereditary p) {rs : List Regex} :
    p (Regex.concat rs) ↔ ∀ r ∈ rs, p r := by
  have hparts : (∀ q ∈ Regex.joinTexts (rs.flatMap Regex.parts), p q) ↔ ∀ r ∈ rs, p r := by
    rw [h.joinTexts_iff, List.forall_mem_flatMap]
    exact forall₂_congr fun r _ => h.parts_iff
  rw [Regex.concat, ← hparts]
  cases Regex.joinTexts (rs.flatMap Regex.parts) with
  | nil => exact ⟨fun _ q hq => (List.not_mem_nil hq).elim, fun _ => h.empty⟩
  | cons q qs => rw [List.forall_mem_cons, ofParts, h.foldl_seq_iff]

theorem flatMap_branches (h : Hereditary p) {rs : List Regex} (hrs : ∀ r ∈ rs, p r) :
    ∀ b ∈ rs.flatMap Regex.branches, p b := by
  intro b hb
  obtain ⟨r, hr, hb⟩ := List.mem_flatMap.1 hb
  exact h.branches (hrs r hr) b hb

/-- What is left of a branch. -/
theorem rest (h : Hereditary p) {b : Regex} (hb : p b) (n : Nat) :
    p (Regex.concat (b.parts.drop n)) :=
  h.concat_iff.2 fun q hq => h.parts_iff.2 hb q (List.mem_of_mem_drop hq)

theorem ends (h : Hereditary p) {bs : List Regex} (hbs : ∀ b ∈ bs, p b) :
    ∀ b ∈ Regex.ends bs, p b := by
  refine h.flatMap_branches fun e he => ?_
  obtain ⟨b, hb, rfl⟩ := List.mem_map.1 he
  exact h.rest (hbs b hb) _


/-- What an alternation inherits from its branches. -/
theorem ofBranches (hfail : p .fail)
    (halt : ∀ r s, p r → p s → p (.alt r s)) {bs : List Regex} (h : ∀ b ∈ bs, p b) :
    p (Regex.ofBranches bs) := by
  fun_induction Regex.ofBranches bs with
  | case1 => exact hfail
  | case2 r => exact h r List.mem_cons_self
  | case3 r rest _ ih =>
    obtain ⟨hr, hrest⟩ := List.forall_mem_cons.1 h
    exact halt _ _ hr (ih hrest)

theorem factor (hp : Hereditary p) (hfail : p .fail)
    (halt : ∀ r s, p r → p s → p (.alt r s))
    (hset : ∀ bs s, (∀ b ∈ bs, p b) → merged? bs = some s → p (ofSet s)) (fuel : Nat)
    {bs : List Regex} (h : ∀ b ∈ bs, p b) : p (Regex.factor fuel bs) := by
  induction fuel generalizing bs with
  | zero => exact Hereditary.ofBranches hfail halt h
  | succ fuel ih =>
    unfold Regex.factor
    split
    · exact Hereditary.ofBranches hfail halt h
    · exact Hereditary.ofBranches hfail halt h
    · split
      · next s hs => exact hset _ s h hs
      · split
        · exact Hereditary.ofBranches hfail halt h
        · next hne _ _ _ _ _ =>
          obtain ⟨b, hb⟩ := List.exists_mem_of_ne_nil bs hne
          refine hp.concat_iff.2 fun q hq => ?_
          rcases List.mem_append.1 hq with hq | hq
          · exact hp.parts_iff.2 (h b hb) q ((sharedParts_begins hb).mem hq)
          · rw [List.mem_singleton.1 hq]
            exact ih (hp.ends h)

/-- An alternation meets a condition if its branches do. -/
theorem anyOf (hp : Hereditary p) (hfail : p .fail)
    (halt : ∀ r s, p r → p s → p (.alt r s))
    (hset : ∀ bs s, (∀ b ∈ bs, p b) → merged? bs = some s → p (ofSet s))
    {rs : List Regex} (h : ∀ r ∈ rs, p r) : p (Regex.anyOf rs) :=
  hp.factor hfail halt hset _ (hp.flatMap_branches h)

end Hereditary

/-- Outside of groups, the bounds of all sets are characters. -/
def Bounded : Regex → Prop
  | .set s => s.CharBounds
  | .seq r s | .alt r s => r.Bounded ∧ s.Bounded
  | _ => True

/-- What both sides of alternations inherit is inherited by their branches. -/
theorem forall_mem_branches {p : Regex → Prop} (halt : ∀ r s, p (.alt r s) → p r ∧ p s)
    {r : Regex} (h : p r) : ∀ b ∈ r.branches, p b := by
  induction r with
  | alt r s _ ihs =>
    obtain ⟨hr, hs⟩ := halt r s h
    exact List.forall_mem_cons.2 ⟨hr, ihs hs⟩
  | _ =>
    intro b hb
    rwa [List.mem_singleton.1 hb]

theorem hereditary_bounded : Hereditary Bounded where
  empty := trivial
  literal _ := trivial
  seq := Iff.rfl
  branches := forall_mem_branches fun _ _ => id

/-! ## Single characters -/

theorem only?_eq_some {r : Regex} {c : Char} (h : r.only? = some c) : r = .literal [c] := by
  unfold only? at h
  split at h
  · cases h
    rfl
  · cases h

theorem set?_eq_some {r : Regex} {s : RangeSet} (h : r.set? = some s) : r = .set s := by
  unfold set? at h
  split at h
  · cases h
    rfl
  · cases h

/-- A list that a partial function maps as a whole. -/
theorem eq_map_of_mapM {α β : Type} {f : α → Option β} {g : β → α}
    (hfg : ∀ a b, f a = some b → a = g b) {as : List α} {bs : List β} (h : as.mapM f = some bs) :
    as = bs.map g := by
  have hall : List.Forall₂ (fun a b => a = g b) as bs :=
    (forall₂_of_mapM_eq_some h).imp fun a b hb => hfg a b hb
  rwa [← List.forall₂_map_right_iff, List.forall₂_eq_eq_eq] at hall

/-- An expression takes one character that meets a condition. -/
def TakesOne (r : Regex) (q : Char → Bool) : Prop :=
  (∃ y, r = .literal [y] ∧ q = (· == y)) ∨ ∃ s, r = .set s ∧ q = fun x => s.mem x.toNat

theorem takesOne_ofSet {s : RangeSet} (h : s.CharBounds) :
    TakesOne (ofSet s) fun x => s.mem x.toNat := by
  unfold ofSet
  split
  · next y hy =>
    refine .inl ⟨y, rfl, funext fun x => ?_⟩
    rw [Bool.eq_iff_iff, RangeSet.mem_of_only?_eq_some h hy, beq_iff_eq]
  · exact .inr ⟨s, rfl, rfl⟩

/-- Branches that amount to a set take one character each. -/
theorem exists_takesOne_of_merged {bs : List Regex} {s : RangeSet} (h : merged? bs = some s)
    (hbs : ∀ b ∈ bs, b.Bounded) : s.CharBounds ∧ ∃ qs : List (Char → Bool),
      List.Forall₂ TakesOne bs qs ∧ ∀ x : Char, s.mem x.toNat = qs.any (· x) := by
  unfold merged? at h
  split at h
  · next cs hcs =>
    cases h
    have heq := eq_map_of_mapM (fun _ _ => only?_eq_some) hcs
    refine ⟨RangeSet.charBounds_ofPoints cs, cs.map fun y x => x == y, ?_, fun x => ?_⟩
    · rw [heq, List.forall₂_map_left_iff, List.forall₂_map_right_iff, List.forall₂_same]
      exact fun y _ => .inl ⟨y, rfl, rfl⟩
    · rw [Bool.eq_iff_iff, RangeSet.mem_ofPoints]
      simp only [List.mem_map, List.any_map, List.any_eq_true, Function.comp_apply, beq_iff_eq,
        Char.toNat_inj]
      exact ⟨fun ⟨y, hy, hyx⟩ => ⟨y, hy, hyx.symm⟩, fun ⟨y, hy, hyx⟩ => ⟨y, hy, hyx.symm⟩⟩
  · obtain ⟨ss, hss, rfl⟩ := Option.map_eq_some_iff.1 h
    have heq := eq_map_of_mapM (fun _ _ => set?_eq_some) hss
    refine ⟨RangeSet.charBounds_unions fun t ht => ?_, ss.map fun t x => t.mem x.toNat, ?_,
      fun x => ?_⟩
    · exact hbs (.set t) (heq ▸ List.mem_map_of_mem ht)
    · rw [heq, List.forall₂_map_left_iff, List.forall₂_map_right_iff, List.forall₂_same]
      exact fun t _ => .inr ⟨t, rfl, rfl⟩
    · rw [Bool.eq_iff_iff, RangeSet.mem_unions]
      simp

theorem exists_takesOne_of_mem {bs : List Regex} {qs : List (Char → Bool)}
    (h : List.Forall₂ TakesOne bs qs) {b : Regex} (hb : b ∈ bs) : ∃ q ∈ qs, TakesOne b q := by
  induction h with
  | nil => cases hb
  | @cons a q bs qs ha _ ih =>
    rcases List.mem_cons.1 hb with rfl | hb
    · exact ⟨q, List.mem_cons_self, ha⟩
    · obtain ⟨p, hp, htakes⟩ := ih hb
      exact ⟨p, List.mem_cons_of_mem q hp, htakes⟩

theorem bounded_ofSet {s : RangeSet} (h : s.CharBounds) : (ofSet s).Bounded := by
  unfold ofSet
  split
  · trivial
  · exact h

theorem bounded_anyOf {rs : List Regex} (h : ∀ r ∈ rs, r.Bounded) : (anyOf rs).Bounded :=
  hereditary_bounded.anyOf RangeSet.charBounds_empty (fun _ _ => And.intro)
    (fun _ _ hbs hs => bounded_ofSet (exists_takesOne_of_merged hs hbs).1) h

end RequestBinding.Regex
