import Mathlib.Data.List.Forall2
import RequestBinding.Signal

/-!
# Results of computations

What is known of the parts of a computation that gave a result. Signals do not matter for results.

## Main statements

* `exists_of_map_eq_ok`, `exists_of_bind_eq_ok` - the parts of a computation gave results too
* `exists_forall₂` - a list side by side, from what each member is related to
* `pairwise_of_forall₂` - what holds for pairs is carried over to a list side by side
* `exists_of_mapM_eq_ok` - each result of a list comes from a member
* `countP_eq_of_forall₂` - counting in lists side by side
* `mapM_eq_ok_iff`, `forall₂_of_mapM_eq_some` - the results of a list stand side by side with its
  members
* `Traced.value_bind`, `Traced.signals_bind` - the result and the signals of a computation
-/

namespace RequestBinding

variable {ε α β : Type}

theorem exists_of_isOk {e : Except ε α} (h : e.isOk = true) : ∃ a, e = .ok a := by
  cases e with
  | error _ => cases h
  | ok a => exact ⟨a, rfl⟩

theorem exists_of_any_toOption {e : Except ε α} {p : α → Bool} (h : e.toOption.any p = true) :
    ∃ a, e = .ok a ∧ p a = true := by
  cases e with
  | error _ => cases h
  | ok a => exact ⟨a, rfl, h⟩

theorem exists_of_map_eq_ok {e : Except ε α} {f : α → β} {b : β} (h : e.map f = .ok b) :
    ∃ a, e = .ok a ∧ f a = b := by
  cases e with
  | error _ => cases h
  | ok a =>
    cases h
    exact ⟨a, rfl, rfl⟩

theorem exists_of_bind_eq_ok {e : Except ε α} {f : α → Except ε β} {b : β}
    (h : (e >>= f) = .ok b) : ∃ a, e = .ok a ∧ f a = .ok b := by
  cases e with
  | error _ => cases h
  | ok a => exact ⟨a, rfl, h⟩

/-! ## Lists side by side -/

/-- Each member of a list that stands beside another one is related to a member of the other. -/
theorem exists_of_forall₂ {R : α → β → Prop} {as : List α} {bs : List β}
    (h : List.Forall₂ R as bs) {b : β} (hb : b ∈ bs) : ∃ a ∈ as, R a b := by
  induction h with
  | nil => cases hb
  | @cons a b' as bs hab _ ih =>
    rcases List.mem_cons.1 hb with rfl | hb
    · exact ⟨a, List.mem_cons_self, hab⟩
    · obtain ⟨a', ha', hab'⟩ := ih hb
      exact ⟨a', List.mem_cons_of_mem a ha', hab'⟩

/-- If each member of a list is related to something, a list of such stands beside it. -/
theorem exists_forall₂ {R : α → β → Prop} {as : List α} (h : ∀ a ∈ as, ∃ b, R a b) :
    ∃ bs, List.Forall₂ R as bs := by
  induction as with
  | nil => exact ⟨[], .nil⟩
  | cons a as ih =>
    obtain ⟨⟨b, hb⟩, has⟩ := List.forall_mem_cons.1 h
    obtain ⟨bs, hbs⟩ := ih has
    exact ⟨b :: bs, .cons hb hbs⟩

/-- What holds for any two members of a list is carried over to one that stands beside it. -/
theorem pairwise_of_forall₂ {R : α → β → Prop} {S : α → α → Prop} {T : β → β → Prop} {as : List α}
    {bs : List β} (h : List.Forall₂ R as bs) (hS : as.Pairwise S)
    (hT : ∀ a a' b b', S a a' → R a b → R a' b' → T b b') : bs.Pairwise T := by
  induction h with
  | nil => exact .nil
  | @cons a b as bs hab h ih =>
    obtain ⟨hfirst, hrest⟩ := List.pairwise_cons.1 hS
    refine .cons (fun b' hb' => ?_) (ih hrest)
    obtain ⟨a', ha', hab'⟩ := exists_of_forall₂ h hb'
    exact hT a a' b b' (hfirst a' ha') hab hab'

/-- Side by side, two lists have the same number of members of a kind. -/
theorem countP_eq_of_forall₂ {R : α → β → Prop} {as : List α} {bs : List β}
    (h : List.Forall₂ R as bs) {p : α → Bool} {q : β → Bool} (hpq : ∀ a b, R a b → p a = q b) :
    as.countP p = bs.countP q := by
  induction h with
  | nil => rfl
  | cons hab _ ih => rw [List.countP_cons, List.countP_cons, hpq _ _ hab, ih]

/-- A list gives the results that its members give one by one. -/
theorem mapM_eq_ok_iff {f : α → Except ε β} {as : List α} {bs : List β} :
    as.mapM f = .ok bs ↔ List.Forall₂ (fun a b => f a = .ok b) as bs := by
  induction as generalizing bs with
  | nil => simp [pure, Except.pure, eq_comm]
  | cons a as ih =>
    rw [List.mapM_cons, List.forall₂_cons_left_iff]
    constructor
    · intro h
      obtain ⟨b, hb, h⟩ := exists_of_bind_eq_ok h
      obtain ⟨bs', hbs', h⟩ := exists_of_bind_eq_ok h
      cases h
      exact ⟨b, bs', hb, ih.1 hbs', rfl⟩
    · rintro ⟨b, bs', hb, hbs', rfl⟩
      rw [hb, ih.2 hbs']
      rfl

/-- If all members of a list give results, each of the results comes from one of them. -/
theorem exists_of_mapM_eq_ok {f : α → Except ε β} {as : List α} {bs : List β}
    (h : as.mapM f = .ok bs) {b : β} (hb : b ∈ bs) : ∃ a ∈ as, f a = .ok b :=
  exists_of_forall₂ (mapM_eq_ok_iff.1 h) hb

/-- If all members of a list give values, these stand side by side with them. -/
theorem forall₂_of_mapM_eq_some {f : α → Option β} {as : List α} {bs : List β}
    (h : as.mapM f = some bs) : List.Forall₂ (fun a b => f a = some b) as bs := by
  induction as generalizing bs with
  | nil =>
    rw [List.mapM_nil] at h
    cases h
    exact .nil
  | cons a as ih =>
    rw [List.mapM_cons, Option.bind_eq_bind, Option.bind_eq_some_iff] at h
    obtain ⟨b, hb, h⟩ := h
    obtain ⟨bs', hbs', h⟩ := Option.bind_eq_some_iff.1 h
    cases h
    exact .cons hb (ih hbs')

namespace Traced

@[simp] theorem value_bind (t : Traced α) (f : α → Traced β) :
    (t.bind f).value = (f t.value).value := rfl

theorem signals_bind (t : Traced α) (f : α → Traced β) :
    (t.bind f).signals = t.signals ++ (f t.value).signals := rfl

end Traced

end RequestBinding
