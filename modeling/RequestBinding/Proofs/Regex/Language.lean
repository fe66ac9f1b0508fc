import Mathlib.Algebra.BigOperators.Ring.List
import Mathlib.Computability.Language
import RequestBinding.Proofs.Regex.Preference
import RequestBinding.Proofs.Regex.Values

/-!
# Texts of expressions

The texts that an expression may take. If none of them begins with another one, then a match leaves
no choice where to stop.

## Main definitions

* `Regex.language` - the texts of an expression
* `PrefixFree` - no text begins with another one

## Main statements

* `exists_text` - a stop is behind a text of the expression
* `steady_of_prefixFree` - prefix-free texts leave no choice
* `language_concat`, `language_anyOf` - the texts of normal forms
-/

namespace RequestBinding.Regex

open RequestBinding.Unicode

/-! ## Texts -/

/-- The texts that an expression may take. Nothing is said of repetitions. -/
def language : Regex → Language Char
  | .empty => 1
  | .literal text => {text}
  | .set s => {t | ∃ x : Char, s.mem x.toNat = true ∧ t = [x]}
  | .look _ => 1
  | .seq r s => r.language * s.language
  | .alt r s => r.language + s.language
  | .rep .. => ⊤
  | .group _ r => r.language

/-- A stop is behind a text of the expression. -/
theorem exists_text {r : Regex} {c : Cursor} {s : Stop} (h : s ∈ r.stops c) :
    ∃ t ∈ r.language, c.Takes t s.cursor := by
  induction r generalizing c s with
  | empty =>
    rw [List.mem_singleton.1 h]
    exact ⟨[], rfl, Cursor.Takes.refl c⟩
  | literal text =>
    simp only [stops] at h
    split at h
    · next d hd =>
      rw [List.mem_singleton.1 h]
      exact ⟨text, rfl, Cursor.skip?_eq_some.1 hd⟩
    · cases h
  | set set =>
    simp only [stops] at h
    split at h
    · next x d hd =>
      split at h
      · next hx =>
        rw [List.mem_singleton.1 h]
        exact ⟨[x], ⟨x, hx, rfl⟩, Cursor.next?_eq_some.1 hd⟩
      · cases h
    · cases h
  | look l =>
    simp only [stops] at h
    split at h
    · rw [List.mem_singleton.1 h]
      exact ⟨[], rfl, Cursor.Takes.refl c⟩
    · cases h
  | seq r q ihr ihq =>
    obtain ⟨a, ha, hs⟩ := List.mem_flatMap.1 (mem_of_mem_firsts h)
    obtain ⟨b, hb, rfl⟩ := List.mem_map.1 hs
    obtain ⟨t, ht, hta⟩ := ihr ha
    obtain ⟨u, hu, hub⟩ := ihq hb
    exact ⟨t ++ u, Language.append_mem_mul ht hu, hta.trans hub⟩
  | alt r q ihr ihq =>
    rcases List.mem_append.1 (mem_of_mem_firsts h) with h | h
    · obtain ⟨t, ht, hts⟩ := ihr h
      exact ⟨t, .inl ht, hts⟩
    · obtain ⟨t, ht, hts⟩ := ihq h
      exact ⟨t, .inr ht, hts⟩
  | rep greedy low high r _ =>
    obtain ⟨t, ht⟩ := (orderly_stops _ c).ahead s h
    exact ⟨t, Set.mem_univ t, ht⟩
  | group name r ih =>
    obtain ⟨a, ha, rfl⟩ := List.mem_map.1 h
    obtain ⟨t, ht, hta⟩ := ih ha
    exact ⟨t, ht, hta⟩

theorem literal_append_language (s t : List Char) :
    ({s ++ t} : Language Char) = {s} * {t} := by
  ext u
  rw [Language.mem_mul]
  constructor
  · intro h
    exact ⟨s, rfl, t, rfl, h.symm⟩
  · rintro ⟨_, rfl, _, rfl, rfl⟩
    rfl

theorem branching_language : Branching language where
  empty := rfl
  append := literal_append_language
  seq _ _ := rfl
  fail := by
    ext t
    constructor
    · rintro ⟨x, hx, _⟩
      cases hx
    · exact fun h => h.elim
  alt _ _ := rfl

/-! ## Prefix-free texts -/

/-- No text begins with another one. -/
def PrefixFree (l : Language Char) : Prop := ∀ t ∈ l, ∀ u ∈ l, t <+: u → t = u

namespace PrefixFree

variable {l m : Language Char}

theorem singleton (t : List Char) : PrefixFree {t} := by
  rintro _ rfl _ rfl _
  rfl

theorem mono (h : PrefixFree m) (hle : ∀ t ∈ l, t ∈ m) : PrefixFree l :=
  fun t ht u hu => h t (hle t ht) u (hle u hu)

theorem mul (hl : PrefixFree l) (hm : PrefixFree m) : PrefixFree (l * m) := by
  intro t ht u hu h
  obtain ⟨a, ha, b, hb, rfl⟩ := Language.mem_mul.1 ht
  obtain ⟨c, hc, d, hd, rfl⟩ := Language.mem_mul.1 hu
  -- of two texts that begin a third one, one begins the other
  have ha' : a <+: c ++ d := (List.prefix_append a b).trans h
  have hac : a = c := by
    rcases List.prefix_or_prefix_of_prefix ha' (List.prefix_append c d) with hac | hca
    · exact hl a ha c hc hac
    · exact (hl c hc a ha hca).symm
  subst hac
  rw [hm b hb d hd ((List.prefix_append_right_inj a).1 h)]

/-- What stands behind some text of a prefix-free product is prefix-free. -/
theorem of_mul (h : PrefixFree (l * m)) {a : List Char} (ha : a ∈ l) : PrefixFree m := by
  intro t ht u hu htu
  have heq := h (a ++ t) (Language.append_mem_mul ha ht) (a ++ u) (Language.append_mem_mul ha hu)
    ((List.prefix_append_right_inj a).2 htu)
  exact List.append_cancel_left heq

end PrefixFree

/-- Prefix-free texts leave no choice. -/
theorem steady_of_prefixFree {r : Regex} (h : PrefixFree r.language) : r.preference.Steady := by
  intro c
  have hsame : ∀ s ∈ r.stops c, ∀ t ∈ r.stops c, s.cursor = t.cursor := by
    intro s hs t ht
    obtain ⟨u, hu, hus⟩ := exists_text hs
    obtain ⟨v, hv, hvt⟩ := exists_text ht
    have hu' : u <+: c.after := ⟨_, hus.1.symm⟩
    have hprefix : u <+: v ∨ v <+: u := List.prefix_or_prefix_of_prefix hu' ⟨_, hvt.1.symm⟩
    have huv : u = v := hprefix.elim (h u hu v hv) fun hvu => (h v hv u hu hvu).symm
    exact hus.functional (huv ▸ hvt)
  show (r.stops c).length ≤ 1
  rw [← (orderly_stops r c).distinct]
  cases hstops : r.stops c with
  | nil => exact Nat.zero_le 1
  | cons s ss =>
    rw [hstops] at hsame
    have hnone : (firsts ss).filter (fresh [s]) = [] := by
      rw [List.filter_eq_nil_iff]
      intro t ht
      have hst := hsame s List.mem_cons_self t (List.mem_cons_of_mem s (mem_of_mem_firsts ht))
      simp [fresh, hst]
    rw [← List.singleton_append, firsts_append, firsts_singleton, hnone]
    exact Nat.le_refl 1

/-! ## Texts of normal forms -/

theorem TakesOne.mem_language {r : Regex} {q : Char → Bool} (h : TakesOne r q) (t : List Char) :
    t ∈ r.language ↔ ∃ x, q x = true ∧ t = [x] := by
  rcases h with ⟨y, rfl, rfl⟩ | ⟨s, rfl, rfl⟩
  · simp only [beq_iff_eq, exists_eq_left]
    exact Iff.rfl
  · exact Iff.rfl

theorem mem_sum_of_takesOne {bs : List Regex} {qs : List (Char → Bool)}
    (h : List.Forall₂ TakesOne bs qs) (t : List Char) :
    t ∈ (bs.map language).sum ↔ ∃ x, qs.any (· x) = true ∧ t = [x] := by
  induction h with
  | nil => simp
  | @cons b q bs qs hb _ ih =>
    rw [List.map_cons, List.sum_cons, Language.mem_add, hb.mem_language, ih]
    simp [or_and_right, exists_or]

theorem language_merged {bs : List Regex} {s : RangeSet} (h : merged? bs = some s)
    (hbs : ∀ b ∈ bs, b.Bounded) : (ofSet s).language = (bs.map language).sum := by
  obtain ⟨hs, qs, hqs, hmem⟩ := exists_takesOne_of_merged h hbs
  ext t
  rw [mem_sum_of_takesOne hqs, (takesOne_ofSet hs).mem_language]
  simp only [hmem]

theorem language_concat (rs : List Regex) : (concat rs).language = (rs.map language).prod :=
  branching_language.concat rs

theorem language_anyOf {rs : List Regex} (hbounded : ∀ r ∈ rs, r.Bounded) :
    (anyOf rs).language = (rs.map language).sum := by
  have hgood : Distributes language fun bs => ∀ b ∈ bs, b.Bounded := by
    refine ⟨fun bs h => hereditary_bounded.ends h, fun bs s h hs => language_merged hs h,
      fun a b bs _ ms => ?_⟩
    simpa using (List.sum_map_mul_left ms id _).symm
  exact branching_language.anyOf hgood (hereditary_bounded.flatMap_branches hbounded)

end RequestBinding.Regex
