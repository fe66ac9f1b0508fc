import RequestBinding.Proofs.Regex.Finding
import RequestBinding.Proofs.Regex.Order
import RequestBinding.Proofs.Template.Expression

/-!
# Choices in templates

The expression of a template finds a text by its first alternative that lets it do so, if one of the
alternatives is unambiguous: no text of an alternation without placeholders in it begins with another
text of the same alternation.

## Main definitions

* `Segment.texts` - the texts of segments without placeholders
* `Segment.Unambiguous` - alternations without placeholders have prefix-free texts

## Main statements

* `Segment.clear_regexes` - the expressions of unambiguous segments are clear
* `Segment.find_alternation` - the first alternative that leads to the end is taken
-/

namespace RequestBinding

open Regex

namespace Regex

/-! ## Choices between anchors -/

theorem preference_choiceOf {rs : List Regex} (hbounded : ∀ r ∈ rs, r.Bounded)
    (hclear : ∃ r ∈ rs, r.Clear) : (choiceOf rs).preference = (rs.map preference).sum := by
  rcases rs with _ | ⟨r, _ | ⟨s, rs⟩⟩
  · obtain ⟨r, hr, _⟩ := hclear
    cases hr
  · rw [choiceOf, List.map_singleton, List.sum_singleton]
  · exact preference_anyOf hbounded hclear

theorem bounded_choiceOf {rs : List Regex} (h : ∀ r ∈ rs, r.Bounded) : (choiceOf rs).Bounded := by
  rcases rs with _ | ⟨r, _ | ⟨s, rs⟩⟩
  · trivial
  · exact h r List.mem_cons_self
  · exact bounded_anyOf h

theorem hasGroup_choiceOf {rs : List Regex} (hbounded : ∀ r ∈ rs, r.Bounded)
    (h : (choiceOf rs).hasGroup = false) : ∀ r ∈ rs, r.hasGroup = false := by
  rcases rs with _ | ⟨r, _ | ⟨s, rs⟩⟩
  · exact fun _ hr => (List.not_mem_nil hr).elim
  · intro q hq
    rwa [List.mem_singleton.1 hq]
  · exact hasGroup_anyOf hbounded h

theorem language_choiceOf {rs : List Regex} (hne : rs ≠ []) (hbounded : ∀ r ∈ rs, r.Bounded) :
    (choiceOf rs).language = (rs.map language).sum := by
  rcases rs with _ | ⟨r, _ | ⟨s, rs⟩⟩
  · exact (hne rfl).elim
  · rw [choiceOf, List.map_singleton, List.sum_singleton]
  · exact language_anyOf hbounded

theorem clear_choiceOf {rs : List Regex} (hne : rs ≠ []) (hbounded : ∀ r ∈ rs, r.Bounded)
    (hclear : ∀ r ∈ rs, r.Clear) (hfree : FreeIfPlain rs) : (choiceOf rs).Clear := by
  rcases rs with _ | ⟨r, _ | ⟨s, rs⟩⟩
  · exact (hne rfl).elim
  · exact hclear r List.mem_cons_self
  · exact clear_anyOf hne hbounded hclear hfree

theorem preference_anchored (rs : List Regex) : (anchored rs).preference =
    (look .textStart).preference * (rs.map preference).prod * (look .textEnd).preference := by
  rw [anchored, preference_concat, List.map_cons, List.prod_cons, List.map_append,
    List.prod_append, List.map_singleton, List.prod_singleton, mul_assoc]

/-- Matches of an anchored expression start at the start of the text. -/
theorem tied_anchored (rs : List Regex) : (anchored rs).Tied := by
  intro c hc
  have hstart : (look .textStart).stops c = [] := if_neg (mt List.isEmpty_iff.1 hc)
  show (anchored rs).preference.stops c = []
  rw [preference_anchored, mul_assoc, Preference.stops_mul]
  show follow ((look .textStart).stops c) _ = []
  rw [hstart]
  rfl

theorem preference_anchored_concat (before rs after : List Regex) :
    (anchored (before ++ concat rs :: after)).preference =
      (anchored (before ++ (rs ++ after))).preference := by
  rw [preference_anchored, preference_anchored]
  simp only [List.map_append, List.map_cons, List.prod_append, List.prod_cons, preference_concat]

/-- A choice with nothing but certain parts before it is a choice of whole expressions. -/
theorem preference_anchored_choiceOf {before after bs : List Regex}
    (hbefore : ((before.map preference).prod).Steady) (hbounded : ∀ b ∈ bs, b.Bounded)
    (hclear : ∃ b ∈ bs, b.Clear) : (anchored (before ++ choiceOf bs :: after)).preference =
      (bs.map fun b => (anchored (before ++ b :: after)).preference).sum := by
  have hstart : (look .textStart).preference.Steady := steady_of_prefixFree (.singleton [])
  have hsteady := hstart.mul hbefore
  have hbranch : ∀ b : Regex, (anchored (before ++ b :: after)).preference =
      (look .textStart).preference * (before.map preference).prod * b.preference *
        ((after.map preference).prod * (look .textEnd).preference) := by
    intro b
    rw [preference_anchored, List.map_append, List.map_cons, List.prod_append, List.prod_cons]
    simp only [mul_assoc]
  simp only [hbranch]
  rw [preference_choiceOf hbounded hclear, hsteady.mul_sum, Preference.sum_mul, List.map_map,
    List.map_map]
  rfl

/-- The first choice that leads to the end is taken. -/
theorem find_anchored_choiceOf {before after bs : List Regex}
    (hbefore : ((before.map preference).prod).Steady) (hbounded : ∀ b ∈ bs, b.Bounded)
    (hclear : ∃ b ∈ bs, b.Clear) (cs : List Char) :
    (anchored (before ++ choiceOf bs :: after)).find cs =
      bs.findSome? fun b => (anchored (before ++ b :: after)).find cs := by
  have hsum := @preference_anchored_choiceOf before after bs hbefore hbounded hclear
  have hhead := Preference.head?_sum
    (bs.map fun b => (anchored (before ++ b :: after)).preference) (Cursor.start cs)
  rw [← hsum, List.findSome?_map] at hhead
  simp only [(tied_anchored _).find_eq]
  exact hhead

end Regex

namespace Segment

/-! ## Texts -/

mutual

/-- The texts of one segment without placeholders. -/
def textsOne : Segment → List (List Char)
  | .literal text => [text]
  | .placeholder _ _ => []
  | .alternation alternatives => textsAlternatives alternatives

/-- The texts of a sequence of segments without placeholders. -/
def texts : List Segment → List (List Char)
  | [] => [[]]
  | s :: rest => (textsOne s).flatMap fun t => (texts rest).map (t ++ ·)

/-- The texts of alternatives without placeholders. -/
def textsAlternatives : List (List Segment) → List (List Char)
  | [] => []
  | a :: rest => texts a ++ textsAlternatives rest

end

mutual

/-- No text of an alternation without placeholders begins with another one, at any depth. -/
def UnambiguousOne : Segment → Prop
  | .literal _ | .placeholder _ _ => True
  | .alternation alternatives =>
    (keysAlternatives alternatives = [] → ∀ t ∈ textsAlternatives alternatives,
      ∀ u ∈ textsAlternatives alternatives, t <+: u → t = u) ∧
    UnambiguousAlternatives alternatives

/-- All alternations of a sequence of segments are unambiguous. -/
def Unambiguous : List Segment → Prop
  | [] => True
  | s :: rest => UnambiguousOne s ∧ Unambiguous rest

/-- All alternations within alternatives are unambiguous. -/
def UnambiguousAlternatives : List (List Segment) → Prop
  | [] => True
  | a :: rest => Unambiguous a ∧ UnambiguousAlternatives rest

end

/-! ## Expressions of segments -/

variable (inner : String → String → Regex)

mutual

theorem bounded_regexesOne (n : Nat) (s : Segment) : ∀ r ∈ regexesOne inner n s, r.Bounded := by
  match s with
  | .literal text =>
    rw [regexesOne, List.forall_mem_map]
    exact fun _ _ => trivial
  | .placeholder resource field =>
    rw [regexesOne, List.forall_mem_singleton]
    trivial
  | .alternation as =>
    rw [regexesOne, List.forall_mem_singleton]
    exact bounded_choiceOf (bounded_regexesAlternatives n as)

theorem bounded_regexes (n : Nat) (ss : List Segment) : ∀ r ∈ regexes inner n ss, r.Bounded := by
  match ss with
  | [] =>
    rw [regexes]
    exact fun _ h => (List.not_mem_nil h).elim
  | s :: rest =>
    rw [regexes, List.forall_mem_append]
    exact ⟨bounded_regexesOne n s, bounded_regexes _ rest⟩

theorem bounded_regexesAlternatives (n : Nat) (as : List (List Segment)) :
    ∀ r ∈ regexesAlternatives inner n as, r.Bounded := by
  match as with
  | [] =>
    rw [regexesAlternatives]
    exact fun _ h => (List.not_mem_nil h).elim
  | a :: rest =>
    rw [regexesAlternatives, List.forall_mem_cons]
    exact ⟨hereditary_bounded.concat_iff.2 (bounded_regexes n a),
      bounded_regexesAlternatives _ rest⟩

end

mutual

theorem keysOne_of_hasGroup (n : Nat) (s : Segment)
    (h : ∀ r ∈ regexesOne inner n s, r.hasGroup = false) : keysOne s = [] := by
  match s with
  | .literal text => rw [keysOne]
  | .placeholder resource field =>
    rw [regexesOne, List.forall_mem_singleton] at h
    cases h
  | .alternation as =>
    rw [regexesOne, List.forall_mem_singleton] at h
    rw [keysOne]
    exact keysAlternatives_of_hasGroup n as
      (hasGroup_choiceOf (bounded_regexesAlternatives inner n as) h)

/-- Placeholders are groups. -/
theorem keys_of_hasGroup (n : Nat) (ss : List Segment)
    (h : ∀ r ∈ regexes inner n ss, r.hasGroup = false) : keys ss = [] := by
  match ss with
  | [] => rw [keys]
  | s :: rest =>
    rw [regexes, List.forall_mem_append] at h
    rw [keys, keysOne_of_hasGroup n s h.1, keys_of_hasGroup _ rest h.2, List.nil_append]

theorem keysAlternatives_of_hasGroup (n : Nat) (as : List (List Segment))
    (h : ∀ r ∈ regexesAlternatives inner n as, r.hasGroup = false) :
    keysAlternatives as = [] := by
  match as with
  | [] => rw [keysAlternatives]
  | a :: rest =>
    rw [regexesAlternatives, List.forall_mem_cons, hereditary_hasGroup.concat_iff] at h
    rw [keysAlternatives, keys_of_hasGroup n a h.1, keysAlternatives_of_hasGroup _ rest h.2,
      List.nil_append]

end

theorem regexesAlternatives_ne_nil (n : Nat) {as : List (List Segment)} (h : as ≠ []) :
    regexesAlternatives inner n as ≠ [] := by
  cases as with
  | nil => exact (h rfl).elim
  | cons a as =>
    rw [regexesAlternatives]
    exact List.cons_ne_nil _ _

theorem language_text (text : List Char) :
    ((text.map fun c => Regex.literal [c]).map language).prod = {text} := by
  induction text with
  | nil => rfl
  | cons c text ih =>
    rw [List.map_cons, List.map_cons, List.prod_cons, ih]
    exact (literal_append_language [c] text).symm

mutual

theorem mem_language_regexesOne (n : Nat) (s : Segment) (hs : NormalOne s) (hk : keysOne s = [])
    (t : List Char) : t ∈ ((regexesOne inner n s).map language).prod ↔ t ∈ textsOne s := by
  match s with
  | .literal text =>
    rw [regexesOne, language_text, textsOne, List.mem_singleton]
    exact Iff.rfl
  | .placeholder resource field =>
    rw [keysOne] at hk
    cases hk
  | .alternation as =>
    rw [keysOne] at hk
    rw [regexesOne, textsOne, List.map_singleton, List.prod_singleton,
      language_choiceOf (regexesAlternatives_ne_nil inner n hs.1)
        (bounded_regexesAlternatives inner n as)]
    exact mem_language_regexesAlternatives n as hs.2 hk t

/-- The texts of segments without placeholders are those of their expressions. -/
theorem mem_language_regexes (n : Nat) (ss : List Segment) (hss : Normal ss) (hk : keys ss = [])
    (t : List Char) : t ∈ ((regexes inner n ss).map language).prod ↔ t ∈ texts ss := by
  match ss with
  | [] =>
    rw [regexes, texts, List.mem_singleton]
    exact Language.mem_one t
  | s :: rest =>
    rw [keys, List.append_eq_nil_iff] at hk
    rw [regexes, texts, List.map_append, List.prod_append, Language.mem_mul]
    simp only [mem_language_regexesOne n s hss.1 hk.1,
      mem_language_regexes _ rest hss.2.2 hk.2, List.mem_flatMap, List.mem_map]

theorem mem_language_regexesAlternatives (n : Nat) (as : List (List Segment))
    (has : NormalAlternatives as) (hk : keysAlternatives as = []) (t : List Char) :
    t ∈ ((regexesAlternatives inner n as).map language).sum ↔ t ∈ textsAlternatives as := by
  match as with
  | [] =>
    rw [regexesAlternatives, textsAlternatives, List.map_nil, List.sum_nil]
    exact iff_of_false (Language.notMem_zero t) List.not_mem_nil
  | a :: rest =>
    rw [keysAlternatives, List.append_eq_nil_iff] at hk
    rw [regexesAlternatives, textsAlternatives, List.map_cons, List.sum_cons, Language.mem_add,
      language_concat, mem_language_regexes n a has.1 hk.1,
      mem_language_regexesAlternatives _ rest has.2 hk.2, List.mem_append]

end

mutual

theorem clear_regexesOne (n : Nat) (s : Segment) (hs : NormalOne s) (hu : UnambiguousOne s) :
    ∀ r ∈ regexesOne inner n s, r.Clear := by
  match s with
  | .literal text =>
    rw [regexesOne, List.forall_mem_map]
    exact fun _ _ => trivial
  | .placeholder resource field =>
    rw [regexesOne, List.forall_mem_singleton]
    trivial
  | .alternation as =>
    rw [regexesOne, List.forall_mem_singleton]
    have hbounded := bounded_regexesAlternatives inner n as
    refine clear_choiceOf (regexesAlternatives_ne_nil inner n hs.1) hbounded
      (clear_regexesAlternatives n as hs.2 hu.2) fun hgroups => ?_
    have hk := keysAlternatives_of_hasGroup inner n as hgroups
    intro t ht u hu' htu
    rw [mem_language_regexesAlternatives inner n as hs.2 hk] at ht hu'
    exact hu.1 hk t ht u hu' htu

/-- The expressions of unambiguous segments are clear. -/
theorem clear_regexes (n : Nat) (ss : List Segment) (hss : Normal ss) (hu : Unambiguous ss) :
    ∀ r ∈ regexes inner n ss, r.Clear := by
  match ss with
  | [] =>
    rw [regexes]
    exact fun _ h => (List.not_mem_nil h).elim
  | s :: rest =>
    rw [regexes, List.forall_mem_append]
    exact ⟨clear_regexesOne n s hss.1 hu.1, clear_regexes _ rest hss.2.2 hu.2⟩

theorem clear_regexesAlternatives (n : Nat) (as : List (List Segment))
    (has : NormalAlternatives as) (hu : UnambiguousAlternatives as) :
    ∀ r ∈ regexesAlternatives inner n as, r.Clear := by
  match as with
  | [] =>
    rw [regexesAlternatives]
    exact fun _ h => (List.not_mem_nil h).elim
  | a :: rest =>
    rw [regexesAlternatives, List.forall_mem_cons]
    exact ⟨hereditary_clear.concat_iff.2 (clear_regexes n a has.1 hu.1),
      clear_regexesAlternatives _ rest has.2 hu.2⟩

end

/-! ## Alternations -/

theorem exists_clear_of_mem (n : Nat) {as : List (List Segment)} {a : List Segment} (ha : a ∈ as)
    (hnormal : Normal a) (hu : Unambiguous a) :
    ∃ r ∈ regexesAlternatives inner n as, r.Clear := by
  induction as generalizing n with
  | nil => cases ha
  | cons b as ih =>
    rw [regexesAlternatives]
    rcases List.mem_cons.1 ha with rfl | ha
    · exact ⟨_, List.mem_cons_self,
        hereditary_clear.concat_iff.2 (clear_regexes inner n a hnormal hu)⟩
    · obtain ⟨r, hr, hclear⟩ := ih (n + (keys b).length) ha
      exact ⟨r, List.mem_cons_of_mem _ hr, hclear⟩

theorem steady_text (text : List Char) :
    ((text.map fun c => Regex.literal [c]).map preference).prod.Steady := by
  refine Preference.steady_prod fun m hm => ?_
  rw [List.map_map] at hm
  obtain ⟨c, _, rfl⟩ := List.mem_map.1 hm
  exact steady_of_prefixFree (.singleton [c])

/-- An alternation behind literal text takes the first alternative that leads to the end, if some
alternative is unambiguous. -/
theorem find_alternation (text : List Char) {as : List (List Segment)} (ts : List Segment)
    (h : ∃ a ∈ as, Normal a ∧ Unambiguous a) (cs : List Char) :
    (anchored (regexes inner 0 (.literal text :: .alternation as :: ts))).find cs =
      (regexesAlternatives inner 0 as).findSome? fun r => (anchored
        ((text.map fun c => .literal [c]) ++
          r :: regexes inner (keysAlternatives as).length ts)).find cs := by
  obtain ⟨a, ha, hnormal, hu⟩ := h
  rw [← find_anchored_choiceOf (steady_text text) (bounded_regexesAlternatives inner 0 as)
    (exists_clear_of_mem inner 0 ha hnormal hu)]
  simp [regexes, regexesOne, keysOne]

end Segment

end RequestBinding
