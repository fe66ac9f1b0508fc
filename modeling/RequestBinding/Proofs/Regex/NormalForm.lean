import RequestBinding.Proofs.Regex.Search
import RequestBinding.Proofs.Regex.Values

/-!
# Normal forms keep the meaning

Meanings are values of expressions: a concatenation means its parts one after the other and an
alternation means one of its branches, whatever form these are brought into. So the functions that
build expressions change nothing about what matches, nor with which captures.

## Main definitions

* `Denotes` - a plain expression with a certain meaning

## Main statements

* `denotes_concat` - a concatenation means its parts one after the other
* `denotes_anyOf` - an alternation means one of its branches
-/

namespace RequestBinding.Regex

open RequestBinding.Unicode

/-! ## Products and sums of meanings -/

namespace Meaning

instance : Monoid Meaning where
  mul := seq
  one := skip
  mul_assoc := seq_assoc
  one_mul := skip_seq
  mul_one := seq_skip

instance : Zero Meaning := ⟨fail⟩

instance : Add Meaning := ⟨alt⟩

instance : AddMonoid Meaning where
  add_assoc := alt_assoc
  zero_add := fail_alt
  add_zero := alt_fail
  nsmul := nsmulRec

end Meaning

/-- A plain expression with a certain meaning. -/
structure Denotes (r : Regex) (m : Meaning) : Prop where
  plain : r.Plain
  meaning_eq : r.meaning = m

/-- The meanings of expressions one after the other. -/
def meanings (rs : List Regex) : List Meaning := rs.map meaning

@[simp] theorem meanings_nil : meanings [] = [] := rfl

@[simp] theorem meanings_cons (r : Regex) (rs : List Regex) :
    meanings (r :: rs) = r.meaning :: meanings rs := rfl

@[simp] theorem meanings_append (rs ss : List Regex) :
    meanings (rs ++ ss) = meanings rs ++ meanings ss := List.map_append

/-! ## Characters and sets -/

theorem meaning_literal_nil : meaning (.literal []) = .skip := by
  ext c d k
  show c.Takes [] d ∧ k = [] ↔ d = c ∧ k = []
  rw [Cursor.takes_nil]

theorem meaning_literal_append (s t : List Char) :
    meaning (.literal (s ++ t)) = .seq (meaning (.literal s)) (meaning (.literal t)) := by
  ext c e k
  constructor
  · rintro ⟨h, rfl⟩
    obtain ⟨d, hs, ht⟩ := Cursor.takes_append.1 h
    exact ⟨d, [], [], ⟨hs, rfl⟩, ⟨ht, rfl⟩, rfl⟩
  · rintro ⟨d, _, _, ⟨hs, rfl⟩, ⟨ht, rfl⟩, rfl⟩
    exact ⟨hs.trans ht, rfl⟩

theorem meaning_fail : meaning .fail = .fail := by
  ext c d k
  constructor
  · rintro ⟨⟨x, hx, _⟩, _⟩
    cases hx
  · intro h
    exact h.elim

theorem plain_ofSet {s : RangeSet} (h : s.CharBounds) : (ofSet s).Plain := by
  unfold ofSet
  split
  · trivial
  · exact h

theorem branching_meaning : Branching meaning where
  empty := rfl
  append := meaning_literal_append
  seq _ _ := rfl
  fail := meaning_fail
  alt _ _ := rfl

theorem hereditary_plain : Hereditary Plain where
  empty := trivial
  literal _ := trivial
  seq := Iff.rfl
  branches := forall_mem_branches fun _ _ => id

theorem Plain.bounded {r : Regex} (h : r.Plain) : r.Bounded := by
  induction r with
  | set s => exact h
  | seq r s ihr ihs => exact ⟨ihr h.1, ihs h.2⟩
  | alt r s ihr ihs => exact ⟨ihr h.1, ihs h.2⟩
  | _ => trivial

/-! ## Normal forms -/

/-- A concatenation means its parts one after the other. -/
theorem denotes_concat {rs : List Regex} (h : ∀ r ∈ rs, r.Plain) :
    Denotes (concat rs) (.seqs (meanings rs)) :=
  ⟨hereditary_plain.concat_iff.2 h, branching_meaning.concat rs⟩

theorem TakesOne.meaning_iff {r : Regex} {q : Char → Bool} (h : TakesOne r q) {c d : Cursor}
    {k : List Capture} : r.meaning c d k ↔ (∃ x, q x = true ∧ c.Takes [x] d) ∧ k = [] := by
  rcases h with ⟨y, rfl, rfl⟩ | ⟨s, rfl, rfl⟩
  · simp only [beq_iff_eq, exists_eq_left]
    exact Iff.rfl
  · exact Iff.rfl

theorem meaning_sum_of_takesOne {bs : List Regex} {qs : List (Char → Bool)}
    (h : List.Forall₂ TakesOne bs qs) {c d : Cursor} {k : List Capture} :
    (bs.map meaning).sum c d k ↔ (∃ x, qs.any (· x) = true ∧ c.Takes [x] d) ∧ k = [] := by
  induction h with
  | nil =>
    show False ↔ _
    simp
  | @cons b q bs qs hb _ ih =>
    show b.meaning c d k ∨ (bs.map meaning).sum c d k ↔ _
    rw [hb.meaning_iff, ih]
    simp [or_and_right, exists_or]

theorem meaning_merged {bs : List Regex} {s : RangeSet} (h : merged? bs = some s)
    (hbs : ∀ b ∈ bs, b.Bounded) : (ofSet s).meaning = (bs.map meaning).sum := by
  obtain ⟨hs, qs, hqs, hmem⟩ := exists_takesOne_of_merged h hbs
  ext c d k
  rw [meaning_sum_of_takesOne hqs, (takesOne_ofSet hs).meaning_iff]
  simp only [hmem]

/-- An alternation means one of its branches. -/
theorem denotes_anyOf {rs : List Regex} (h : ∀ r ∈ rs, r.Plain) :
    Denotes (anyOf rs) (.alts (meanings rs)) := by
  have hgood : Distributes meaning fun bs => ∀ b ∈ bs, b.Plain := by
    refine ⟨fun bs h => hereditary_plain.ends h,
      fun bs s h hs => meaning_merged hs fun b hb => (h b hb).bounded, fun a b bs _ ms => ?_⟩
    exact (Meaning.alts_map_seq _ ms).symm
  refine ⟨hereditary_plain.anyOf RangeSet.charBounds_empty (fun _ _ => And.intro) ?_ h,
    branching_meaning.anyOf hgood (hereditary_plain.flatMap_branches h)⟩
  intro bs s hbs hs
  exact plain_ofSet (exists_takesOne_of_merged hs fun b hb => (hbs b hb).bounded).1

end RequestBinding.Regex
