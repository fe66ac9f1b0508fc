import RequestBinding.Unicode.RangeSet

/-!
# Members of sets of code points

What belongs to a set that has been put together from ranges, and that the bounds of its ranges are
characters if those of its parts are.

## Main statements

* `RangeSet.mem_union`, `RangeSet.mem_ofPoints`, `RangeSet.mem_unions` - members
* `RangeSet.mem_of_only?_eq_some` - a set with one member
-/

namespace RequestBinding.Unicode.RangeSet

/-- The bounds of the ranges of a set are characters. -/
def CharBounds (s : RangeSet) : Prop := ∀ r ∈ s.ranges, r.1.isValidChar ∧ r.2.isValidChar

/-- Some range of a list holds a code point. -/
def Holds (rs : List (Nat × Nat)) (n : Nat) : Prop := ∃ r ∈ rs, r.1 ≤ n ∧ n ≤ r.2

theorem mem_iff {s : RangeSet} {n : Nat} : s.mem n = true ↔ Holds s.ranges n := by
  simp [mem, Holds]

theorem holds_nil {n : Nat} : ¬ Holds [] n := fun ⟨_, h, _⟩ => List.not_mem_nil h

theorem holds_cons {r : Nat × Nat} {rs : List (Nat × Nat)} {n : Nat} :
    Holds (r :: rs) n ↔ (r.1 ≤ n ∧ n ≤ r.2) ∨ Holds rs n := by
  simp [Holds]

/-! ## Insertion -/

/-- Ranges that are joined overlap or touch, so that the joined range holds nothing new. -/
theorem holds_insert {r : Nat × Nat} {rs : List (Nat × Nat)} {n : Nat} :
    Holds (insert r rs) n ↔ (r.1 ≤ n ∧ n ≤ r.2) ∨ Holds rs n := by
  induction rs generalizing r with
  | nil => exact holds_cons
  | cons s rs ih =>
    rw [insert]
    by_cases h₁ : r.2 + 1 < s.1
    · rw [if_pos h₁]
      exact holds_cons
    · rw [if_neg h₁]
      by_cases h₂ : s.2 + 1 < r.1
      · rw [if_pos h₂, holds_cons, ih, holds_cons]
        exact or_left_comm
      · rw [if_neg h₂, ih, holds_cons, ← or_assoc]
        have hjoin : (min r.1 s.1 ≤ n ∧ n ≤ max r.2 s.2) ↔
            (r.1 ≤ n ∧ n ≤ r.2) ∨ (s.1 ≤ n ∧ n ≤ s.2) := by
          omega
        rw [hjoin]

theorem holds_foldl_insert {ts rs : List (Nat × Nat)} {n : Nat} :
    Holds (ts.foldl (fun rs r => insert r rs) rs) n ↔ Holds rs n ∨ Holds ts n := by
  induction ts generalizing rs with
  | nil => simp [holds_nil]
  | cons t ts ih =>
    rw [List.foldl_cons, ih, holds_insert, holds_cons, or_comm (a := t.1 ≤ n ∧ n ≤ t.2), or_assoc]

theorem mem_union {s t : RangeSet} {n : Nat} :
    (s.union t).mem n = true ↔ s.mem n = true ∨ t.mem n = true := by
  rw [mem_iff, mem_iff, mem_iff]
  exact holds_foldl_insert

theorem mem_ofPoints {ns : List Nat} {n : Nat} : (ofPoints ns).mem n = true ↔ n ∈ ns := by
  rw [mem_iff]
  refine holds_foldl_insert.trans ?_
  constructor
  · rintro (h | ⟨r, hr, hle⟩)
    · exact (holds_nil h).elim
    · obtain ⟨m, hm, rfl⟩ := List.mem_map.1 hr
      rwa [Nat.le_antisymm hle.2 hle.1]
  · intro h
    exact .inr ⟨(n, n), List.mem_map.2 ⟨n, h, rfl⟩, Nat.le_refl n, Nat.le_refl n⟩

theorem mem_foldl_union {ss : List RangeSet} {s : RangeSet} {n : Nat} :
    (ss.foldl union s).mem n = true ↔ s.mem n = true ∨ ∃ t ∈ ss, t.mem n = true := by
  induction ss generalizing s with
  | nil => simp
  | cons t ss ih =>
    rw [List.foldl_cons, ih, mem_union, or_assoc]
    simp

theorem mem_unions {ss : List RangeSet} {n : Nat} :
    (unions ss).mem n = true ↔ ∃ s ∈ ss, s.mem n = true := by
  refine mem_foldl_union.trans ?_
  have hempty : empty.mem n = false := rfl
  simp [hempty]

/-! ## Bounds -/

theorem isValidChar_toNat (c : Char) : c.toNat.isValidChar := c.valid

/-- The bounds of an inserted range are bounds that were there before. -/
theorem charBounds_insert {r : Nat × Nat} {rs : List (Nat × Nat)}
    (hr : r.1.isValidChar ∧ r.2.isValidChar) (hrs : CharBounds ⟨rs⟩) :
    CharBounds ⟨insert r rs⟩ := by
  induction rs generalizing r with
  | nil =>
    intro q hq
    rwa [List.mem_singleton.1 hq]
  | cons s rs ih =>
    have hs := hrs s List.mem_cons_self
    have hrest : CharBounds ⟨rs⟩ := fun q hq => hrs q (List.mem_cons_of_mem s hq)
    rw [insert]
    split
    · intro q hq
      rcases List.mem_cons.1 hq with rfl | hq
      · exact hr
      · exact hrs q hq
    · split
      · intro q hq
        rcases List.mem_cons.1 hq with rfl | hq
        · exact hs
        · exact ih hr hrest q hq
      · refine ih ⟨?_, ?_⟩ hrest
        · rcases Nat.le_total r.1 s.1 with h | h
          · rw [Nat.min_eq_left h]
            exact hr.1
          · rw [Nat.min_eq_right h]
            exact hs.1
        · rcases Nat.le_total r.2 s.2 with h | h
          · rw [Nat.max_eq_right h]
            exact hs.2
          · rw [Nat.max_eq_left h]
            exact hr.2

theorem charBounds_foldl_insert {ts rs : List (Nat × Nat)} (ht : CharBounds ⟨ts⟩)
    (hr : CharBounds ⟨rs⟩) : CharBounds ⟨ts.foldl (fun rs r => insert r rs) rs⟩ := by
  induction ts generalizing rs with
  | nil => exact hr
  | cons t ts ih =>
    exact ih (fun q hq => ht q (List.mem_cons_of_mem t hq))
      (charBounds_insert (ht t List.mem_cons_self) hr)

theorem charBounds_empty : CharBounds empty := fun _ h => (List.not_mem_nil h).elim

theorem CharBounds.union {s t : RangeSet} (hs : s.CharBounds) (ht : t.CharBounds) :
    (s.union t).CharBounds :=
  charBounds_foldl_insert ht hs

theorem charBounds_ofPoints (cs : List Char) : (ofPoints (cs.map Char.toNat)).CharBounds := by
  refine charBounds_foldl_insert ?_ charBounds_empty
  intro r hr
  obtain ⟨n, hn, rfl⟩ := List.mem_map.1 hr
  obtain ⟨c, _, rfl⟩ := List.mem_map.1 hn
  exact ⟨isValidChar_toNat c, isValidChar_toNat c⟩

theorem charBounds_unions {ss : List RangeSet} (h : ∀ s ∈ ss, s.CharBounds) :
    (unions ss).CharBounds := by
  suffices hfold : ∀ s : RangeSet, s.CharBounds → (ss.foldl union s).CharBounds from
    hfold empty charBounds_empty
  induction ss with
  | nil => exact fun s hs => hs
  | cons t ss ih =>
    intro s hs
    exact ih (fun u hu => h u (List.mem_cons_of_mem t hu)) (s.union t)
      (hs.union (h t List.mem_cons_self))

/-- The only member of a set whose bounds are characters. -/
theorem mem_of_only?_eq_some {s : RangeSet} {c : Char} (hs : s.CharBounds)
    (h : s.only? = some c) (x : Char) : s.mem x.toNat = true ↔ x = c := by
  obtain ⟨rs⟩ := s
  unfold only? at h
  split at h
  · next low high heq =>
    simp only at heq
    subst heq
    split at h
    · next hlow =>
      simp only [Option.some.injEq] at h
      rw [beq_iff_eq] at hlow
      subst hlow
      have hv : low.isValidChar := (hs _ List.mem_cons_self).1
      have hc : c.toNat = low := by
        rw [← h, Char.ofNat, dif_pos hv]
        rfl
      rw [mem_iff, holds_cons, or_iff_left holds_nil]
      constructor
      · intro hx
        exact Char.toNat_inj.1 (by simp only at hx; omega)
      · rintro rfl
        simp only
        omega
    · cases h
  · cases h

end RequestBinding.Unicode.RangeSet
