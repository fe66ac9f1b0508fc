import RequestBinding.Unicode.Case

/-!
# Cutting texts

The longest beginning of a text with characters of some kind alone, and what is left of a text
without the blanks around it.

## Main definitions

* `Unicode.Trimmed` - a text without the blanks around it

## Main statements

* `takeWhile_append_of_head?`, `exists_takeWhile` - the longest beginning of some kind
* `takeWhile_bne_append`, `takeWhile_bne_eq_iff` - what stands before the first separator
* `Unicode.trimBlank_eq_iff` - trimming a text
-/

namespace RequestBinding

variable {p : Char → Bool}

/-- A beginning of some kind that something else or nothing follows is the longest one. -/
theorem takeWhile_append_of_head? {front rest : List Char} (hfront : ∀ c ∈ front, p c = true)
    (hrest : ∀ c ∈ rest.head?, p c = false) :
    (front ++ rest).takeWhile p = front ∧ (front ++ rest).dropWhile p = rest := by
  rw [List.takeWhile_append_of_pos hfront, List.dropWhile_append_of_pos hfront]
  cases rest with
  | nil => simp
  | cons c rest =>
    have hc : p c = false := hrest c rfl
    simp [hc]

/-- Every text has a longest beginning of some kind. -/
theorem exists_takeWhile (p : Char → Bool) (cs : List Char) : ∃ rest,
    cs = cs.takeWhile p ++ rest ∧ (∀ c ∈ cs.takeWhile p, p c = true) ∧
      ∀ c ∈ rest.head?, p c = false := by
  refine ⟨cs.dropWhile p, List.takeWhile_append_dropWhile.symm,
    List.all_eq_true.1 List.all_takeWhile, fun c hc => ?_⟩
  have hhead := List.head?_dropWhile_not p cs
  rw [hc] at hhead
  exact hhead

/-- What stands before a separator that is not in it. -/
theorem takeWhile_bne_append {sep : Char} {front rest : List Char} (hfront : sep ∉ front)
    (hrest : ∀ c ∈ rest.head?, c = sep) :
    (front ++ rest).takeWhile (· != sep) = front ∧ (front ++ rest).dropWhile (· != sep) = rest := by
  refine takeWhile_append_of_head? (fun c hc => bne_iff_ne.2 ?_) fun c hc => by simp [hrest c hc]
  rintro rfl
  exact hfront hc

theorem takeWhile_bne_eq_iff {sep : Char} {cs front : List Char} :
    cs.takeWhile (· != sep) = front ↔
      ∃ rest, cs = front ++ rest ∧ sep ∉ front ∧ ∀ c ∈ rest.head?, c = sep := by
  constructor
  · rintro rfl
    obtain ⟨rest, hcs, hfront, hrest⟩ := exists_takeWhile (· != sep) cs
    exact ⟨rest, hcs, fun hmem => bne_iff_ne.1 (hfront sep hmem) rfl,
      fun c hc => by simpa using hrest c hc⟩
  · rintro ⟨rest, rfl, hfront, hrest⟩
    exact (takeWhile_bne_append hfront hrest).1

namespace Unicode

/-- A text without the blanks at its start and its end. -/
def Trimmed (cs core : List Char) : Prop :=
  ∃ left right, cs = left ++ (core ++ right) ∧ (∀ c ∈ left, isBlank c = true) ∧
    (∀ c ∈ right, isBlank c = true) ∧ (∀ c ∈ core.head?, isBlank c = false) ∧
    ∀ c ∈ core.getLast?, isBlank c = false

theorem trimBlank_of_trimmed {cs core : List Char} (h : Trimmed cs core) : trimBlank cs = core := by
  obtain ⟨left, right, rfl, hleft, hright, hhead, hlast⟩ := h
  have hright' : ∀ c ∈ right.reverse, isBlank c = true := fun c hc =>
    hright c (List.mem_reverse.1 hc)
  have hlast' : ∀ c ∈ core.reverse.head?, isBlank c = false := by
    rw [List.head?_reverse]
    exact hlast
  have hback : ((core ++ right).reverse.dropWhile isBlank).reverse = core := by
    rw [List.reverse_append, (takeWhile_append_of_head? hright' hlast').2, List.reverse_reverse]
  rw [trimBlank]
  cases core with
  | nil =>
    have hall : ∀ c ∈ left ++ ([] ++ right), isBlank c = true := by
      intro c hc
      rcases List.mem_append.1 hc with hc | hc
      · exact hleft c hc
      · exact hright c hc
    have hnone : ∀ c ∈ ([] : List Char).head?, isBlank c = false := nofun
    have hnil := (takeWhile_append_of_head? hall hnone).2
    rw [List.append_nil] at hnil
    rw [hnil]
    rfl
  | cons c core =>
    have hfirst : ∀ x ∈ (c :: core ++ right).head?, isBlank x = false := hhead
    rw [(takeWhile_append_of_head? hleft hfirst).2, hback]

theorem exists_trimmed (cs : List Char) : ∃ core, Trimmed cs core := by
  obtain ⟨rest, hcs, hleft, hrest⟩ := exists_takeWhile isBlank cs
  obtain ⟨core, hback, hright, hcore⟩ := exists_takeWhile isBlank rest.reverse
  have hsplit : rest = core.reverse ++ (rest.reverse.takeWhile isBlank).reverse := by
    rw [← List.reverse_append, ← hback, List.reverse_reverse]
  refine ⟨core.reverse, _, _, hcs.trans (congrArg _ hsplit), hleft,
    fun c hc => hright c (List.mem_reverse.1 hc), fun c hc => ?_, fun c hc => ?_⟩
  · refine hrest c ?_
    rw [hsplit, List.head?_append, hc]
    rfl
  · rw [List.getLast?_reverse] at hc
    exact hcore c hc

theorem trimBlank_eq_iff {cs core : List Char} : trimBlank cs = core ↔ Trimmed cs core := by
  constructor
  · rintro rfl
    obtain ⟨core, h⟩ := exists_trimmed cs
    rw [trimBlank_of_trimmed h]
    exact h
  · exact trimBlank_of_trimmed

end Unicode

end RequestBinding
