import RequestBinding.Proofs.Params.Brackets

/-!
# Splitting keys

A key is spelled by at most one base with components, and splitting finds them if there are any. A
key that is not spelled by a base with components is taken as a whole.

## Main definitions

* `Brackets.Separable` - bases and components that brackets keep apart

## Main statements

* `Brackets.components_eq_some_iff` - texts that consist of brackets alone
* `Brackets.splitChars_cases` - a key is split or taken as a whole
* `Brackets.split_exact` - splitting finds what spells a key
-/

namespace RequestBinding.Brackets

/-- A base and components that brackets keep apart: there is a base, no bracket opens in it, and no
bracket closes in a component. -/
structure Separable (base : String) (path : List String) : Prop where
  base_ne : base ≠ ""
  base_plain : '[' ∉ base.toList
  path_plain : ∀ c ∈ path, ']' ∉ c.toList

/-! ## Components -/

/-- Inside of a bracket, a text is read up to the first bracket that closes. -/
theorem exists_of_components_inner {inner cs : List Char} {path : List (List Char)}
    (h : components (some inner) cs = some path) : ∃ c rest path', cs = c ++ ']' :: rest ∧
      ']' ∉ c ∧ components none rest = some path' ∧ path = (inner.reverse ++ c) :: path' := by
  induction cs generalizing inner with
  | nil => cases h
  | cons x cs ih =>
    rw [components] at h
    by_cases hx : x = ']'
    · subst hx
      rw [if_pos (beq_self_eq_true _)] at h
      obtain ⟨path', hpath', rfl⟩ := Option.map_eq_some_iff.1 h
      exact ⟨[], cs, path', rfl, List.not_mem_nil, hpath', by rw [List.append_nil]⟩
    · rw [if_neg (mt beq_iff_eq.1 hx)] at h
      obtain ⟨c, rest, path', rfl, hc, hrest, rfl⟩ := ih h
      refine ⟨x :: c, rest, path', rfl, ?_, hrest, ?_⟩
      · rintro (_ | ⟨_, hmem⟩)
        · exact hx rfl
        · exact hc hmem
      · rw [List.reverse_cons, List.append_assoc, List.singleton_append]

/-- A text consists of brackets alone exactly if these enclose components in which none closes. -/
theorem components_eq_some_iff {cs : List Char} {path : List (List Char)} :
    components none cs = some path ↔
      cs = (path.flatMap fun c => '[' :: (c ++ [']'])) ∧ ∀ c ∈ path, ']' ∉ c := by
  refine ⟨fun h => ?_, fun ⟨hcs, hpath⟩ => hcs ▸ components_flatMap hpath⟩
  -- by induction on the components, as each of them takes several characters of the text
  induction path generalizing cs with
  | nil =>
    cases cs with
    | nil => exact ⟨rfl, nofun⟩
    | cons x cs =>
      rw [components] at h
      split at h
      · obtain ⟨_, _, _, _, _, _, hpath⟩ := exists_of_components_inner h
        cases hpath
      · cases h
  | cons c path ih =>
    cases cs with
    | nil => cases h
    | cons x cs =>
      rw [components] at h
      split at h
      · next hx =>
        obtain ⟨c', rest, path', rfl, hc, hrest, hpath⟩ := exists_of_components_inner h
        obtain ⟨rfl, rfl⟩ := List.cons.inj hpath
        obtain ⟨rfl, hpath⟩ := ih hrest
        rw [beq_iff_eq.1 hx]
        exact ⟨by simp, List.forall_mem_cons.2 ⟨hc, hpath⟩⟩
      · cases h

/-! ## Keys -/

/-- A key is spelled by the base and the components that it is split into, or else it is taken as a
whole. -/
theorem splitChars_cases (key : List Char) :
    (∃ base path, splitChars key = (base, path) ∧ base ≠ [] ∧ '[' ∉ base ∧
      (∀ c ∈ path, ']' ∉ c) ∧ key = spellChars base path) ∨ splitChars key = (key, []) := by
  obtain ⟨_, _, hplain, _⟩ := takeWhile_bne_eq_iff.1 (rfl : key.takeWhile (· != '[') = _)
  rw [splitChars]
  split
  · next c base path htake hcomponents =>
    obtain ⟨hrest, hpath⟩ := components_eq_some_iff.1 hcomponents
    refine .inl ⟨_, path, rfl, ?_, hplain, hpath, ?_⟩
    · rw [htake]
      exact List.cons_ne_nil c base
    · rw [spellChars, ← hrest, List.takeWhile_append_dropWhile]
  · exact .inr rfl

theorem spell_nil (base : String) : spell base [] = base := by
  rw [spell, spellChars, List.map_nil, List.flatMap_nil, List.append_nil, String.ofList_toList]

theorem split_cases (key : String) :
    (∃ base path, split key = (base, path) ∧ Separable base path ∧ spell base path = key) ∨
      split key = (key, []) := by
  rw [split]
  rcases splitChars_cases key.toList with ⟨base, path, hsplit, hne, hbase, hpath, hkey⟩ | hsplit
  · refine .inl ⟨_, _, by rw [hsplit], ⟨?_, ?_, ?_⟩, ?_⟩
    · simpa using hne
    · simpa using hbase
    · simpa using hpath
    · rw [spell, String.toList_ofList, List.map_map]
      simp only [Function.comp_def, String.toList_ofList, List.map_id']
      rw [← hkey, String.ofList_toList]
  · rw [hsplit]
    exact .inr (Prod.ext String.ofList_toList rfl)

/-- Splitting is exact. What a key is split into spells it, and if there are components, brackets
keep them and the base apart. Any other base with components that does this is found: there is at
most one. A key that is not spelled in this way is taken as a whole. -/
theorem split_exact (key : String) :
    (∀ base path, split key = (base, path) →
      spell base path = key ∧ (path ≠ [] → Separable base path)) ∧
    (∀ base path, Separable base path → path ≠ [] → spell base path = key →
      split key = (base, path)) ∧
    ((∀ base path, Separable base path → path ≠ [] → spell base path ≠ key) →
      split key = (key, [])) := by
  refine ⟨fun base path h => ?_, fun base path h _ hkey => ?_, fun hnone => ?_⟩
  · rcases split_cases key with ⟨base', path', hsplit, hseparable, hkey⟩ | hsplit
    · obtain ⟨rfl, rfl⟩ := Prod.mk.inj (hsplit.symm.trans h)
      exact ⟨hkey, fun _ => hseparable⟩
    · obtain ⟨rfl, rfl⟩ := Prod.mk.inj (hsplit.symm.trans h)
      exact ⟨spell_nil key, fun hne => absurd rfl hne⟩
  · rw [← hkey]
    exact split_spell h.base_ne h.base_plain h.path_plain
  · rcases split_cases key with ⟨base, path, hsplit, hseparable, hkey⟩ | hsplit
    · by_cases hpath : path = []
      · -- a base alone is the whole key
        subst hpath
        rw [hsplit, ← hkey, spell_nil]
      · exact absurd hkey (hnone base path hseparable hpath)
    · exact hsplit

example : split "a]b[c[d][]" = ("a]b", ["c[d", ""]) := by decide

end RequestBinding.Brackets
