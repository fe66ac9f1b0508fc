import RequestBinding.Proofs.Regex.Language

/-!
# Normal forms and the order of stops

Joining texts and nesting parts differently changes nothing about the order in which the stops of a
concatenation are preferred. Taking shared parts out of an alternation may change it: the stops of
the shared parts are then told apart before the branches are. It does not if one of the branches is
clear, that is, if outside of its groups no text of an alternation begins with another text of it.

## Main definitions

* `Regex.Clear` - alternations without groups are prefix-free

## Main statements

* `preference_concat` - a concatenation is the product of its parts
* `preference_anyOf` - an alternation with a clear branch is the sum of its branches
* `clear_anyOf` - an alternation of clear branches is clear
-/

namespace RequestBinding.Regex

open RequestBinding.Unicode

/-! ## Preferences of normal forms -/

theorem skip?_append (s t : List Char) (c : Cursor) :
    c.skip? (s ++ t) = (c.skip? s).bind fun d => d.skip? t := by
  induction s generalizing c with
  | nil => rfl
  | cons x s ih =>
    rw [List.cons_append, Cursor.skip?, Cursor.skip?]
    cases c.next? with
    | none => rfl
    | some p =>
      obtain ⟨y, d⟩ := p
      by_cases hxy : (x == y) = true
      · simp only [if_pos hxy, ih]
      · simp only [if_neg hxy, Option.bind_none]

theorem branching_preference : Branching preference where
  empty := rfl
  append s t := by
    refine Preference.ext fun c => ?_
    rw [Preference.stops_mul]
    show stops (.literal (s ++ t)) c = follow (stops (.literal s) c) (stops (.literal t))
    simp only [stops, skip?_append]
    cases c.skip? s with
    | none => rfl
    | some d =>
      simp only [Option.bind_some, follow_here]
      cases d.skip? t <;> simp [firsts_singleton]
  seq _ _ := rfl
  fail := by
    refine Preference.ext fun c => ?_
    show stops .fail c = []
    simp only [fail, stops]
    cases c.next? <;> rfl
  alt _ _ := rfl

/-- A concatenation is the product of its parts. -/
theorem preference_concat (rs : List Regex) :
    (concat rs).preference = (rs.map preference).prod :=
  branching_preference.concat rs

theorem TakesOne.stops {r : Regex} {q : Char → Bool} (h : TakesOne r q) (c : Cursor) :
    r.stops c = match c.next? with
      | some (x, d) => if q x then [⟨[], d⟩] else []
      | none => [] := by
  rcases h with ⟨y, rfl, rfl⟩ | ⟨s, rfl, rfl⟩
  · simp only [Regex.stops, Cursor.skip?]
    cases c.next? with
    | none => rfl
    | some p =>
      obtain ⟨x, d⟩ := p
      by_cases hxy : x = y
      · simp [hxy]
      · simp [hxy, Ne.symm hxy]
  · rfl

theorem firsts_pair (s : Stop) : firsts [s, s] = [s] := by
  have h := firsts_concat [s] s
  rw [firsts_singleton] at h
  simpa [fresh] using h

theorem stops_sum_of_takesOne {bs : List Regex} {qs : List (Char → Bool)}
    (h : List.Forall₂ TakesOne bs qs) (c : Cursor) :
    ((bs.map preference).sum).stops c = match c.next? with
      | some (x, d) => if qs.any (· x) then [⟨[], d⟩] else []
      | none => [] := by
  induction h with
  | nil =>
    cases c.next? <;> rfl
  | @cons b q bs qs hb _ ih =>
    rw [List.map_cons, List.sum_cons, Preference.stops_add, ih]
    show firsts (b.stops c ++ _) = _
    rw [hb.stops]
    cases c.next? with
    | none => rfl
    | some p =>
      obtain ⟨x, d⟩ := p
      cases hq : q x <;> cases hqs : qs.any (· x) <;>
        simp [hq, hqs, firsts_singleton, firsts_pair]

theorem preference_merged {bs : List Regex} {s : RangeSet} (h : merged? bs = some s)
    (hbs : ∀ b ∈ bs, b.Bounded) : (ofSet s).preference = (bs.map preference).sum := by
  obtain ⟨hs, qs, hqs, hmem⟩ := exists_takesOne_of_merged h hbs
  refine Preference.ext fun c => ?_
  rw [stops_sum_of_takesOne hqs]
  show (ofSet s).stops c = _
  rw [(takesOne_ofSet hs).stops]
  simp only [hmem]

/-! ## Clear expressions -/

theorem hasGroup_alt {r s : Regex} (h : hasGroup (.alt r s) = false) :
    r.hasGroup = false ∧ s.hasGroup = false := Bool.or_eq_false_iff.1 h

/-- Having no groups. -/
theorem hereditary_hasGroup : Hereditary fun r => r.hasGroup = false where
  empty := rfl
  literal _ := rfl
  seq := Bool.or_eq_false_iff
  branches := forall_mem_branches (p := fun r => r.hasGroup = false) fun _ _ => hasGroup_alt

/-- Outside of groups, there are no repetitions and no empty sets, and alternations without groups
are prefix-free as a whole. If `whole` is not set, the expression is the end of an alternation. -/
def ClearAs (whole : Bool) : Regex → Prop
  | .set s => ∃ x : Char, s.mem x.toNat = true
  | .seq r s => r.ClearAs true ∧ s.ClearAs true
  | .alt r s =>
    (whole = true → hasGroup (.alt r s) = false → PrefixFree (language (.alt r s))) ∧
      r.ClearAs true ∧ s.ClearAs false
  | .rep .. => False
  | _ => True

/-- Outside of groups, no text of an alternation begins with another one, nor is anything repeated. -/
def Clear (r : Regex) : Prop := r.ClearAs true

theorem Clear.asEnd {r : Regex} (h : r.Clear) : r.ClearAs false := by
  cases r with
  | alt r s => exact ⟨nofun, h.2⟩
  | _ => exact h

theorem clear_of_mem_branches {r : Regex} (h : r.ClearAs false) : ∀ b ∈ r.branches, b.Clear := by
  induction r with
  | alt r s _ ihs => exact List.forall_mem_cons.2 ⟨h.2.1, ihs h.2.2⟩
  | _ =>
    intro b hb
    rw [List.mem_singleton.1 hb]
    exact h

theorem hereditary_clear : Hereditary Clear where
  empty := trivial
  literal _ := trivial
  seq := Iff.rfl
  branches h := clear_of_mem_branches h.asEnd

theorem Clear.prefixFree {r : Regex} (h : r.Clear) (hr : r.hasGroup = false) :
    PrefixFree r.language := by
  induction r with
  | empty => exact .singleton []
  | literal text => exact .singleton text
  | set s =>
    rintro _ ⟨x, _, rfl⟩ _ ⟨y, _, rfl⟩ hxy
    rw [List.singleton_prefix_cons_iff.1 hxy]
  | look l => exact .singleton []
  | seq r s ihr ihs =>
    obtain ⟨hr, hs⟩ := hereditary_hasGroup.seq.1 hr
    exact (ihr h.1 hr).mul (ihs h.2 hs)
  | alt r s _ _ => exact h.1 rfl hr
  | rep => exact h.elim
  | group => cases hr

theorem Clear.exists_mem {r : Regex} (h : r.Clear) (hr : r.hasGroup = false) :
    ∃ t, t ∈ r.language := by
  induction r with
  | empty => exact ⟨[], rfl⟩
  | literal text => exact ⟨text, rfl⟩
  | set s =>
    obtain ⟨x, hx⟩ := h
    exact ⟨[x], x, hx, rfl⟩
  | look l => exact ⟨[], rfl⟩
  | seq r s ihr ihs =>
    obtain ⟨hr, hs⟩ := hereditary_hasGroup.seq.1 hr
    obtain ⟨t, ht⟩ := ihr h.1 hr
    obtain ⟨u, hu⟩ := ihs h.2 hs
    exact ⟨t ++ u, Language.append_mem_mul ht hu⟩
  | alt r s ihr _ =>
    obtain ⟨t, ht⟩ := ihr h.2.1 (hasGroup_alt hr).1
    exact ⟨t, .inl ht⟩
  | rep => exact h.elim
  | group => cases hr

/-! ## Shared parts -/

theorem hasGroup_of_mem_commonParts {rs ss : List Regex} {q : Regex}
    (h : q ∈ commonParts rs ss) : q.hasGroup = false := by
  fun_induction commonParts rs ss with
  | case1 r rs s ss heq ih =>
    rcases List.mem_cons.1 h with rfl | h
    · simpa using (Bool.and_eq_true_iff.1 heq).2
    · exact ih h
  | case2 => cases h
  | case3 => cases h

/-- What several branches share has no groups. -/
theorem hasGroup_of_mem_sharedParts {a b : Regex} {bs : List Regex} {q : Regex}
    (h : q ∈ sharedParts (a :: b :: bs)) : q.hasGroup = false :=
  hasGroup_of_mem_commonParts ((foldl_commonParts_begins bs _).1.mem h)

/-- What a clear branch shares with others is clear. -/
theorem clear_of_mem_sharedParts {bs : List Regex} {b : Regex} (hb : b ∈ bs) (hclear : b.Clear)
    {q : Regex} (h : q ∈ sharedParts bs) : q.Clear :=
  hereditary_clear.parts_iff.2 hclear q ((sharedParts_begins hb).mem h)

theorem steady_sharedParts {a b : Regex} {bs : List Regex}
    (h : ∃ r ∈ a :: b :: bs, r.Clear) :
    ((sharedParts (a :: b :: bs)).map preference).prod.Steady := by
  obtain ⟨r, hr, hclear⟩ := h
  refine Preference.steady_prod fun m hm => ?_
  obtain ⟨q, hq, rfl⟩ := List.mem_map.1 hm
  exact steady_of_prefixFree
    ((clear_of_mem_sharedParts hr hclear hq).prefixFree (hasGroup_of_mem_sharedParts hq))

theorem branches_ne_nil (r : Regex) : r.branches ≠ [] := by
  cases r <;> simp [branches]

/-- Taking shared parts out leaves a clear branch. -/
theorem exists_clear_ends {bs : List Regex} (h : ∃ b ∈ bs, b.Clear) :
    ∃ b ∈ ends bs, b.Clear := by
  obtain ⟨b, hb, hclear⟩ := h
  have hrest := hereditary_clear.rest hclear (sharedParts bs).length
  obtain ⟨e, he⟩ := List.exists_mem_of_ne_nil _
    (branches_ne_nil (concat (b.parts.drop (sharedParts bs).length)))
  exact ⟨e, List.mem_flatMap.2 ⟨_, List.mem_map_of_mem hb, he⟩, hereditary_clear.branches hrest e he⟩

/-! ## Alternations -/

theorem distributes_preference :
    Distributes preference fun bs => (∀ b ∈ bs, b.Bounded) ∧ ∃ b ∈ bs, b.Clear where
  ends _ h := ⟨hereditary_bounded.ends h.1, exists_clear_ends h.2⟩
  merged _ _ h hs := preference_merged hs h.1
  shared _ _ _ h ms := (steady_sharedParts h.2).mul_sum ms

/-- An alternation with a clear branch is the sum of its branches. -/
theorem preference_anyOf {rs : List Regex} (hbounded : ∀ r ∈ rs, r.Bounded)
    (hclear : ∃ r ∈ rs, r.Clear) : (anyOf rs).preference = (rs.map preference).sum := by
  refine branching_preference.anyOf distributes_preference
    ⟨hereditary_bounded.flatMap_branches hbounded, ?_⟩
  obtain ⟨r, hr, hclear⟩ := hclear
  obtain ⟨b, hb⟩ := List.exists_mem_of_ne_nil _ (branches_ne_nil r)
  exact ⟨b, List.mem_flatMap.2 ⟨r, hr, hb⟩, hereditary_clear.branches hclear b hb⟩

/-! ## Alternations of clear branches -/

theorem hasGroup_ofBranches {bs : List Regex} (h : (ofBranches bs).hasGroup = false) :
    ∀ b ∈ bs, b.hasGroup = false := by
  fun_induction ofBranches bs with
  | case1 => exact fun b hb => (List.not_mem_nil hb).elim
  | case2 r => exact fun b hb => by rwa [List.mem_singleton.1 hb]
  | case3 r rest _ ih =>
    obtain ⟨hr, hrest⟩ := hasGroup_alt h
    exact List.forall_mem_cons.2 ⟨hr, ih hrest⟩

/-- Branches without groups are prefix-free. -/
def FreeIfPlain (bs : List Regex) : Prop :=
  (∀ b ∈ bs, b.hasGroup = false) → PrefixFree (bs.map language).sum

theorem clearAs_ofBranches {bs : List Regex} (hne : bs ≠ []) (h : ∀ b ∈ bs, b.Clear) :
    (ofBranches bs).ClearAs false := by
  fun_induction ofBranches bs with
  | case1 => exact (hne rfl).elim
  | case2 r => exact (h r List.mem_cons_self).asEnd
  | case3 r rest hrest ih =>
    obtain ⟨hr, h⟩ := List.forall_mem_cons.1 h
    exact ⟨fun hwhole => (Bool.false_ne_true hwhole).elim, hr, ih (fun hnil => hrest hnil) h⟩

theorem clear_ofBranches {bs : List Regex} (hne : bs ≠ []) (h : ∀ b ∈ bs, b.Clear)
    (hfree : FreeIfPlain bs) : (ofBranches bs).Clear := by
  have hend := clearAs_ofBranches hne h
  have hlanguage := branching_language.ofBranches bs
  have hgroups : (ofBranches bs).hasGroup = false → ∀ b ∈ bs, b.hasGroup = false :=
    hasGroup_ofBranches
  generalize ofBranches bs = r at hend hlanguage hgroups
  cases r with
  | alt r s => exact ⟨fun _ hr => hlanguage ▸ hfree (hgroups hr), hend.2⟩
  | _ => exact hend

theorem ends_ne_nil {bs : List Regex} (h : bs ≠ []) : ends bs ≠ [] := by
  obtain ⟨b, hb⟩ := List.exists_mem_of_ne_nil bs h
  obtain ⟨e, he⟩ := List.exists_mem_of_ne_nil _
    (branches_ne_nil (concat (b.parts.drop (sharedParts bs).length)))
  exact List.ne_nil_of_mem (List.mem_flatMap.2 ⟨_, List.mem_map_of_mem hb, he⟩)

theorem hasGroup_of_branches {r : Regex} (h : ∀ b ∈ r.branches, b.hasGroup = false) :
    r.hasGroup = false := by
  induction r with
  | alt r s _ ihs =>
    obtain ⟨hr, hs⟩ := List.forall_mem_cons.1 h
    exact Bool.or_eq_false_iff.2 ⟨hr, ihs hs⟩
  | _ => exact h _ List.mem_cons_self

/-- If the ends have no groups, then neither have the branches. -/
theorem hasGroup_of_ends {a b : Regex} {bs : List Regex}
    (h : ∀ e ∈ ends (a :: b :: bs), e.hasGroup = false) :
    ∀ r ∈ a :: b :: bs, r.hasGroup = false := by
  intro r hr
  have hrest : (concat (r.parts.drop (sharedParts (a :: b :: bs)).length)).hasGroup = false :=
    hasGroup_of_branches fun e he => h e (List.mem_flatMap.2 ⟨_, List.mem_map_of_mem hr, he⟩)
  have hsplit := List.prefix_iff_eq_append.1 (sharedParts_begins hr)
  refine hereditary_hasGroup.parts_iff.1 fun q hq => ?_
  rw [← hsplit] at hq
  rcases List.mem_append.1 hq with hq | hq
  · exact hasGroup_of_mem_sharedParts hq
  · exact hereditary_hasGroup.concat_iff.1 hrest q hq

/-- The ends are prefix-free if the branches are. -/
theorem freeIfPlain_ends {a b : Regex} {bs : List Regex} (hclear : ∀ r ∈ a :: b :: bs, r.Clear)
    (h : FreeIfPlain (a :: b :: bs)) : FreeIfPlain (ends (a :: b :: bs)) := by
  intro hends
  have hgroups := hasGroup_of_ends hends
  have hfree := h hgroups
  have hbranch : ∀ r ∈ a :: b :: bs, r.language =
      ((sharedParts (a :: b :: bs)).map language).prod *
        (concat (r.parts.drop (sharedParts (a :: b :: bs)).length)).language :=
    fun r hr => branching_language.eq_shared (sharedParts_begins hr)
  -- the shared parts have some text, as the first branch has one
  obtain ⟨t, ht⟩ := (hclear a List.mem_cons_self).exists_mem (hgroups a List.mem_cons_self)
  rw [hbranch a List.mem_cons_self] at ht
  obtain ⟨u, hu, _⟩ := Language.mem_mul.1 ht
  refine PrefixFree.of_mul (hfree.mono fun t ht => ?_) hu
  rw [ends, branching_language.sum_flatMap_branches, List.map_map] at ht
  rw [List.map_congr_left hbranch, List.sum_map_mul_left]
  exact ht

theorem TakesOne.hasGroup {r : Regex} {q : Char → Bool} (h : TakesOne r q) :
    r.hasGroup = false := by
  rcases h with ⟨y, rfl, rfl⟩ | ⟨s, rfl, rfl⟩ <;> rfl

/-- An expression that takes some character is clear, and conversely. -/
theorem TakesOne.clear_iff {r : Regex} {q : Char → Bool} (h : TakesOne r q) :
    r.Clear ↔ ∃ x, q x = true := by
  rcases h with ⟨y, rfl, rfl⟩ | ⟨s, rfl, rfl⟩
  · exact ⟨fun _ => ⟨y, beq_self_eq_true y⟩, fun _ => trivial⟩
  · exact Iff.rfl

theorem hasGroup_factor (fuel : Nat) {bs : List Regex} (hbounded : ∀ b ∈ bs, b.Bounded)
    (h : (factor fuel bs).hasGroup = false) : ∀ b ∈ bs, b.hasGroup = false := by
  induction fuel generalizing bs with
  | zero => exact hasGroup_ofBranches h
  | succ fuel ih =>
    rcases bs with _ | ⟨a, _ | ⟨b, bs⟩⟩
    · exact hasGroup_ofBranches h
    · exact hasGroup_ofBranches h
    · rw [factor] at h
      · split at h
        · next s hs =>
          obtain ⟨_, qs, hqs, _⟩ := exists_takesOne_of_merged hs hbounded
          intro r hr
          obtain ⟨q, _, htakes⟩ := exists_takesOne_of_mem hqs hr
          exact htakes.hasGroup
        · split at h
          · exact hasGroup_ofBranches h
          · have hends := hereditary_hasGroup.concat_iff.1 h _
              (List.mem_append_right _ List.mem_cons_self)
            exact hasGroup_of_ends (ih (hereditary_bounded.ends hbounded) hends)
      all_goals simp

/-- An alternation without groups has branches without groups. -/
theorem hasGroup_anyOf {rs : List Regex} (hbounded : ∀ r ∈ rs, r.Bounded)
    (h : (anyOf rs).hasGroup = false) : ∀ r ∈ rs, r.hasGroup = false := by
  have hbranches := hasGroup_factor _ (hereditary_bounded.flatMap_branches hbounded) h
  exact fun r hr => hasGroup_of_branches fun b hb =>
    hbranches b (List.mem_flatMap.2 ⟨r, hr, hb⟩)

theorem clear_merged {bs : List Regex} {s : RangeSet} (h : merged? bs = some s)
    (hbounded : ∀ b ∈ bs, b.Bounded) {b : Regex} (hb : b ∈ bs) (hclear : b.Clear) :
    (ofSet s).Clear := by
  obtain ⟨hs, qs, hqs, hmem⟩ := exists_takesOne_of_merged h hbounded
  obtain ⟨q, hq, htakes⟩ := exists_takesOne_of_mem hqs hb
  obtain ⟨x, hx⟩ := htakes.clear_iff.1 hclear
  refine (takesOne_ofSet hs).clear_iff.2 ⟨x, ?_⟩
  rw [hmem]
  exact List.any_eq_true.2 ⟨q, hq, hx⟩

theorem clear_factor (fuel : Nat) {bs : List Regex} (hne : bs ≠ [])
    (hbounded : ∀ b ∈ bs, b.Bounded) (hclear : ∀ b ∈ bs, b.Clear) (hfree : FreeIfPlain bs) :
    (factor fuel bs).Clear := by
  induction fuel generalizing bs with
  | zero => exact clear_ofBranches hne hclear hfree
  | succ fuel ih =>
    rcases bs with _ | ⟨a, _ | ⟨b, bs⟩⟩
    · exact (hne rfl).elim
    · exact hclear a List.mem_cons_self
    · rw [factor]
      · split
        · next s hs =>
          exact clear_merged hs hbounded List.mem_cons_self (hclear a List.mem_cons_self)
        · split
          · exact clear_ofBranches hne hclear hfree
          · refine hereditary_clear.concat_iff.2 fun q hq => ?_
            rcases List.mem_append.1 hq with hq | hq
            · exact clear_of_mem_sharedParts List.mem_cons_self (hclear a List.mem_cons_self) hq
            · rw [List.mem_singleton.1 hq]
              exact ih (ends_ne_nil hne) (hereditary_bounded.ends hbounded)
                (hereditary_clear.ends hclear) (freeIfPlain_ends hclear hfree)
      all_goals simp

/-- An alternation of clear branches is clear, if it is prefix-free should it have no groups. -/
theorem clear_anyOf {rs : List Regex} (hne : rs ≠ []) (hbounded : ∀ r ∈ rs, r.Bounded)
    (hclear : ∀ r ∈ rs, r.Clear) (hfree : FreeIfPlain rs) : (anyOf rs).Clear := by
  refine clear_factor _ ?_ (hereditary_bounded.flatMap_branches hbounded)
    (hereditary_clear.flatMap_branches hclear) ?_
  · obtain ⟨r, hr⟩ := List.exists_mem_of_ne_nil rs hne
    obtain ⟨b, hb⟩ := List.exists_mem_of_ne_nil _ (branches_ne_nil r)
    exact List.ne_nil_of_mem (List.mem_flatMap.2 ⟨r, hr, hb⟩)
  · intro h
    rw [branching_language.sum_flatMap_branches]
    refine hfree fun r hr => hasGroup_of_branches fun b hb => ?_
    exact h b (List.mem_flatMap.2 ⟨r, hr, hb⟩)

end RequestBinding.Regex
