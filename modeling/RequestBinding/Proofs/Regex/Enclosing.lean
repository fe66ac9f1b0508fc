import RequestBinding.Proofs.Regex.Brackets
import RequestBinding.Proofs.Regex.Reading
import RequestBinding.Proofs.Regex.Renaming

/-!
# Patterns within patterns

A pattern that is well-formed by itself is read in the same way within a group of another pattern:
every step changes the innermost group alone, and does not depend on what follows. The exceptions
are patterns that end in verbose mode, as a comment at their end would go on behind them.

## Main definitions

* `State.inside` - a state within open groups
* `complete?` - the expression of a pattern that is complete in itself

## Main statements

* `State.step_inside`, `State.run_inside` - steps within open groups
* `encloses_of_complete?` - what a complete pattern is read as in a named group
-/

namespace RequestBinding.Regex

namespace State

variable {st st' q : State} {x : List Char}

/-- A state within open groups, where certain names are taken. -/
def inside (st : State) (outer : List Group) (names : List String) : State :=
  { st with outer := st.outer ++ outer, names := names }

/-! ## Steps -/

theorem closeGroup_inside (h : st.closeGroup = some st') (outer : List Group)
    (names : List String) : (st.inside outer names).closeGroup = some (st'.inside outer names) := by
  unfold closeGroup at h ⊢
  cases ho : st.outer with
  | nil =>
    rw [ho] at h
    cases h
  | cons g gs =>
    rw [ho] at h
    cases h
    simp [inside, ho]

theorem primitive_inside {p : Primitive} (h : st.primitive p = some st') (outer : List Group)
    (names : List String) : (st.inside outer names).primitive p = some (st'.inside outer names) := by
  unfold primitive at h ⊢
  cases p with
  | char c byte =>
    simp only at h ⊢
    split at h
    · cases h
    · next hbyte =>
      cases h
      exact if_neg hbyte
  | set s =>
    cases h
    rfl
  | look l =>
    cases h
    rfl

theorem repeatLast_inside {low : Nat} {high : Option Nat} {cs r : List Char}
    (h : st.repeatLast low high cs = some (st', r)) (outer : List Group) (names : List String)
    (x : List Char) : (st.inside outer names).repeatLast low high (cs ++ ')' :: x) =
      some (st'.inside outer names, r ++ ')' :: x) := by
  unfold repeatLast at h ⊢
  rw [show (st.inside outer names).items = st.items from rfl]
  cases hitems : st.items with
  | nil =>
    rw [hitems] at h
    cases h
  | cons i items =>
    rw [hitems] at h
    cases i with
    | flags => cases h
    | part b =>
      cases cs with
      | nil =>
        cases h
        rfl
      | cons c cs =>
        by_cases hc : c = '?'
        · subst hc
          cases h
          rfl
        · simp only [List.cons_append, List.cons.injEq, hc, false_and, imp_self, implies_true]
            at h ⊢
          cases h
          rfl

theorem mode_primitive {p : Primitive} (h : st.primitive p = some st') : st'.mode = st.mode := by
  unfold primitive at h
  cases p with
  | char c byte =>
    simp only at h
    split at h
    · cases h
    · cases h
      rfl
  | set s =>
    cases h
    rfl
  | look l =>
    cases h
    rfl

/-- A repetition takes a question mark at most. -/
theorem repeatLast_spec {low : Nat} {high : Option Nat} {cs r : List Char}
    (h : st.repeatLast low high cs = some (st', r)) :
    st'.mode = st.mode ∧ (cs = [] → r = []) := by
  unfold repeatLast at h
  split at h
  · cases h
    exact ⟨rfl, fun hcs => by rw [hcs]⟩
  · cases h

/-- What a look-around or a named group begins with is no flag. -/
theorem readFlags_eq_none {c : Char} (h : c ∈ ['=', '!', '<', 'P']) (f : FlagList)
    (cs : List Char) : readFlags f (c :: cs) = none := by
  have hset : f.mode.set c (!f.negated) = none := by
    simp only [List.mem_cons, List.not_mem_nil, or_false] at h
    rcases h with rfl | rfl | rfl | rfl <;> rfl
  have hend : (c == ':' || c == ')') = false ∧ (c == '-') = false := by
    simp only [List.mem_cons, List.not_mem_nil, or_false] at h
    rcases h with rfl | rfl | rfl | rfl <;> decide
  simp [readFlags, hend, hset]

theorem names_enterNamed {cs r : List Char} (h : st.enterNamed cs = some (st', r)) :
    st'.names ≠ [] := by
  unfold enterNamed at h
  split at h
  · cases h
  · cases h
  · simp only at h
    split at h
    · cases h
    · cases h
      exact List.cons_ne_nil _ _

theorem openGroup_inside {cs r : List Char} (h : st.openGroup cs = some (st', r))
    (hr : Remains st'.mode r) (hn : st'.names = []) (outer : List Group) (names : List String)
    (x : List Char) : (st.inside outer names).openGroup (cs ++ ')' :: x) =
      some (st'.inside outer names, r ++ ')' :: x) := by
  unfold openGroup at h ⊢
  rw [show (st.inside outer names).mode = st.mode from rfl]
  split at h
  · cases h
  · cases h
  · cases h
  · cases h
  · exact (names_enterNamed h hn).elim
  · exact (names_enterNamed h hn).elim
  -- flags, as nothing else follows a question mark
  · next rest _ _ _ _ _ _ hcs =>
    rw [skipSpace_append (hcs ▸ remains_cons _ _ _), hcs]
    cases rest with
    | nil => cases h
    | cons c rest =>
      cases hf : readFlags ⟨st.mode, [], false, false⟩ (c :: rest) with
      | none =>
        rw [hf] at h
        cases h
      | some p =>
        obtain ⟨f, group, rest'⟩ := p
        have hc : c ∉ ['=', '!', '<', 'P'] := by
          intro hc
          rw [readFlags_eq_none hc] at hf
          cases hf
        simp only [List.mem_cons, List.not_mem_nil, or_false, not_or] at hc
        have hf' := readFlags_append hf (')' :: x)
        rw [List.cons_append] at hf'
        rw [hf] at h
        simp only [List.cons_append, List.cons.injEq, hc, hf', false_and, imp_self,
          implies_true]
        cases group with
        | true =>
          cases h
          rfl
        | false =>
          simp only at h ⊢
          split at h
          · cases h
          · next hnamed =>
            cases h
            rw [if_neg hnamed]
            rfl
  -- a group without a name
  · next hother =>
    cases h
    have hskip : Remains st.mode (skipSpace st.mode cs) := hr
    rw [skipSpace_append hskip]
    cases hcs : skipSpace st.mode cs with
    | nil => rfl
    | cons c rest =>
      have hc : c ≠ '?' := fun hc => hother rest (by rw [hcs, hc])
      simp only [List.cons_append, List.cons.injEq, hc, false_and, imp_self, implies_true]
      rfl

theorem step_inside {c : Char} {rest r : List Char} (h : st.step c rest = some (st', r))
    (hr : Remains st'.mode r) (hn : st'.names = []) (outer : List Group) (names : List String)
    (x : List Char) : (st.inside outer names).step c (rest ++ ')' :: x) =
      some (st'.inside outer names, r ++ ')' :: x) := by
  unfold step at h ⊢
  rw [show (st.inside outer names).mode = st.mode from rfl]
  split at h
  · exact openGroup_inside h hr hn outer names x
  · obtain ⟨st₁, h₁, heq⟩ := Option.map_eq_some_iff.1 h
    cases heq
    simp [closeGroup_inside h₁]
  · cases h
    rfl
  · obtain ⟨⟨o, r'⟩, h₁, heq⟩ := Option.map_eq_some_iff.1 h
    cases heq
    simp only
    rw [stable_readClass h₁ hr]
    rfl
  · exact repeatLast_inside h outer names x
  · exact repeatLast_inside h outer names x
  · exact repeatLast_inside h outer names x
  · split at h
    · next low high rest' hbounds =>
      obtain ⟨hmode, hnil⟩ := repeatLast_spec h
      rw [hmode] at hr
      have hskip : Remains st.mode (skipSpace st.mode rest') := fun hv hcs => hr hv (hnil hcs)
      rw [readBounds_append hbounds]
      simp only
      rw [skipSpace_append hskip]
      exact repeatLast_inside h outer names x
    · cases h
  · split at h
    · next p rest' hescape =>
      obtain ⟨st₁, h₁, heq⟩ := Option.map_eq_some_iff.1 h
      cases heq
      rw [mode_primitive h₁] at hr
      rw [stable_readEscape hescape hr]
      simp only [primitive_inside h₁, Option.map_some]
    · cases h
  · split at h
    · next hu =>
      cases h
      simp only [if_pos hu]
      rfl
    · cases h
  · cases h
    rfl
  · cases h
    rfl
  · cases h
    rfl

/-! ## Moves -/

/-- What a step may do to a state. -/
inductive Moves (st : State) : State → Prop
  /-- An expression without groups is added. -/
  | push {r : Regex} (h : r.names = []) (nest : Nat) : Moves st (st.push r nest)
  /-- The last expression is repeated. -/
  | repeats {b : Built} {items : List Item} (h : st.items = .part b :: items) (greedy : Bool)
      (low : Nat) (high : Option Nat) (nest : Nat) :
      Moves st { st with items := .part ⟨times greedy low high b.regex, nest⟩ :: items }
  | close {st' : State} (h : st.closeGroup = some st') : Moves st st'
  | bar : Moves st st.bar
  | enter (captures : Bool) (mode : Mode) : Moves st (st.enter captures none mode)
  | flags (mode : Mode) : Moves st { st with mode := mode, items := .flags :: st.items }
  | named (name : String) :
      Moves st ({ st with names := name :: st.names }.enter true (some name) st.mode)

theorem names_ofSet (s : Unicode.RangeSet) : (ofSet s).names = [] := by
  unfold ofSet
  split <;> rfl

theorem names_character (m : Mode) (c : Char) : (character m c).names = [] := by
  unfold character
  split
  · rfl
  · split <;> exact names_ofSet _

theorem moves_primitive {p : Primitive} (h : st.primitive p = some st') : st.Moves st' := by
  unfold primitive at h
  cases p with
  | char c byte =>
    simp only at h
    split at h
    · cases h
    · cases h
      exact .push (names_character _ c) 0
  | set s =>
    cases h
    exact .push (names_ofSet s) 0
  | look l =>
    cases h
    exact .push rfl 0

theorem moves_repeatLast {low : Nat} {high : Option Nat} {cs r : List Char}
    (h : st.repeatLast low high cs = some (st', r)) : st.Moves st' := by
  unfold repeatLast at h
  split at h
  · next hitems =>
    cases h
    exact .repeats hitems _ low high _
  · cases h

theorem moves_enterNamed {cs r : List Char} (h : st.enterNamed cs = some (st', r)) :
    st.Moves st' := by
  unfold enterNamed at h
  split at h
  · cases h
  · cases h
  · simp only at h
    split at h
    · cases h
    · cases h
      exact .named _

theorem moves_openGroup {cs r : List Char} (h : st.openGroup cs = some (st', r)) :
    st.Moves st' := by
  unfold openGroup at h
  split at h
  · cases h
  · cases h
  · cases h
  · cases h
  · exact moves_enterNamed h
  · exact moves_enterNamed h
  · split at h
    · cases h
    · cases h
      exact .enter false _
    · split at h
      · cases h
      · cases h
        exact .flags _
  · cases h
    exact .enter true _

/-- Every step is one of the moves. -/
theorem moves_of_step {c : Char} {rest r : List Char} (h : st.step c rest = some (st', r)) :
    st.Moves st' := by
  unfold step at h
  split at h
  · exact moves_openGroup h
  · obtain ⟨st₁, h₁, heq⟩ := Option.map_eq_some_iff.1 h
    cases heq
    exact .close h₁
  · cases h
    exact .bar
  · obtain ⟨_, _, heq⟩ := Option.map_eq_some_iff.1 h
    cases heq
    exact .push (names_ofSet _) _
  · exact moves_repeatLast h
  · exact moves_repeatLast h
  · exact moves_repeatLast h
  · split at h
    · exact moves_repeatLast h
    · cases h
  · split at h
    · obtain ⟨st₁, h₁, heq⟩ := Option.map_eq_some_iff.1 h
      cases heq
      exact moves_primitive h₁
    · cases h
  · split at h
    · cases h
      exact .push (names_ofSet _) 0
    · cases h
  · cases h
    exact .push rfl 0
  · cases h
    exact .push rfl 0
  · cases h
    exact .push (names_character _ _) 0

/-- Names that are taken stay taken. -/
theorem Moves.names (h : st.Moves st') (hn : st'.names = []) : st.names = [] := by
  cases h with
  | close hclose =>
    unfold closeGroup at hclose
    split at hclose
    · cases hclose
    · cases hclose
      exact hn
  | named => cases hn
  | _ => exact hn

/-! ## Unnamed groups -/

/-- Items without named groups. -/
def Unnamed (items : List Item) : Prop := ∀ b : Built, .part b ∈ items → b.regex.names = []

/-- No named group has been read. -/
structure Nameless (st : State) : Prop where
  items : Unnamed st.items
  alternatives : ∀ b ∈ st.alternatives, b.regex.names = []
  outer : ∀ g ∈ st.outer, g.name = none ∧ Unnamed g.items ∧
    ∀ b ∈ g.alternatives, b.regex.names = []

theorem names_times {r : Regex} (h : r.names = []) (greedy : Bool) (low : Nat)
    (high : Option Nat) : (times greedy low high r).names = [] := by
  unfold times
  simp only
  split
  · rfl
  · exact h
  · exact h

theorem hereditary_names : Hereditary fun r => r.names = [] where
  empty := rfl
  literal _ := rfl
  seq := List.append_eq_nil_iff
  branches := forall_mem_branches (p := fun r => r.names = []) fun _ _ => List.append_eq_nil_iff.1

theorem Unnamed.concatenate {items : List Item} (h : Unnamed items) :
    (concatenate items).regex.names = [] := by
  refine hereditary_names.concat_iff.2 fun r hr => ?_
  obtain ⟨b, hb, rfl⟩ := List.mem_map.1 hr
  obtain ⟨i, hi, hib⟩ := List.mem_filterMap.1 hb
  cases i with
  | part a =>
    cases hib
    exact h b (List.mem_reverse.1 hi)
  | flags => cases hib

theorem names_anyOf {rs : List Regex} (h : ∀ r ∈ rs, r.names = []) : (anyOf rs).names = [] :=
  hereditary_names.anyOf rfl (fun _ _ hr hs => List.append_eq_nil_iff.2 ⟨hr, hs⟩)
    (fun _ s _ _ => names_ofSet s) h

theorem names_alternate {alternatives : List Built} {last : Built}
    (h : ∀ b ∈ alternatives, b.regex.names = []) (hlast : last.regex.names = []) :
    (alternate alternatives last).regex.names = [] := by
  unfold alternate
  split
  · exact hlast
  · refine names_anyOf fun r hr => ?_
    obtain ⟨b, hb, rfl⟩ := List.mem_map.1 hr
    rcases List.mem_append.1 hb with hb | hb
    · exact h b (List.mem_reverse.1 hb)
    · rwa [List.mem_singleton.1 hb]

theorem Unnamed.cons {items : List Item} (h : Unnamed items) {i : Item}
    (hi : ∀ b : Built, .part b = i → b.regex.names = []) : Unnamed (i :: items) := by
  intro b hb
  rcases List.mem_cons.1 hb with heq | hb
  · exact hi b heq
  · exact h b hb

theorem Unnamed.nil : Unnamed [] := fun _ h => (List.not_mem_nil h).elim

namespace Nameless

theorem initial : State.initial.Nameless :=
  ⟨.nil, fun _ h => (List.not_mem_nil h).elim, fun _ h => (List.not_mem_nil h).elim⟩

theorem innermost (h : st.Nameless) :
    (alternate st.alternatives (concatenate st.items)).regex.names = [] :=
  names_alternate h.alternatives h.items.concatenate

theorem move (hst : st.Nameless) (h : st.Moves st') (hn : st'.names = []) : st'.Nameless := by
  obtain ⟨hitems, halternatives, houter⟩ := hst
  cases h with
  | push hr nest =>
    refine ⟨hitems.cons fun b hb => ?_, halternatives, houter⟩
    cases hb
    exact hr
  | @repeats b items h greedy low high nest =>
    rw [h] at hitems
    refine ⟨Unnamed.cons (fun a ha => hitems a (List.mem_cons_of_mem _ ha)) fun a ha => ?_,
      halternatives, houter⟩
    cases ha
    exact names_times (hitems b List.mem_cons_self) greedy low high
  | close hclose =>
    unfold closeGroup at hclose
    split at hclose
    · cases hclose
    · next g gs ho =>
      cases hclose
      rw [ho] at houter
      obtain ⟨⟨hname, hg, halts⟩, hgs⟩ := List.forall_mem_cons.1 houter
      have hb := names_alternate halternatives hitems.concatenate
      refine ⟨hg.cons fun b hpart => ?_, halts, hgs⟩
      cases hpart
      cases g.captures with
      | true => simp [Regex.names, hname, hb]
      | false => exact hb
  | bar =>
    exact ⟨.nil, List.forall_mem_cons.2 ⟨hitems.concatenate, halternatives⟩, houter⟩
  | enter captures mode =>
    refine ⟨.nil, fun _ h => (List.not_mem_nil h).elim, ?_⟩
    exact List.forall_mem_cons.2 ⟨⟨rfl, hitems, halternatives⟩, houter⟩
  | flags mode =>
    refine ⟨hitems.cons fun b hpart => ?_, halternatives, houter⟩
    cases hpart
  | named => cases hn

end Nameless

/-! ## Runs -/

theorem run_cons {n : Nat} {cs rest r : List Char} {c : Char}
    (hcs : skipSpace st.mode cs = c :: rest) (h : st.step c rest = some (st', r)) :
    st.run (n + 1) cs = st'.run n r := by
  rw [run.eq_def]
  simp only [hcs, h]

theorem run_of_skipSpace {n : Nat} {cs : List Char} (hcs : skipSpace st.mode cs = []) :
    st.run n cs = some st := by
  rw [run.eq_def]
  simp only [hcs]

/-- A run takes its first step, or there is nothing left to read. -/
theorem run_cases {n : Nat} {cs : List Char} (h : st.run n cs = some q) :
    (skipSpace st.mode cs = [] ∧ q = st) ∨ ∃ k c rest st' r, n = k + 1 ∧
      skipSpace st.mode cs = c :: rest ∧ st.step c rest = some (st', r) ∧
      st'.run k r = some q := by
  cases hcs : skipSpace st.mode cs with
  | nil =>
    rw [run_of_skipSpace hcs] at h
    cases h
    exact .inl ⟨rfl, rfl⟩
  | cons c rest =>
    rw [run.eq_def] at h
    simp only [hcs] at h
    cases n with
    | zero => cases h
    | succ n =>
      simp only at h
      cases hstep : st.step c rest with
      | none =>
        rw [hstep] at h
        cases h
      | some p =>
        obtain ⟨st', r⟩ := p
        rw [hstep] at h
        exact .inr ⟨n, c, rest, st', r, rfl, rfl, hstep, h⟩

theorem names_run {n : Nat} {cs : List Char} (h : st.run n cs = some q) (hn : q.names = []) :
    st.names = [] := by
  induction n generalizing st cs with
  | zero =>
    rcases run_cases h with ⟨_, rfl⟩ | ⟨_, _, _, _, _, hk, _⟩
    · exact hn
    · cases hk
  | succ n ih =>
    rcases run_cases h with ⟨_, rfl⟩ | ⟨k, c, rest, st', r, hk, _, hstep, hrun⟩
    · exact hn
    · cases hk
      exact (moves_of_step hstep).names (ih hrun)

theorem Nameless.run {n : Nat} {cs : List Char} (hst : st.Nameless) (h : st.run n cs = some q)
    (hn : q.names = []) : q.Nameless := by
  induction n generalizing st cs with
  | zero =>
    rcases run_cases h with ⟨_, rfl⟩ | ⟨_, _, _, _, _, hk, _⟩
    · exact hst
    · cases hk
  | succ n ih =>
    rcases run_cases h with ⟨_, rfl⟩ | ⟨k, c, rest, st', r, hk, _, hstep, hrun⟩
    · exact hst
    · cases hk
      exact ih (hst.move (moves_of_step hstep) (names_run hrun hn)) hrun

/-- A run that does not end in verbose mode is the same within open groups, up to a parenthesis
behind its text. Steps that are left before are left after it. -/
theorem run_inside {n : Nat} {cs : List Char} (h : st.run n cs = some q)
    (hv : q.mode.verbose = false) (hn : q.names = []) (outer : List Group) (names : List String)
    (k : Nat) (x : List Char) : ∃ fuel, k ≤ fuel ∧
      (st.inside outer names).run (n + k) (cs ++ ')' :: x) =
        (q.inside outer names).run fuel (')' :: x) := by
  induction n generalizing st cs with
  | zero =>
    rcases run_cases h with ⟨hcs, rfl⟩ | ⟨_, _, _, _, _, hk, _⟩
    · rw [skipSpace, hv] at hcs
      cases hcs
      exact ⟨0 + k, Nat.le_add_left k 0, rfl⟩
    · cases hk
  | succ n ih =>
    rcases run_cases h with ⟨hcs, rfl⟩ | ⟨_, c, rest, st', r, hk, hcs, hstep, hrun⟩
    · rw [skipSpace, hv] at hcs
      cases hcs
      exact ⟨n + 1 + k, Nat.le_add_left k _, rfl⟩
    · cases hk
      -- in verbose mode there is more to read, as the run does not end in it
      have hr : Remains st'.mode r := by
        rintro hverbose rfl
        rw [run_of_skipSpace skipSpace_nil] at hrun
        cases hrun
        rw [hv] at hverbose
        cases hverbose
      have hstep' := step_inside hstep hr (names_run hrun hn) outer names x
      have hcs' := skipSpace_append (hcs ▸ remains_cons _ c rest) (')' :: x)
      rw [hcs, List.cons_append] at hcs'
      obtain ⟨fuel, hfuel, heq⟩ := ih hrun
      refine ⟨fuel, hfuel, ?_⟩
      rw [← heq, Nat.add_right_comm]
      exact run_cons hcs' hstep'

end State

/-! ## Complete patterns -/

theorem State.inNamed_eq (st : State) (hm : st.mode = .initial) (n : Nat) :
    st.inNamed n = State.initial.inside
      (⟨true, some (groupName n), .initial, st.items, st.alternatives⟩ :: st.outer)
      (groupName n :: st.names) := by
  rw [State.inNamed, hm]
  rfl

theorem step_close_inside {st q : State} {b : Built} (hb : q.finish = some b)
    (hm : st.mode = .initial) (n : Nat) (rest : List Char) : (q.inside
        (⟨true, some (groupName n), .initial, st.items, st.alternatives⟩ :: st.outer)
        (groupName n :: st.names)).step ')' rest =
      some (st.extend [⟨.group (some (groupName n)) b.regex, b.nest + 1⟩]
        (groupName n :: st.names), rest) := by
  unfold State.finish at hb
  split at hb
  · next ho =>
    cases hb
    rw [step_close, State.closeGroup]
    simp [State.inside, State.extend, ho, hm]
  · cases hb

/-- What a pattern is read as that is well-formed by itself, names no groups and does not end in
verbose mode, is also what it is read as in a named group. -/
theorem encloses_of_run {pattern : List Char} {q : State} {b : Built}
    (h : State.initial.run pattern.length pattern = some q) (hv : q.mode.verbose = false)
    (hn : q.names = []) (hb : q.finish = some b) : Encloses pattern b.regex := by
  intro st n hm
  refine ⟨b.nest + 1, fun rest fuel hfuel => ?_⟩
  simp only [List.append_assoc, List.length_append, List.singleton_append,
    List.length_cons] at hfuel ⊢
  obtain ⟨k, rfl⟩ : ∃ k, fuel = pattern.length + k := ⟨fuel - pattern.length, by omega⟩
  obtain ⟨fuel', hle, heq⟩ := State.run_inside h hv hn
    (⟨true, some (groupName n), .initial, st.items, st.alternatives⟩ :: st.outer)
    (groupName n :: st.names) k rest
  -- the parenthesis closes the named group, as no group of the pattern is left open
  obtain ⟨m, rfl⟩ : ∃ m, fuel' = m + 1 := ⟨fuel' - 1, by omega⟩
  refine ⟨m, by omega, ?_⟩
  rw [st.inNamed_eq hm, heq]
  refine State.run_cons ?_ (step_close_inside hb hm n rest)
  show skipSpace q.mode (')' :: rest) = _
  rw [skipSpace, hv]
  rfl

/-- The expression of a pattern that is well-formed by itself, names no groups and does not end in
verbose mode. -/
def complete? (pattern : List Char) : Option Regex :=
  match State.initial.run pattern.length pattern with
  | some q => if q.mode.verbose || !q.names.isEmpty then none else q.finish.map Built.regex
  | none => none

theorem exists_run_of_complete? {pattern : List Char} {r : Regex}
    (h : complete? pattern = some r) : ∃ q b,
      State.initial.run pattern.length pattern = some q ∧ q.mode.verbose = false ∧ q.names = [] ∧
        q.finish = some b ∧ b.regex = r := by
  unfold complete? at h
  split at h
  · next q hrun =>
    split at h
    · cases h
    · next hq =>
      obtain ⟨b, hb, rfl⟩ := Option.map_eq_some_iff.1 h
      have hq : q.mode.verbose = false ∧ q.names = [] := by simpa using hq
      exact ⟨q, b, hrun, hq.1, hq.2, hb, rfl⟩
  · cases h

/-- A complete pattern is read as its expression in all named groups. -/
theorem encloses_of_complete? {pattern : List Char} {r : Regex} (h : complete? pattern = some r) :
    Encloses pattern r := by
  obtain ⟨q, b, hrun, hv, hn, hb, rfl⟩ := exists_run_of_complete? h
  exact encloses_of_run hrun hv hn hb

theorem names_of_complete? {pattern : List Char} {r : Regex} (h : complete? pattern = some r) :
    r.names = [] := by
  obtain ⟨q, b, hrun, _, hn, hb, rfl⟩ := exists_run_of_complete? h
  have hnone := (State.Nameless.initial.run hrun hn).innermost
  unfold State.finish at hb
  split at hb
  · cases hb
    exact hnone
  · cases hb

end RequestBinding.Regex
