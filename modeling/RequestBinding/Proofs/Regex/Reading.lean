import RequestBinding.Regex.Syntax

/-!
# Reading pieces of patterns

A pattern that is put together from pieces is read piece by piece, and each piece adds its own
parts to the current concatenation, whatever stands before and after it. The pieces are escaped
text, named groups, and groups of branches.

## Main definitions

* `State.Reads` - reading a text takes one state to another
* `ReadsAs` - a text is read as certain parts
* `Encloses` - a pattern in a named group is read as a certain expression
* `ReadsBranches` - a text with bars is read as certain branches
* `parse?` - what a whole pattern is read as

## Main statements

* `readsAs_escape`, `readsAs_named`, `readsAs_branches` - the pieces
* `exists_parse?_of_readsAs` - anchored patterns are well-formed
* `eq_concat_of_read?` - the expression of an anchored pattern
-/

namespace RequestBinding.Regex

/-! ## Steps -/

/-- Reading a text takes one state to another, whatever follows. Every character is worth a step, so
that the steps that are left always suffice for the characters that are left. -/
def State.Reads (st : State) (cs : List Char) (st' : State) : Prop :=
  ∀ rest fuel, (cs ++ rest).length ≤ fuel →
    ∃ fuel', rest.length ≤ fuel' ∧ st.run fuel (cs ++ rest) = st'.run fuel' rest

namespace State

variable {st st₁ st₂ : State}

theorem Reads.refl (st : State) : st.Reads [] st := fun _ fuel h => ⟨fuel, h, rfl⟩

theorem Reads.trans {cs ds : List Char} (h : st.Reads cs st₁) (h' : st₁.Reads ds st₂) :
    st.Reads (cs ++ ds) st₂ := by
  intro rest fuel hfuel
  rw [List.append_assoc] at hfuel ⊢
  obtain ⟨fuel₁, h₁, hrun₁⟩ := h (ds ++ rest) fuel hfuel
  obtain ⟨fuel₂, h₂, hrun₂⟩ := h' rest fuel₁ h₁
  exact ⟨fuel₂, h₂, hrun₁.trans hrun₂⟩

theorem run_succ (hm : st.mode.verbose = false) {c : Char} {rest rest' : List Char}
    (h : st.step c rest = some (st₁, rest')) (fuel : Nat) :
    st.run (fuel + 1) (c :: rest) = st₁.run fuel rest' := by
  rw [State.run.eq_def]
  simp [skipSpace, hm, h]

theorem run_nil (hm : st.mode.verbose = false) (fuel : Nat) : st.run fuel [] = some st := by
  rw [State.run.eq_def]
  simp [skipSpace, hm]

/-- A step that looks ahead at most as far as `ds`. -/
theorem Reads.of_step (hm : st.mode.verbose = false) {c : Char} {cs ds : List Char}
    (h : ∀ rest, st.step c (cs ++ (ds ++ rest)) = some (st₁, ds ++ rest))
    (h' : st₁.Reads ds st₂) : st.Reads (c :: cs ++ ds) st₂ := by
  intro rest fuel hfuel
  simp only [List.cons_append, List.append_assoc, List.length_cons, List.length_append] at hfuel ⊢
  -- the character itself is worth a step, so there is fuel for one
  obtain ⟨fuel, rfl⟩ : ∃ n, fuel = n + 1 := ⟨fuel - 1, by omega⟩
  obtain ⟨fuel', h₁, hrun⟩ := h' rest fuel (by rw [List.length_append]; omega)
  exact ⟨fuel', h₁, (run_succ hm (h rest) fuel).trans hrun⟩

/-- A step that does not look ahead. -/
theorem Reads.step (hm : st.mode.verbose = false) {c : Char} {cs : List Char}
    (h : ∀ rest, st.step c (cs ++ rest) = some (st₁, rest)) : st.Reads (c :: cs) st₁ := by
  have hend : st.Reads (c :: cs ++ []) st₁ := Reads.of_step hm h (Reads.refl st₁)
  rwa [List.append_nil] at hend

/-- A step that takes a single character. -/
theorem Reads.single {c : Char} (h : ∀ rest, st.step c rest = some (st₁, rest))
    (hm : st.mode.verbose = false) : st.Reads [c] st₁ := Reads.step hm h

/-! ## Parts -/

/-- A state with more parts in the current concatenation, given in the order of the pattern, and
with certain names taken. -/
def extend (st : State) (bs : List Built) (names : List String) : State :=
  { st with items := bs.reverse.map .part ++ st.items, names := names }

theorem extend_extend (st : State) (bs bs' : List Built) (names names' : List String) :
    (st.extend bs names).extend bs' names' = st.extend (bs ++ bs') names' := by
  simp [extend]

@[simp] theorem extend_mode (st : State) (bs : List Built) (names : List String) :
    (st.extend bs names).mode = st.mode := rfl

theorem extend_nil (st : State) : st.extend [] st.names = st := rfl

end State

theorem itemParts_parts (bs : List Built) : itemParts (bs.reverse.map .part) = bs := by
  rw [itemParts, ← List.map_reverse, List.reverse_reverse, List.filterMap_map]
  exact List.filterMap_some

/-- A concatenation of items that are all parts. -/
theorem concatenate_parts (bs : List Built) :
    (concatenate (bs.reverse.map .part)).regex = concat (bs.map Built.regex) := by
  show concat ((itemParts (bs.reverse.map .part)).map Built.regex) = _
  rw [itemParts_parts]

/-! ## Names of groups -/

/-- The name of the group with a number. -/
def groupName (n : Nat) : String := "c" ++ toString n

theorem groupName_toList (n : Nat) : (groupName n).toList = 'c' :: Nat.toDigits 10 n := by
  simp [groupName]

theorem groupName_injective {i j : Nat} (h : groupName i = groupName j) : i = j := by
  have hd : Nat.toDigits 10 i = Nat.toDigits 10 j := by
    have := congrArg String.toList h
    rw [groupName_toList, groupName_toList] at this
    exact (List.cons.inj this).2
  calc i = Nat.ofDigitChars 10 (Nat.toDigits 10 i) 0 := Nat.ofDigitChars_ten_toDigits.symm
    _ = Nat.ofDigitChars 10 (Nat.toDigits 10 j) 0 := by rw [hd]
    _ = j := Nat.ofDigitChars_ten_toDigits

/-- All names that are taken belong to groups with numbers below a bound. -/
def NamesBelow (n : Nat) (names : List String) : Prop := ∀ name ∈ names, ∃ i < n, name = groupName i

theorem NamesBelow.not_mem {n : Nat} {names : List String} (h : NamesBelow n names) :
    groupName n ∉ names := by
  intro hmem
  obtain ⟨i, hi, heq⟩ := h _ hmem
  have := groupName_injective heq
  omega

theorem NamesBelow.cons {n : Nat} {names : List String} (h : NamesBelow n names) :
    NamesBelow (n + 1) (groupName n :: names) := by
  intro name hname
  rcases List.mem_cons.1 hname with rfl | hname
  · exact ⟨n, Nat.lt_succ_self n, rfl⟩
  · obtain ⟨i, hi, rfl⟩ := h name hname
    exact ⟨i, Nat.lt_succ_of_lt hi, rfl⟩

theorem isNameChar_of_isDigit {c : Char} (h : c.isDigit = true) : isNameChar false c = true := by
  have hlt : c.toNat < 0x80 := by
    have hle : c.val ≤ '9'.val := of_decide_eq_true (Bool.and_eq_true_iff.1 h).2
    exact Nat.lt_of_le_of_lt (UInt32.le_iff_toNat_le.1 hle) (by decide)
  simp [isNameChar, Unicode.isAlphanumeric, Unicode.isNumeric, hlt, h]

theorem readName_digits {cs : List Char} (h : ∀ c ∈ cs, c.isDigit = true) (rest : List Char) :
    readName false (cs ++ '>' :: rest) = some (cs, rest) := by
  induction cs with
  | nil => rfl
  | cons c cs ih =>
    have hc := h c List.mem_cons_self
    have hne : (c == '>') = false := by
      rw [beq_eq_false_iff_ne]
      rintro rfl
      revert hc
      decide
    rw [List.cons_append, readName, hne, if_neg Bool.false_ne_true,
      if_pos (isNameChar_of_isDigit hc), ih fun d hd => h d (List.mem_cons_of_mem c hd)]
    rfl

theorem readName_groupName (n : Nat) (rest : List Char) :
    readName true ((groupName n).toList ++ '>' :: rest) = some ((groupName n).toList, rest) := by
  rw [groupName_toList, List.cons_append, readName,
    readName_digits fun c hc => Nat.isDigit_of_mem_toDigits (by decide) (by decide) hc]
  rfl

/-! ## Pieces -/

/-- A text is read as certain parts, if the names that are taken before belong to groups below the
first number; afterwards they belong to groups below the second one. -/
def ReadsAs (text : List Char) (rs : List Regex) (low high : Nat) : Prop :=
  ∀ st : State, st.mode = .initial → NamesBelow low st.names →
    ∃ bs names, st.Reads text (st.extend bs names) ∧ bs.map Built.regex = rs ∧
      NamesBelow high names

theorem readsAs_nil (n : Nat) : ReadsAs [] [] n n := by
  intro st _ hn
  refine ⟨[], st.names, ?_, rfl, hn⟩
  rw [State.extend_nil]
  exact State.Reads.refl st

theorem ReadsAs.append {s t : List Char} {rs qs : List Regex} {i j k : Nat}
    (hs : ReadsAs s rs i j) (ht : ReadsAs t qs j k) : ReadsAs (s ++ t) (rs ++ qs) i k := by
  intro st hm hn
  obtain ⟨bs, names, hr, rfl, hn⟩ := hs st hm hn
  obtain ⟨bs', names', hr', rfl, hn'⟩ := ht (st.extend bs names) hm hn
  rw [State.extend_extend] at hr'
  exact ⟨bs ++ bs', names', hr.trans hr', List.map_append, hn'⟩

/-! ## Escaped text -/

theorem readEscape_meta {c : Char} (h : isMeta c = true) (rest : List Char) :
    readEscape .initial (c :: rest) = some (.char c false, rest) := by
  rw [isMeta, List.contains_iff_mem] at h
  simp only [List.mem_cons, List.not_mem_nil, or_false] at h
  rcases h with rfl | rfl | rfl | rfl | rfl | rfl | rfl | rfl | rfl | rfl | rfl | rfl | rfl | rfl |
    rfl | rfl | rfl | rfl <;> rfl

theorem step_escape {st : State} {p : Primitive} {cs rest : List Char}
    (h : readEscape st.mode cs = some (p, rest)) :
    st.step '\\' cs = (st.primitive p).map (·, rest) := by
  unfold State.step
  simp only [h]

theorem step_of_not_meta {st : State} (hm : st.mode = .initial) {c : Char} (h : isMeta c = false)
    (rest : List Char) : st.step c rest = some (st.push (.literal [c]) 0, rest) := by
  have hc : character st.mode c = .literal [c] := by
    rw [hm]
    rfl
  unfold State.step
  split
  case h_13 => rw [hc]
  all_goals exact absurd h (by decide)

theorem push_eq_extend (st : State) (r : Regex) (nest : Nat) :
    st.push r nest = st.extend [⟨r, nest⟩] st.names := rfl

/-- An escaped character is read as itself. -/
theorem readsAs_char (c : Char) (n : Nat) : ReadsAs (escape [c]) [.literal [c]] n n := by
  intro st hm hn
  refine ⟨[⟨.literal [c], 0⟩], st.names, ?_, rfl, hn⟩
  have hv : st.mode.verbose = false := by
    rw [hm]
    rfl
  rw [← push_eq_extend]
  by_cases hc : isMeta c = true
  · have he : escape [c] = ['\\', c] := by simp [escape, hc]
    rw [he]
    refine .step hv fun rest => ?_
    have hread : readEscape st.mode ([c] ++ rest) = some (.char c false, rest) := by
      rw [hm]
      exact readEscape_meta hc rest
    have hch : character st.mode c = .literal [c] := by
      rw [hm]
      rfl
    rw [step_escape hread]
    simp [State.primitive, hch]
  · rw [Bool.not_eq_true] at hc
    have he : escape [c] = [c] := by simp [escape, hc]
    rw [he]
    exact .single (step_of_not_meta hm hc) hv

/-- Escaped text is read as itself, one character at a time. -/
theorem readsAs_escape (text : List Char) (n : Nat) :
    ReadsAs (escape text) (text.map fun c => .literal [c]) n n := by
  induction text with
  | nil => exact readsAs_nil n
  | cons c text ih =>
    have hsplit : escape (c :: text) = escape [c] ++ escape text := by simp [escape]
    rw [hsplit]
    exact (readsAs_char c n).append ih

/-! ## Named groups -/

theorem skipSpace_initial (cs : List Char) : skipSpace .initial cs = cs := rfl

/-- The state within the named group with a number. -/
def State.inNamed (st : State) (n : Nat) : State :=
  { st with names := groupName n :: st.names }.enter true (some (groupName n)) st.mode

/-- A pattern and a closing parenthesis are read in a named group as a certain expression. -/
def Encloses (pattern : List Char) (r : Regex) : Prop :=
  ∀ (st : State) (n : Nat), st.mode = .initial → ∃ nest, (st.inNamed n).Reads (pattern ++ [')'])
    (st.extend [⟨.group (some (groupName n)) r, nest⟩] (groupName n :: st.names))

theorem step_openNamed {st : State} (hm : st.mode = .initial) {n : Nat}
    (hn : NamesBelow n st.names) (rest : List Char) :
    st.step '(' ('?' :: 'P' :: '<' :: ((groupName n).toList ++ '>' :: rest)) =
      some (st.inNamed n, rest) := by
  have hopen : st.step '(' ('?' :: 'P' :: '<' :: ((groupName n).toList ++ '>' :: rest)) =
      st.enterNamed ((groupName n).toList ++ '>' :: rest) := by
    show st.openGroup _ = _
    rw [State.openGroup, hm, skipSpace_initial]
    rfl
  have hname : String.ofList (groupName n).toList = groupName n := String.ofList_toList
  have hfree : st.names.contains (groupName n) = false := by
    rw [List.contains_eq_mem, decide_eq_false_iff_not]
    exact hn.not_mem
  rw [hopen, State.enterNamed, readName_groupName]
  rw [groupName_toList] at hname ⊢
  simp only [hname, hfree]
  rfl

theorem step_close (st : State) (rest : List Char) :
    st.step ')' rest = st.closeGroup.map (·, rest) := rfl

/-- A named group is read as a group of the expression in it. -/
theorem readsAs_named {pattern : List Char} {r : Regex} (h : Encloses pattern r) (n : Nat) :
    ReadsAs ('(' :: '?' :: 'P' :: '<' :: ((groupName n).toList ++ '>' :: (pattern ++ [')'])))
      [.group (some (groupName n)) r] n (n + 1) := by
  intro st hm hn
  have hv : st.mode.verbose = false := by
    rw [hm]
    rfl
  have hopen : st.Reads ('(' :: '?' :: 'P' :: '<' :: ((groupName n).toList ++ ['>']))
      (st.inNamed n) := by
    refine .step hv fun rest => ?_
    have := step_openNamed hm hn rest
    simpa using this
  obtain ⟨nest, hinner⟩ := h st n hm
  refine ⟨[⟨.group (some (groupName n)) r, nest⟩], groupName n :: st.names, ?_, rfl, hn.cons⟩
  simpa using hopen.trans hinner

/-! ## Groups of branches -/

/-- The alternation of the branches of a group. A group without any text in it has one branch. -/
def choiceOf : List Regex → Regex
  | [] => .empty
  | [r] => r
  | rs => anyOf rs

theorem alternate_regex (alternatives : List Built) (last : Built) :
    (alternate alternatives last).regex =
      choiceOf ((alternatives.reverse ++ [last]).map Built.regex) := by
  cases alternatives with
  | nil => rfl
  | cons b bs =>
    obtain ⟨c, d, cs, hcs⟩ : ∃ c d cs, (b :: bs).reverse ++ [last] = c :: d :: cs := by
      cases hrev : (b :: bs).reverse with
      | nil => simp at hrev
      | cons c cs =>
        cases cs with
        | nil => exact ⟨c, last, [], rfl⟩
        | cons d cs => exact ⟨c, d, cs ++ [last], rfl⟩
    show anyOf (((b :: bs).reverse ++ [last]).map Built.regex) = _
    rw [hcs]
    rfl

/-- The finished branches of the innermost group and the current one, in order. -/
def State.branches (st : State) : List Built := st.alternatives.reverse ++ [concatenate st.items]

/-- A text is read as certain branches where a branch begins. -/
def ReadsBranches (text : List Char) (rs : List Regex) (low high : Nat) : Prop :=
  ∀ st : State, st.mode = .initial → st.items = [] → NamesBelow low st.names →
    ∃ st', st.Reads text st' ∧ st'.mode = .initial ∧ st'.outer = st.outer ∧
      st'.branches.map Built.regex = st.alternatives.reverse.map Built.regex ++ rs ∧
      NamesBelow high st'.names

theorem ReadsAs.branch {text : List Char} {rs : List Regex} {i j : Nat}
    (h : ReadsAs text rs i j) : ReadsBranches text [concat rs] i j := by
  intro st hm hitems hn
  obtain ⟨bs, names, hr, rfl, hn⟩ := h st hm hn
  refine ⟨st.extend bs names, hr, hm, rfl, ?_, hn⟩
  simp [State.branches, State.extend, hitems, ← concatenate_parts]

theorem ReadsBranches.cons {s t : List Char} {rs qs : List Regex} {i j k : Nat}
    (hs : ReadsAs s rs i j) (ht : ReadsBranches t qs j k) :
    ReadsBranches (s ++ '|' :: t) (concat rs :: qs) i k := by
  intro st hm hitems hn
  obtain ⟨bs, names, hr, rfl, hn⟩ := hs st hm hn
  have hv : (st.extend bs names).mode.verbose = false := by
    rw [State.extend_mode, hm]
    rfl
  have hbar : (st.extend bs names).Reads ['|'] (st.extend bs names).bar :=
    .single (fun rest => rfl) hv
  obtain ⟨st', hr', hm', ho, hb, hn'⟩ := ht (st.extend bs names).bar hm rfl hn
  refine ⟨st', hr.trans (hbar.trans hr'), hm', ho, ?_, hn'⟩
  rw [hb]
  simp [State.bar, State.extend, hitems, ← concatenate_parts]

theorem step_openBranches {st : State} (hm : st.mode = .initial) (rest : List Char) :
    st.step '(' ('?' :: ':' :: rest) = some (st.enter false none st.mode, rest) := by
  show st.openGroup _ = _
  rw [State.openGroup, hm, skipSpace_initial]
  rfl

theorem step_closeBranches {st q : State} {mode : Mode} (h : q.outer =
    ⟨false, none, mode, st.items, st.alternatives⟩ :: st.outer) (rest : List Char) :
    q.step ')' rest = some (⟨mode, .part ⟨(alternate q.alternatives (concatenate q.items)).regex,
      (alternate q.alternatives (concatenate q.items)).nest + 1⟩ :: st.items, st.alternatives,
      st.outer, q.names⟩, rest) := by
  rw [step_close, State.closeGroup, h]
  rfl

/-- A group of branches is read as their alternation. -/
theorem readsAs_branches {text : List Char} {rs : List Regex} {i j : Nat}
    (h : ReadsBranches text rs i j) :
    ReadsAs ('(' :: '?' :: ':' :: (text ++ [')'])) [choiceOf rs] i j := by
  intro st hm hn
  have hv : st.mode.verbose = false := by
    rw [hm]
    rfl
  have hopen : st.Reads ['(', '?', ':'] (st.enter false none st.mode) :=
    .step hv (step_openBranches hm)
  obtain ⟨q, hr, hm', ho, hb, hn'⟩ := h (st.enter false none st.mode) hm rfl hn
  have hvq : q.mode.verbose = false := by
    rw [hm']
    rfl
  have hclose := State.Reads.single (step_closeBranches ho) hvq
  refine ⟨[⟨(alternate q.alternatives (concatenate q.items)).regex,
    (alternate q.alternatives (concatenate q.items)).nest + 1⟩], q.names, ?_, ?_, hn'⟩
  · simpa [State.extend] using hopen.trans (hr.trans hclose)
  · have hbranches : (q.alternatives.reverse ++ [concatenate q.items]).map Built.regex = rs := hb
    rw [List.map_singleton, alternate_regex, hbranches]

/-! ## Anchored patterns -/

/-- An anchor is read as a condition on its place. -/
theorem readsAs_look {c : Char} {l : Look} (h : ∀ st : State, st.mode = .initial → ∀ rest,
    st.step c rest = some (st.push (.look l) 0, rest)) (n : Nat) :
    ReadsAs [c] [.look l] n n := by
  intro st hm hn
  have hv : st.mode.verbose = false := by
    rw [hm]
    rfl
  exact ⟨[⟨.look l, 0⟩], st.names, .single (h st hm) hv, rfl, hn⟩

theorem readsAs_textStart (n : Nat) : ReadsAs ['^'] [.look .textStart] n n := by
  refine readsAs_look (fun st hm rest => ?_) n
  show some (st.push (.look (if st.mode.multiLine then _ else .textStart)) 0, rest) = _
  rw [hm]
  rfl

theorem readsAs_textEnd (n : Nat) : ReadsAs ['$'] [.look .textEnd] n n := by
  refine readsAs_look (fun st hm rest => ?_) n
  show some (st.push (.look (if st.mode.multiLine then _ else .textEnd)) 0, rest) = _
  rw [hm]
  rfl

/-- What a pattern is read as, with the nesting of its compound pieces; none if it is not
well-formed. -/
def parse? (pattern : List Char) : Option Built :=
  (State.initial.run pattern.length pattern).bind State.finish

theorem read?_eq (pattern : List Char) : read? pattern =
    (parse? pattern).bind fun b => if b.nest ≤ maxNesting then some b.regex else none := by
  rw [read?, parse?]
  cases (State.initial.run pattern.length pattern).bind State.finish <;> rfl

/-- Between anchors, a text that is read as certain parts makes up a well-formed pattern. -/
theorem exists_parse?_of_readsAs {text : List Char} {rs : List Regex} {n : Nat}
    (h : ReadsAs text rs 0 n) : ∃ b, parse? ('^' :: (text ++ ['$'])) = some b ∧
      b.regex = concat (.look .textStart :: (rs ++ [.look .textEnd])) := by
  have hall : ReadsAs ('^' :: (text ++ ['$'])) (.look .textStart :: (rs ++ [.look .textEnd])) 0 n :=
    (readsAs_textStart 0).append (h.append (readsAs_textEnd n))
  obtain ⟨bs, names, hreads, hbs, _⟩ :=
    hall .initial rfl fun _ hname => (List.not_mem_nil hname).elim
  -- nothing follows the pattern, and the fuel is its length
  obtain ⟨fuel, _, hrun⟩ := hreads [] _ (Nat.le_of_eq (by rw [List.append_nil]))
  rw [List.append_nil, State.run_nil rfl] at hrun
  have hfinish : (State.initial.extend bs names).finish =
      some (concatenate (bs.reverse.map .part)) := by
    simp [State.finish, State.extend, State.initial, alternate]
  exact ⟨_, by rw [parse?, hrun, Option.bind_some, hfinish], by rw [concatenate_parts, hbs]⟩

/-- What an anchored pattern is read as, if it is not too deep. -/
theorem eq_concat_of_read? {text : List Char} {rs : List Regex} {n : Nat}
    (h : ReadsAs text rs 0 n) {r : Regex} (hr : read? ('^' :: (text ++ ['$'])) = some r) :
    r = concat (.look .textStart :: (rs ++ [.look .textEnd])) := by
  obtain ⟨b, hb, hregex⟩ := exists_parse?_of_readsAs h
  rw [read?_eq, hb, Option.bind_some] at hr
  split at hr
  · cases hr
    exact hregex
  · cases hr

end RequestBinding.Regex
