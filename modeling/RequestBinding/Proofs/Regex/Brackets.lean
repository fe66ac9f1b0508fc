import RequestBinding.Proofs.Regex.Stability

/-!
# Bracketed sets do not depend on what follows

A bracketed set is read the same if a closing parenthesis and more text follow the pattern. A named
class is looked for up to the next colon and may be a class only by what follows, but no name of a
class has a parenthesis in it.

## Main statements

* `readAsciiClass_append` - named classes
* `stable_readRange` - members and ranges
* `ClassStep.next_append` - one step within brackets
* `stable_readClass` - bracketed sets
-/

namespace RequestBinding.Regex

open RequestBinding.Unicode

variable {m : Mode}

/-! ## Named classes -/

theorem not_mem_of_asciiClass {name : List Char} {s : RangeSet}
    (h : asciiClass (String.ofList name) = some s) : ')' ∉ name := by
  have hname : name = (String.ofList name).toList := String.toList_ofList.symm
  rw [hname]
  unfold asciiClass at h
  rw [Option.map_eq_some_iff] at h
  obtain ⟨_, h, _⟩ := h
  split at h
  case h_15 => cases h
  all_goals
    next heq =>
      rw [heq]
      decide

theorem asciiClass_eq_none {name : List Char} (h : ')' ∈ name) :
    asciiClass (String.ofList name) = none :=
  Option.eq_none_iff_forall_ne_some.2 fun _ hs => not_mem_of_asciiClass hs h

/-- A name that a colon ends is not changed by what follows, and one that nothing ends goes on with
the parenthesis. -/
theorem takeWhile_append (p : Char → Bool) (hp : p ')' = true) (cs x : List Char) :
    (cs.dropWhile p ≠ [] ∧ (cs ++ ')' :: x).dropWhile p = cs.dropWhile p ++ ')' :: x ∧
      (cs ++ ')' :: x).takeWhile p = cs.takeWhile p) ∨
    (cs.dropWhile p = [] ∧ ')' ∈ (cs ++ ')' :: x).takeWhile p) := by
  induction cs with
  | nil => simp [hp]
  | cons c cs ih =>
    cases hc : p c with
    | true =>
      simp only [List.cons_append, List.dropWhile_cons_of_pos hc, List.takeWhile_cons_of_pos hc]
      exact ih.imp (fun ⟨h, hd, ht⟩ => ⟨h, hd, congrArg (c :: ·) ht⟩) fun ⟨h, hm⟩ =>
        ⟨h, List.mem_cons_of_mem c hm⟩
    | false => simp [hc]

/-- What follows the colon of a named class and a caret, if there is one. -/
def namedClass (negated : Bool) (cs : List Char) : Option (Bool × RangeSet × List Char) :=
  match cs.dropWhile (· != ':') with
  | ':' :: ']' :: rest =>
    (asciiClass (String.ofList (cs.takeWhile (· != ':')))).map fun s => (negated, s, rest)
  | _ => none

theorem readAsciiClass_colon {cs : List Char} (h : cs.head? ≠ some '^') :
    readAsciiClass (':' :: cs) = namedClass false cs := by
  cases cs with
  | nil => rfl
  | cons c cs =>
    have hc : c ≠ '^' := fun hc => h (congrArg some hc)
    unfold readAsciiClass
    simp [hc]
    rfl

theorem readAsciiClass_other {c : Char} (h : c ≠ ':') (cs : List Char) :
    readAsciiClass (c :: cs) = none := by
  unfold readAsciiClass
  split
  · next heq => exact (h (List.cons.inj heq).1).elim
  · rfl

theorem namedClass_append (negated : Bool) (cs x : List Char) :
    namedClass negated (cs ++ ')' :: x) =
      (namedClass negated cs).map fun (b, s, r) => (b, s, r ++ ')' :: x) := by
  have hp : (')' != ':') = true := rfl
  unfold namedClass
  rcases takeWhile_append (· != ':') hp cs x with ⟨hne, hdrop, htake⟩ | ⟨hdrop, hname⟩
  · rw [hdrop, htake]
    rcases hcs : cs.dropWhile (· != ':') with _ | ⟨a, _ | ⟨b, r⟩⟩
    · exact (hne hcs).elim
    · by_cases ha : a = ':'
      · subst ha
        rfl
      · simp [ha]
    · by_cases hab : a = ':' ∧ b = ']'
      · obtain ⟨rfl, rfl⟩ := hab
        simp only [List.cons_append, Option.map_map]
        rfl
      · simp_all
  · rw [asciiClass_eq_none hname, hdrop]
    split <;> rfl

/-- Whether an ASCII class is named does not depend on what follows either. -/
theorem readAsciiClass_append (cs x : List Char) : readAsciiClass (cs ++ ')' :: x) =
    (readAsciiClass cs).map fun (b, s, r) => (b, s, r ++ ')' :: x) := by
  cases cs with
  | nil => rfl
  | cons c cs =>
    rw [List.cons_append]
    by_cases hc : c = ':'
    · subst hc
      by_cases hcaret : cs.head? = some '^'
      · obtain ⟨rest, rfl⟩ := List.head?_eq_some_iff.1 hcaret
        exact namedClass_append true rest x
      · rw [readAsciiClass_colon hcaret, readAsciiClass_colon, namedClass_append]
        cases cs with
        | nil => simp
        | cons d cs => exact hcaret
    · rw [readAsciiClass_other hc, readAsciiClass_other hc]
      rfl

/-! ## Members and ranges -/

theorem stable_readMember : Stable m (readMember m) := by
  intro cs p r h hr x
  cases cs with
  | nil => cases h
  | cons c cs =>
    rw [List.cons_append]
    unfold readMember at h ⊢
    split at h
    · cases h
    · next rest heq =>
      cases heq
      exact stable_readEscape h hr x
    · next c rest hc heq =>
      cases heq
      cases h
      split
      · next heq => cases heq
      · next heq =>
        cases heq
        exact (hc rfl).elim
      · next heq =>
        cases heq
        rfl

theorem head?_peekBlank_append (sign : Bool) (cs x : List Char) :
    (peekBlank sign (cs ++ ')' :: x)).head? =
      (peekBlank sign cs).head?.or (some ')') := by
  induction cs generalizing sign with
  | nil =>
    cases sign <;> rfl
  | cons c cs ih =>
    rw [List.cons_append, peekBlank, peekBlank]
    split
    · exact ih sign
    · split
      · exact ih true
      · rfl

/-- What a hyphen stands before is what it was, or the parenthesis. -/
theorem peekSpace_append (cs x : List Char) :
    peekSpace m (cs ++ ')' :: x) = (peekSpace m cs).or (some ')') := by
  unfold peekSpace
  split
  · exact head?_peekBlank_append false cs x
  · cases cs <;> rfl

/-- The set of a member by itself. -/
def single? (m : Mode) : Primitive → Option RangeSet
  | .look _ => none
  | .set s => some s
  | .char c byte => if !isClassChar m c byte then none else some (.single c)

/-- The range from one member to another. -/
def between? (m : Mode) : Primitive → Primitive → Option RangeSet
  | .char c byte, .char d byte' =>
    if c ≤ d && isClassChar m d byte' then
      if !isClassChar m c byte then none else some (.range c.toNat d.toNat)
    else none
  | _, _ => none

/-- A hyphen before `cs` is a member itself. -/
def HyphenLast (m : Mode) (cs : List Char) : Prop :=
  peekSpace m cs = some ']' ∨ peekSpace m cs = some '-'

theorem hyphenLast_append (cs x : List Char) :
    HyphenLast m (cs ++ ')' :: x) ↔ HyphenLast m cs := by
  unfold HyphenLast
  rw [peekSpace_append]
  cases peekSpace m cs with
  | none => simp
  | some c => rfl

variable {cs rest after : List Char} {p : Primitive}

theorem readRange_single (hp : readMember m cs = some (p, rest)) (hne : skipSpace m rest ≠ [])
    (h : ∀ after, skipSpace m rest = '-' :: after → HyphenLast m after) :
    readRange m cs = (single? m p).map (·, skipSpace m rest) := by
  unfold readRange
  rw [hp]
  simp only
  cases hcs : skipSpace m rest with
  | nil => exact (hne hcs).elim
  | cons c after =>
    by_cases hc : c = '-'
    · subst hc
      have hlast : (peekSpace m after == some ']' || peekSpace m after == some '-') = true := by
        simpa [HyphenLast] using h after hcs
      simp only [hlast]
      cases p with
      | char c byte => by_cases hbyte : isClassChar m c byte = true <;> simp [single?, hbyte]
      | _ => rfl
    · cases p with
      | char c byte => by_cases hbyte : isClassChar m c byte = true <;> simp [single?, hbyte, hc]
      | _ => simp [single?, hc]

theorem readRange_between (hp : readMember m cs = some (p, rest))
    (hcs : skipSpace m rest = '-' :: after) (h : ¬ HyphenLast m after) : readRange m cs =
      (readMember m (skipSpace m after)).bind fun (q, r) => (between? m p q).map (·, r) := by
  have hlast : ¬ (peekSpace m after == some ']' || peekSpace m after == some '-') = true := by
    simpa [HyphenLast] using h
  unfold readRange
  rw [hp]
  simp only [hcs, if_neg hlast]
  cases readMember m (skipSpace m after) with
  | none => rfl
  | some q =>
    obtain ⟨q, r⟩ := q
    cases q with
    | char d byte' =>
      cases p with
      | char c byte =>
        simp only [between?, Option.bind_some]
        split
        · split <;> rfl
        · rfl
      | _ => rfl
    | _ => cases p <;> rfl

theorem stable_readRange : Stable m (readRange m) := by
  intro cs s r h hr x
  cases hp : readMember m cs with
  | none =>
    unfold readRange at h
    rw [hp] at h
    cases h
  | some q =>
    obtain ⟨p, rest⟩ := q
    -- blanks and comments behind the member do not reach the end
    have hskip : skipSpace m rest ≠ [] := by
      intro hnil
      unfold readRange at h
      rw [hp] at h
      simp only [hnil] at h
      cases h
    have hrest : Remains m rest := by
      rintro _ rfl
      exact hskip skipSpace_nil
    have hp' := stable_readMember hp hrest x
    have hskip' := skipSpace_append (remains_of_ne_nil hskip) (')' :: x)
    by_cases hrange : ∃ after, skipSpace m rest = '-' :: after ∧ ¬ HyphenLast m after
    · obtain ⟨after, hcs, hlast⟩ := hrange
      rw [readRange_between hp hcs hlast, Option.bind_eq_some_iff] at h
      obtain ⟨⟨q, r'⟩, hq, hs⟩ := h
      obtain ⟨s', hs', heq⟩ := Option.map_eq_some_iff.1 hs
      cases heq
      rw [hcs, List.cons_append] at hskip'
      rw [readRange_between hp' hskip' (by rwa [hyphenLast_append]),
        skipSpace_append (remains_of_some rfl hq), stable_readMember hq hr x]
      simp [hs']
    · have hlast : ∀ after, skipSpace m rest = '-' :: after → HyphenLast m after :=
        fun after hcs => by_contra fun hno => hrange ⟨after, hcs, hno⟩
      rw [readRange_single hp hskip hlast] at h
      obtain ⟨s', hs', heq⟩ := Option.map_eq_some_iff.1 h
      cases heq
      rw [readRange_single hp' (by simp [hskip']), hs', hskip']
      · rfl
      · intro after' hcs'
        rw [hskip'] at hcs'
        cases hcs : skipSpace m rest with
        | nil => exact (hskip hcs).elim
        | cons c after =>
          rw [hcs, List.cons_append] at hcs'
          obtain ⟨rfl, rfl⟩ := List.cons.inj hcs'
          exact (hyphenLast_append after x).2 (hlast after hcs)

/-! ## Brackets -/

/-- Hyphens that come first in a bracket are followed by something else. -/
theorem leadingHyphens_append {n n' : Nat} {u u' : Union} {cs r : List Char}
    (h : leadingHyphens m n u cs = (u', r)) (hr : r ≠ []) (hn : cs.length ≤ n) (hle : n ≤ n')
    (x : List Char) : leadingHyphens m n' u (cs ++ x) = (u', r ++ x) := by
  induction n generalizing n' u cs with
  | zero =>
    rw [List.length_eq_zero_iff.1 (Nat.le_zero.1 hn), leadingHyphens] at h
    · cases h
      exact (hr rfl).elim
    · simp
  | succ n ih =>
    obtain ⟨n', rfl⟩ : ∃ k, n' = k + 1 := ⟨n' - 1, by omega⟩
    cases cs with
    | nil =>
      rw [leadingHyphens] at h
      · cases h
        exact (hr rfl).elim
      · simp
    | cons c cs =>
      rw [List.cons_append]
      by_cases hc : c = '-'
      · subst hc
        rw [leadingHyphens] at h ⊢
        have hskip : skipSpace m cs ≠ [] := by
          intro hnil
          rw [hnil, leadingHyphens] at h
          · cases h
            exact hr rfl
          · simp
        have hlen := skipSpace_length m cs
        rw [List.length_cons] at hn
        rw [skipSpace_append (remains_of_ne_nil hskip)]
        exact ih h (by omega) (by omega)
      · rw [leadingHyphens] at h ⊢
        · cases h
          rfl
        all_goals simp [hc]

/-- What comes first in a bracket, after a caret if there is one. -/
def firstMembers (m : Mode) (negated : Bool) (cs : List Char) :
    Option (Bool × Union × List Char) :=
  let (u, cs) := leadingHyphens m cs.length .empty cs
  match cs with
  | [] => none
  | ']' :: rest =>
    if u.count == 0 then
      match skipSpace m rest with
      | [] => none
      | rest => some (negated, u.push (.single ']') 0, rest)
    else some (negated, u, ']' :: rest)
  | cs => some (negated, u, cs)

theorem openClass_caret {cs rest : List Char} (h : skipSpace m cs = '^' :: rest) :
    openClass m cs = firstMembers m true (skipSpace m rest) := by
  unfold openClass
  rw [h]
  rfl

theorem openClass_plain {cs : List Char} (h : (skipSpace m cs).head? ≠ some '^') :
    openClass m cs = firstMembers m false (skipSpace m cs) := by
  unfold openClass
  cases hcs : skipSpace m cs with
  | nil => rfl
  | cons c rest =>
    have hc : c ≠ '^' := fun hc => h (by rw [hcs, hc]; rfl)
    simp only [List.cons.injEq, hc, false_and, imp_self, implies_true]
    rfl

theorem firstMembers_append {negated b : Bool} {u : Union} {cs r : List Char}
    (h : firstMembers m negated cs = some (b, u, r)) (x : List Char) :
    firstMembers m negated (cs ++ ')' :: x) = some (b, u, r ++ ')' :: x) := by
  unfold firstMembers at h ⊢
  cases hlead : leadingHyphens m cs.length .empty cs with
  | mk v rest =>
    rw [hlead] at h
    cases rest with
    | nil => cases h
    | cons c rest =>
      have hlead' := leadingHyphens_append hlead (List.cons_ne_nil c rest) (Nat.le_refl _)
        (Nat.le_add_right _ (')' :: x).length) (')' :: x)
      rw [List.length_append, hlead', List.cons_append]
      by_cases hc : c = ']'
      · subst hc
        simp only at h ⊢
        split at h
        · next hcount =>
          rw [if_pos hcount]
          cases hcs : skipSpace m rest with
          | nil =>
            rw [hcs] at h
            cases h
          | cons d more =>
            rw [hcs] at h
            cases h
            rw [skipSpace_append (hcs ▸ remains_cons m d more), hcs]
            rfl
        · next hcount =>
          cases h
          rw [if_neg hcount]
          rfl
      · simp only [List.cons.injEq, hc, false_and, imp_self, implies_true] at h ⊢
        cases h
        rfl

theorem openClass_append {b : Bool} {u : Union} {cs r : List Char}
    (h : openClass m cs = some (b, u, r)) (x : List Char) :
    openClass m (cs ++ ')' :: x) = some (b, u, r ++ ')' :: x) := by
  have hnil : ∀ b, firstMembers m b [] = none := fun _ => rfl
  by_cases hcaret : (skipSpace m cs).head? = some '^'
  · obtain ⟨rest, hcs⟩ := List.head?_eq_some_iff.1 hcaret
    have hcs' := skipSpace_append (hcs ▸ remains_cons m '^' rest) (')' :: x)
    rw [hcs, List.cons_append] at hcs'
    rw [openClass_caret hcs] at h
    rw [openClass_caret hcs', skipSpace_append (remains_of_some (hnil true) h)]
    exact firstMembers_append h x
  · rw [openClass_plain hcaret] at h
    have hcs : skipSpace m cs ≠ [] := by
      intro hcs
      rw [hcs] at h
      cases h
    have hcs' := skipSpace_append (remains_of_ne_nil hcs) (')' :: x)
    rw [openClass_plain, hcs']
    · exact firstMembers_append h x
    · rw [hcs', List.head?_append_of_ne_nil _ hcs]
      exact hcaret

theorem classBody_nil (n : Nat) (frames : List ClassFrame) (u : Union) :
    classBody m n frames u [] = none := by
  cases n with
  | zero => rfl
  | succ n => simp only [classBody, skipSpace_nil]

theorem eq_cons_cons_of_append {c a b : Char} {rest x more : List Char} (hb : ')' ≠ b)
    (h : c :: (rest ++ ')' :: x) = a :: b :: more) : ∃ more, c :: rest = a :: b :: more := by
  obtain ⟨hca, hrest⟩ := List.cons.inj h
  cases rest with
  | nil => exact (hb (List.cons.inj hrest).1).elim
  | cons d rest => exact ⟨rest, by rw [hca, (List.cons.inj hrest).1]⟩

/-- What one step within brackets leads to: the set of the outermost bracket, or more to read. -/
inductive ClassStep where
  | done (o : Operand) (rest : List Char)
  | more (frames : List ClassFrame) (u : Union) (rest : List Char)

namespace ClassStep

/-- An opening bracket begins a named class or a bracket within this one. -/
def opening (m : Mode) (frames : List ClassFrame) (u : Union) (rest : List Char) :
    Option ClassStep :=
  match readAsciiClass rest with
  | some (negated, s, rest) => (closeSet m negated s).map fun s => .more frames (u.push s 0) rest
  | none => (openClass m rest).map fun (negated, inner, rest) =>
    .more (.bracket negated u :: frames) inner rest

/-- A closing bracket ends the innermost bracket. -/
def closing (m : Mode) (frames : List ClassFrame) (u : Union) (rest : List Char) :
    Option ClassStep :=
  match popOp m frames ⟨u.set, u.depth⟩ with
  | (o, .bracket negated outer :: frames) =>
    match closeClass m negated o, frames with
    | none, _ => none
    | some closed, [] => some (.done closed rest)
    | some closed, frames => some (.more frames (outer.push closed.set closed.nest) rest)
  | _ => none

/-- The operand before an operator waits for the one behind it. -/
def operator (m : Mode) (frames : List ClassFrame) (u : Union) (kind : ClassOp)
    (rest : List Char) : ClassStep :=
  .more (.op kind (popOp m frames ⟨u.set, u.depth⟩).1 :: (popOp m frames ⟨u.set, u.depth⟩).2)
    .empty rest

/-- One step within brackets. -/
def next (m : Mode) (frames : List ClassFrame) (u : Union) (cs : List Char) : Option ClassStep :=
  match cs with
  | [] => none
  | '[' :: rest => opening m frames u rest
  | ']' :: rest => closing m frames u rest
  | '&' :: '&' :: rest => some (operator m frames u .inter rest)
  | '-' :: '-' :: rest => some (operator m frames u .diff rest)
  | '~' :: '~' :: rest => some (operator m frames u .symmDiff rest)
  | cs => (readRange m cs).map fun (s, rest) => .more frames (u.push s 0) rest

/-- A step with more text behind what it leaves. -/
def append (x : List Char) : ClassStep → ClassStep
  | .done o rest => .done o (rest ++ x)
  | .more frames u rest => .more frames u (rest ++ x)

/-- What follows a step. -/
def goOn (m : Mode) (n : Nat) : ClassStep → Option (Operand × List Char)
  | .done o rest => some (o, rest)
  | .more frames u rest => classBody m n frames u rest

end ClassStep

/-- The inside of brackets is read by one step after the other. -/
theorem classBody_succ (n : Nat) (frames : List ClassFrame) (u : Union) (cs : List Char) :
    classBody m (n + 1) frames u cs =
      (ClassStep.next m frames u (skipSpace m cs)).bind (ClassStep.goOn m n) := by
  rw [classBody]
  generalize skipSpace m cs = ds
  split
  · rfl
  · next rest =>
    simp only [ClassStep.next, ClassStep.opening]
    cases readAsciiClass rest with
    | none => cases openClass m rest <;> rfl
    | some q =>
      obtain ⟨negated, s, rest⟩ := q
      simp only
      cases closeSet m negated s <;> rfl
  · next rest =>
    simp only [ClassStep.next, ClassStep.closing]
    cases popOp m frames ⟨u.set, u.depth⟩ with
    | mk o fs =>
      cases fs with
      | nil => rfl
      | cons f fs =>
        cases f with
        | op => rfl
        | bracket negated outer =>
          simp only
          cases closeClass m negated o with
          | none => rfl
          | some closed => cases fs <;> rfl
  · rfl
  · rfl
  · rfl
  · rw [ClassStep.next] <;> try assumption
    cases readRange m ds <;> rfl

namespace ClassStep

theorem opening_append {frames : List ClassFrame} {u : Union} {rest : List Char} {s : ClassStep}
    (h : opening m frames u rest = some s) (x : List Char) :
    opening m frames u (rest ++ ')' :: x) = some (s.append (')' :: x)) := by
  unfold opening at h ⊢
  rw [readAsciiClass_append]
  cases hclass : readAsciiClass rest with
  | some q =>
    rw [hclass] at h
    obtain ⟨t, ht, rfl⟩ := Option.map_eq_some_iff.1 h
    simp only [Option.map_some, ht]
    rfl
  | none =>
    rw [hclass] at h
    obtain ⟨q, hq, rfl⟩ := Option.map_eq_some_iff.1 h
    simp only [Option.map_none, openClass_append hq x, Option.map_some]
    rfl

theorem closing_append {frames : List ClassFrame} {u : Union} {rest : List Char} {s : ClassStep}
    (h : closing m frames u rest = some s) (x : List Char) :
    closing m frames u (rest ++ x) = some (s.append x) := by
  unfold closing at h ⊢
  split at h
  · next o negated outer frames' hpop =>
    cases hclose : closeClass m negated o with
    | none =>
      rw [hclose] at h
      cases h
    | some closed =>
      rw [hclose] at h
      cases frames' <;> cases h <;> rfl
  · cases h

/-- A step within brackets reads the same with a closing parenthesis behind the text, when the
bracket ends after it. -/
theorem next_append {n : Nat} {frames : List ClassFrame} {u : Union} {cs : List Char}
    {s : ClassStep} {q : Operand × List Char} (h : next m frames u cs = some s)
    (hgo : goOn m n s = some q) (x : List Char) :
    next m frames u (cs ++ ')' :: x) = some (s.append (')' :: x)) := by
  unfold next at h
  split at h
  · cases h
  · exact opening_append h x
  · exact closing_append h (')' :: x)
  · cases h
    rfl
  · cases h
    rfl
  · cases h
    rfl
  · next hnil hopen hclose hand hminus htilde =>
    obtain ⟨⟨t, rest⟩, hread, rfl⟩ := Option.map_eq_some_iff.1 h
    have hrest : Remains m rest := remains_of_some (classBody_nil n frames _) hgo
    have hread' := stable_readRange hread hrest x
    obtain ⟨c, cs, rfl⟩ := List.exists_cons_of_ne_nil hnil
    rw [List.cons_append, next, ← List.cons_append, hread']
    · rfl
    · intro heq
      cases heq
    · intro rest heq
      exact hopen cs (by rw [(List.cons.inj heq).1])
    · intro rest heq
      exact hclose cs (by rw [(List.cons.inj heq).1])
    -- the parenthesis behind the text is no half of an operator
    · intro rest heq
      obtain ⟨_, heq⟩ := eq_cons_cons_of_append (by decide) heq
      exact hand _ heq
    · intro rest heq
      obtain ⟨_, heq⟩ := eq_cons_cons_of_append (by decide) heq
      exact hminus _ heq
    · intro rest heq
      obtain ⟨_, heq⟩ := eq_cons_cons_of_append (by decide) heq
      exact htilde _ heq

end ClassStep

/-- The inside of brackets ends where it ended, however many steps there are left. -/
theorem classBody_append {n n' : Nat} (hle : n ≤ n') {frames : List ClassFrame} {u : Union}
    {cs r : List Char} {o : Operand} (h : classBody m n frames u cs = some (o, r))
    (x : List Char) : classBody m n' frames u (cs ++ ')' :: x) = some (o, r ++ ')' :: x) := by
  induction n generalizing n' frames u cs with
  | zero => cases h
  | succ n ih =>
    obtain ⟨n', rfl⟩ : ∃ k, n' = k + 1 := ⟨n' - 1, by omega⟩
    rw [classBody_succ] at h ⊢
    obtain ⟨s, hs, hgo⟩ := Option.bind_eq_some_iff.1 h
    have hcs : skipSpace m cs ≠ [] := by
      intro hcs
      rw [hcs] at hs
      cases hs
    rw [skipSpace_append (remains_of_ne_nil hcs), ClassStep.next_append hs hgo, Option.bind_some]
    cases s with
    | done =>
      cases hgo
      rfl
    | more => exact ih (by omega) hgo

theorem stable_readClass : Stable m (readClass m) := by
  intro cs o r h _ x
  unfold readClass at h ⊢
  cases hopen : openClass m cs with
  | none =>
    rw [hopen] at h
    cases h
  | some q =>
    obtain ⟨negated, u, rest⟩ := q
    rw [hopen] at h
    rw [openClass_append hopen x]
    have hle : rest.length ≤ (rest ++ ')' :: x).length := by
      rw [List.length_append]
      exact Nat.le_add_right _ _
    exact classBody_append hle h x

end RequestBinding.Regex
