import RequestBinding.Proofs.Regex.Stops
import RequestBinding.Proofs.Regex.Values

/-!
# Renaming groups

The names of groups play no part in matching: renaming the groups of an expression renames the
captures of its stops and changes nothing else, whether the stops are found directly or by way of a
program. Normal forms do not depend on the names either, as parts with groups are never shared.

## Main definitions

* `Regex.rename`, `Stop.rename` - renaming groups and captures
* `Regex.names` - the names of the groups of an expression

## Main statements

* `Regex.stops_rename` - the stops of a renamed expression
* `Regex.rename_concat`, `Regex.rename_anyOf` - normal forms of renamed expressions
-/

namespace RequestBinding.Regex

variable (f : String → String)

/-! ## Definitions -/

/-- An expression with other names for its groups. -/
def rename : Regex → Regex
  | .seq r s => .seq r.rename s.rename
  | .alt r s => .alt r.rename s.rename
  | .rep greedy low high r => .rep greedy low high r.rename
  | .group name r => .group (name.map f) r.rename
  | r => r

/-- The names of the groups of an expression. -/
def names : Regex → List String
  | .seq r s | .alt r s => r.names ++ s.names
  | .rep _ _ _ r => r.names
  | .group name r => name.toList ++ r.names
  | _ => []

def Capture.rename (c : Capture) : Capture := ⟨f c.name, c.first, c.last⟩

def Stop.rename (s : Stop) : Stop := ⟨s.captures.map (Capture.rename f), s.cursor⟩

def Found.rename (g : Found) : Found := ⟨g.stops.map (Stop.rename f), g.taken⟩

def Instruction.rename : Instruction → Instruction
  | .closeGroup name next => .closeGroup (name.map f) next
  | i => i

def Part.rename (p : Part) : Part := ⟨p.entry, p.program.map (Instruction.rename f)⟩

def Program.Thread.rename (t : Program.Thread) : Program.Thread :=
  { t with captures := t.captures.map (Capture.rename f) }

/-! ## Stops -/

theorem captured_rename (name : Option String) (c d : Cursor) :
    captured (name.map f) c d = (captured name c d).map (Capture.rename f) := by
  cases name <;> rfl

theorem after_rename (k : List Capture) (s : Stop) :
    (s.after k).rename f = (s.rename f).after (k.map (Capture.rename f)) := by
  simp [Stop.after, Stop.rename]

theorem firsts_rename (ss : List Stop) :
    firsts (ss.map (Stop.rename f)) = (firsts ss).map (Stop.rename f) := by
  have hcursor : ∀ s : Stop, (s.rename f).cursor = s.cursor := fun _ => rfl
  exact firsts_map hcursor ss

variable {f}

/-- Stops that are those of a renamed expression. -/
def Renames (f : String → String) (next next' : Cursor → List Stop) : Prop :=
  ∀ c, next' c = (next c).map (Stop.rename f)

variable {body body' : Cursor → List Stop}

theorem follow_rename (h : Renames f body body') (ss : List Stop) :
    follow (ss.map (Stop.rename f)) body' = (follow ss body).map (Stop.rename f) := by
  have hbehind : ∀ s : Stop, behind body' (s.rename f) =
      (behind body s).map (Stop.rename f) := fun s => by
    simp only [behind, List.map_map, Function.comp_def, after_rename]
    rw [show (s.rename f).cursor = s.cursor from rfl, h s.cursor, List.map_map]
    rfl
  rw [follow_eq, follow_eq, ← firsts_rename, List.flatMap_map, List.map_flatMap]
  simp only [hbehind]

theorem optionally_rename (h : Renames f body body') (greedy : Bool) :
    Renames f (optionally body greedy) (optionally body' greedy) := by
  intro c
  have hhere : (⟨[], c⟩ : Stop) = Stop.rename f ⟨[], c⟩ := rfl
  simp only [optionally]
  rw [← firsts_rename, h c]
  cases greedy with
  | true => simp [← hhere]
  | false => simp [← hhere]

theorem iterated_rename (h : Renames f body body') (n : Nat) (ss : List Stop) :
    iterated body' n (ss.map (Stop.rename f)) = (iterated body n ss).map (Stop.rename f) := by
  induction n generalizing ss with
  | zero => rfl
  | succ n ih =>
    cases ss with
    | nil => rfl
    | cons s ss =>
      show iterated body' n (follow ((s :: ss).map (Stop.rename f)) body') = _
      rw [follow_rename h, ih]
      rfl

/-! ## Loops -/

theorem add_rename (g : Found) (s : Stop) :
    (g.rename f).add (s.rename f) = (g.add s).rename f := by
  have hhas : (g.rename f).has (s.rename f).cursor = g.has s.cursor := rfl
  rw [Found.add, Found.add, hhas]
  split <;> rfl

theorem toList_rename (g : Found) : (g.rename f).toList = g.toList.map (Stop.rename f) :=
  List.map_reverse.symm

theorem iterate_rename (h : Renames f body body') (greedy : Bool) (s : Stop) (g : Found) :
    iterate body' greedy (s.rename f) (g.rename f) = (iterate body greedy s g).rename f := by
  induction hn : s.cursor.left using Nat.strongRecOn generalizing s g with
  | ind n ih =>
    have hgo : ∀ (es : List Stop) (g : Found),
        goOn body' greedy (s.rename f) (es.map (Stop.rename f)) (g.rename f) =
          (goOn body greedy s es g).rename f := by
      intro es
      induction es with
      | nil => exact fun g => rfl
      | cons e es ihes =>
        intro g
        by_cases hlt : e.cursor.left < s.cursor.left
        · have hlt' : (e.rename f).cursor.left < (s.rename f).cursor.left := hlt
          have hafter : (e.rename f).after (s.rename f).captures = (e.after s.captures).rename f :=
            (after_rename f s.captures e).symm
          rw [List.map_cons, goOn_cons_of_lt hlt, goOn_cons_of_lt hlt', hafter,
            ih _ (hn ▸ hlt) (e.after s.captures) g rfl, ihes]
        · have hlt' : ¬ (e.rename f).cursor.left < (s.rename f).cursor.left := hlt
          rw [List.map_cons, goOn_cons_of_not_lt hlt, goOn_cons_of_not_lt hlt', ihes]
    have hhas : (g.rename f).has (s.rename f).cursor = g.has s.cursor := rfl
    have hbody : body' (s.rename f).cursor = (body s.cursor).map (Stop.rename f) := h s.cursor
    rw [iterate_eq, iterate_eq, hhas, hbody, add_rename, hgo, hgo, add_rename]
    split
    · rfl
    · split <;> rfl

theorem anyNumber_rename (h : Renames f body body') (greedy : Bool) :
    Renames f (anyNumber body greedy) (anyNumber body' greedy) := by
  intro c
  rw [anyNumber, anyNumber, ← toList_rename, ← iterate_rename h]
  rfl

/-! ## Programs -/

@[simp] theorem Part.rename_entry (p : Part) : (p.rename f).entry = p.entry := rfl

@[simp] theorem Part.rename_program (p : Part) :
    (p.rename f).program = p.program.map (Instruction.rename f) := rfl

namespace Program

theorem emit_rename (p : Program) (i : Instruction) :
    emit (p.map (Instruction.rename f)) (i.rename f) = (emit p i).rename f := by
  simp [emit, Part.rename]

theorem addText_rename (p : Program) (exit : Nat) (text : List Char) :
    addText (p.map (Instruction.rename f)) exit text = (addText p exit text).rename f := by
  induction text with
  | nil => rfl
  | cons c text ih =>
    simp only [addText, ih]
    exact emit_rename (addText p exit text).program (.take (.single c) _)

/-- A part of a program that is added with other names. -/
def AddsRenamed (f : String → String) (add add' : Nat → Program → Part) : Prop :=
  ∀ exit p, add' exit (p.map (Instruction.rename f)) = (add exit p).rename f

variable {one one' : Nat → Program → Part}

theorem AddsRenamed.eq (h : AddsRenamed f one one') (exit : Nat) (p : Program) :
    one' exit (p.map (Instruction.rename f)) = (one exit p).rename f := h exit p

theorem addCopies_rename (h : AddsRenamed f one one') (n : Nat) :
    AddsRenamed f (addCopies one n) (addCopies one' n) := by
  intro exit p
  induction n with
  | zero => rfl
  | succ n ih =>
    simp only [addCopies, ih]
    exact h _ _

theorem choice_rename (greedy : Bool) (i j : Nat) :
    choice greedy i j = (choice greedy i j).rename f := by
  cases greedy <;> rfl

theorem addOptional_rename (h : AddsRenamed f one one') (greedy : Bool) (n : Nat) :
    AddsRenamed f (addOptional one greedy n) (addOptional one' greedy n) := by
  intro exit p
  induction n with
  | zero => rfl
  | succ n ih =>
    simp only [addOptional, ih, Part.rename_entry, Part.rename_program, h.eq]
    exact (congrArg _ (choice_rename greedy _ _)).trans (emit_rename _ _)

theorem addLoop_rename (h : AddsRenamed f one one') (greedy : Bool) (exit : Nat) (p : Program) :
    addLoop one' greedy exit (p.map (Instruction.rename f)) =
      ((addLoop one greedy exit p).1.rename f, (addLoop one greedy exit p).2) := by
  have hpush : (p.map (Instruction.rename f)).push .stop =
      (p.push .stop).map (Instruction.rename f) := by simp [Instruction.rename]
  simp only [addLoop, Array.size_map, hpush, h.eq, Part.rename_entry, Part.rename_program]
  simp only [Part.rename, Array.map_setIfInBounds, ← choice_rename]

theorem addRepetition_rename (h : AddsRenamed f one one') (takesSome greedy : Bool) (low : Nat)
    (high : Option Nat) : AddsRenamed f (addRepetition one takesSome greedy low high)
      (addRepetition one' takesSome greedy low high) := by
  intro exit p
  cases high with
  | some n =>
    simp only [addRepetition, addOptional_rename h greedy (n - low) exit p]
    exact addCopies_rename h low _ _
  | none =>
    simp only [addRepetition, addLoop_rename h]
    cases low with
    | zero =>
      cases takesSome with
      | true => rfl
      | false =>
        show emit _ (choice greedy _ exit) = _
        exact (congrArg _ (choice_rename greedy _ _)).trans (emit_rename _ _)
    | succ n => exact addCopies_rename h n _ _

end Program

theorem minLength_rename (r : Regex) : (r.rename f).minLength = r.minLength := by
  induction r with
  | seq r s ihr ihs => simp only [rename, minLength, ihr, ihs]
  | alt r s ihr ihs => simp only [rename, minLength, ihr, ihs]
  | rep greedy low high r ih => simp only [rename, minLength, ih]
  | group name r ih => simp only [rename, minLength, ih]
  | _ => rfl

theorem takesSome_rename (r : Regex) : (r.rename f).takesSome = r.takesSome := by
  rw [takesSome, takesSome, minLength_rename]

theorem hasLoop_rename (r : Regex) : (r.rename f).hasLoop = r.hasLoop := by
  induction r with
  | seq r s ihr ihs => simp only [rename, hasLoop, ihr, ihs]
  | alt r s ihr ihs => simp only [rename, hasLoop, ihr, ihs]
  | rep greedy low high r ih => simp only [rename, hasLoop, ih]
  | group name r ih => simp only [rename, hasLoop, ih]
  | _ => rfl

namespace Program

/-- The program of a renamed expression. -/
theorem add_rename (r : Regex) : AddsRenamed f (add r) (add (r.rename f)) := by
  induction r with
  | empty => exact fun _ _ => rfl
  | literal text => exact fun exit p => addText_rename p exit text
  | set s => exact fun exit p => emit_rename p (.take s exit)
  | look l => exact fun exit p => emit_rename p (.test l exit)
  | seq r s ihr ihs =>
    intro exit p
    simp only [Regex.rename, add, ihs.eq]
    exact ihr _ _
  | alt r s ihr ihs =>
    intro exit p
    simp only [Regex.rename, add, ihs.eq, Part.rename_entry, Part.rename_program, ihr.eq]
    exact emit_rename _ (.split _ _)
  | rep greedy low high r ih =>
    intro exit p
    simp only [Regex.rename, add, takesSome_rename]
    exact addRepetition_rename ih _ greedy low high exit p
  | group name r ih =>
    intro exit p
    have hclose : emit (p.map (Instruction.rename f)) (.closeGroup (name.map f) exit) =
        (emit p (.closeGroup name exit)).rename f := emit_rename p (.closeGroup name exit)
    simp only [Regex.rename, add, hclose, Part.rename_entry, Part.rename_program, ih.eq]
    exact emit_rename _ (.openGroup _)

theorem step_rename (p : Program) (t : Thread) :
    (t.rename f).step (p.map (Instruction.rename f)) =
      Sum.map (List.map (Thread.rename f)) (Stop.rename f) (t.step p) := by
  unfold Thread.step
  rw [show (t.rename f).instruction = t.instruction from rfl, Array.getElem?_map]
  cases p[t.instruction]? with
  | none => rfl
  | some i =>
    cases i with
    | take s next =>
      simp only [Option.map_some, Instruction.rename, Thread.rename]
      cases t.cursor.next? with
      | none => rfl
      | some q =>
        simp only
        split <;> rfl
    | test l next =>
      have hcursor : (t.rename f).cursor = t.cursor := rfl
      simp only [Option.map_some, Instruction.rename, hcursor, Sum.map_inl]
      split <;> rfl
    | split first second => rfl
    | openGroup next => rfl
    | closeGroup name next =>
      simp only [Option.map_some, Instruction.rename, Thread.rename]
      cases t.opened with
      | nil => rfl
      | cons first opened =>
        simp only [captured_rename, ← List.map_append]
        rfl
    | stop => rfl

theorem search_rename (p : Program) (fuel : Nat) (ts : List Thread) (visited : Array Nat)
    (g : Found) : search (p.map (Instruction.rename f)) fuel (ts.map (Thread.rename f)) visited
      (g.rename f) = (search p fuel ts visited g).rename f := by
  induction fuel generalizing ts visited g with
  | zero => simp only [search]
  | succ fuel ih =>
    cases ts with
    | nil => simp only [List.map_nil, search]
    | cons t rest =>
      simp only [List.map_cons, search, step_rename]
      rw [show (t.rename f).instruction = t.instruction from rfl,
        show (t.rename f).cursor = t.cursor from rfl]
      split
      · exact ih rest visited g
      · cases t.step p with
        | inl next =>
          simp only [Sum.map_inl, ← List.map_append]
          exact ih _ _ g
        | inr s =>
          simp only [Sum.map_inr, Regex.add_rename]
          exact ih _ _ _

end Program

theorem searched_rename (r : Regex) : Renames f (searched r) (searched (r.rename f)) := by
  intro c
  have hstop : (#[.stop] : Program) = (#[.stop] : Program).map (Instruction.rename f) := by
    simp [Instruction.rename]
  have hprogram : Program.ofRegex (r.rename f) = (Program.ofRegex r).rename f :=
    (congrArg (Program.add (r.rename f) 0) hstop).trans (Program.add_rename r 0 #[.stop])
  simp only [searched, hprogram, Part.rename_entry, Part.rename_program, Array.size_map]
  rw [← toList_rename, ← Program.search_rename]
  rfl

theorem repeated_rename {r : Regex} (h : Renames f r.stops (r.rename f).stops) (greedy : Bool)
    (low : Nat) (high : Option Nat) : Renames f (repeated r r.stops greedy low high)
      (repeated (r.rename f) (r.rename f).stops greedy low high) := by
  intro c
  have hsearched : ∀ low high, Renames f (searched (.rep greedy low high r))
      (searched (.rep greedy low high (r.rename f))) := fun low high => searched_rename _
  have hstart : ∀ n, iterated (r.rename f).stops n [⟨[], c⟩] =
      (iterated r.stops n [⟨[], c⟩]).map (Stop.rename f) := fun n =>
    iterated_rename h n [⟨[], c⟩]
  simp only [repeated, hasLoop_rename, takesSome_rename, hstart]
  split
  · exact optionally_rename h greedy c
  · split
    · exact hsearched low high c
    · split
      · split
        · rfl
        · exact follow_rename (hsearched _ _) _
      · split
        · exact follow_rename (anyNumber_rename h greedy) _
        · exact follow_rename (hsearched _ _) _

/-- The stops of a renamed expression. -/
theorem stops_rename (r : Regex) : Renames f r.stops (r.rename f).stops := by
  induction r with
  | empty => exact fun _ => rfl
  | literal text =>
    intro c
    simp only [rename, stops]
    split <;> rfl
  | set s =>
    intro c
    simp only [rename, stops]
    split
    · split <;> rfl
    · rfl
  | look l =>
    intro c
    simp only [rename, stops]
    split <;> rfl
  | seq r s ihr ihs =>
    intro c
    simp only [rename, stops]
    rw [ihr c, follow_rename ihs]
  | alt r s ihr ihs =>
    intro c
    simp only [rename, stops]
    rw [ihr c, ihs c, ← List.map_append, firsts_rename]
  | rep greedy low high r ih => exact repeated_rename ih greedy low high
  | group name r ih =>
    intro c
    simp only [rename, stops]
    rw [ih c, List.map_map, List.map_map]
    refine List.map_congr_left fun s _ => ?_
    simp [Stop.rename, captured_rename]

/-! ## Names -/

theorem rename_of_fixed {r : Regex} (h : ∀ n ∈ r.names, f n = n) : r.rename f = r := by
  induction r with
  | seq r s ihr ihs =>
    obtain ⟨hr, hs⟩ := List.forall_mem_append.1 h
    rw [rename, ihr hr, ihs hs]
  | alt r s ihr ihs =>
    obtain ⟨hr, hs⟩ := List.forall_mem_append.1 h
    rw [rename, ihr hr, ihs hs]
  | rep greedy low high r ih => rw [rename, ih h]
  | group name r ih =>
    obtain ⟨hname, hr⟩ := List.forall_mem_append.1 h
    rw [rename, ih hr]
    cases name with
    | none => rfl
    | some n => rw [Option.map_some, hname n List.mem_cons_self]
  | _ => rfl

/-! ## Normal forms -/

theorem hasGroup_rename (r : Regex) : (r.rename f).hasGroup = r.hasGroup := by
  induction r with
  | seq r s ihr ihs => simp only [rename, hasGroup, ihr, ihs]
  | alt r s ihr ihs => simp only [rename, hasGroup, ihr, ihs]
  | rep greedy low high r ih => simp only [rename, hasGroup, ih]
  | _ => rfl

theorem names_of_hasGroup {r : Regex} (h : r.hasGroup = false) : r.names = [] := by
  induction r with
  | seq r s ihr ihs =>
    obtain ⟨hr, hs⟩ := Bool.or_eq_false_iff.1 h
    rw [names, ihr hr, ihs hs]
    rfl
  | alt r s ihr ihs =>
    obtain ⟨hr, hs⟩ := Bool.or_eq_false_iff.1 h
    rw [names, ihr hr, ihs hs]
    rfl
  | rep greedy low high r ih => exact ih h
  | group => cases h
  | _ => rfl

theorem rename_of_hasGroup {r : Regex} (h : r.hasGroup = false) : r.rename f = r :=
  rename_of_fixed (by simp [names_of_hasGroup h])

variable (f)

theorem parts_rename (r : Regex) : (r.rename f).parts = r.parts.map (rename f) := by
  induction r with
  | seq r s ihr _ => simp [rename, parts, ihr]
  | _ => simp [rename, parts]

theorem branches_rename (r : Regex) : (r.rename f).branches = r.branches.map (rename f) := by
  induction r with
  | alt r s _ ihs => simp [rename, branches, ihs]
  | _ => simp [rename, branches]

theorem pieces_rename (r : Regex) : (r.rename f).pieces = r.pieces := by
  induction r with
  | seq r s ihr ihs => simp only [rename, pieces, ihr, ihs]
  | alt r s ihr ihs => simp only [rename, pieces, ihr, ihs]
  | rep greedy low high r ih => simp only [rename, pieces, ih]
  | group name r ih => simp only [rename, pieces, ih]
  | _ => rfl

theorem joinTexts_rename (rs : List Regex) :
    joinTexts (rs.map (rename f)) = (joinTexts rs).map (rename f) := by
  induction rs with
  | nil => rfl
  | cons r rs ih =>
    cases r with
    | literal s =>
      simp only [List.map_cons, rename, joinTexts, ih]
      cases joinTexts rs with
      | nil => rfl
      | cons q qs => cases q <;> rfl
    | _ => simp only [List.map_cons, rename, joinTexts, ih]

theorem ofParts_rename (rs : List Regex) :
    ofParts (rs.map (rename f)) = (ofParts rs).rename f := by
  cases rs with
  | nil => rfl
  | cons r rs =>
    show (rs.map (rename f)).foldl .seq (r.rename f) = (rs.foldl .seq r).rename f
    induction rs generalizing r with
    | nil => rfl
    | cons s rs ih => exact ih (.seq r s)

/-- A concatenation of renamed expressions. -/
theorem rename_concat (rs : List Regex) :
    (concat rs).rename f = concat (rs.map (rename f)) := by
  have hparts : (rs.map (rename f)).flatMap parts = (rs.flatMap parts).map (rename f) := by
    rw [List.flatMap_map, List.map_flatMap]
    exact List.flatMap_congr fun r _ => parts_rename f r
  rw [concat, concat, hparts, joinTexts_rename, ofParts_rename]

theorem ofBranches_rename (bs : List Regex) :
    ofBranches (bs.map (rename f)) = (ofBranches bs).rename f := by
  fun_induction ofBranches bs with
  | case1 => rfl
  | case2 r => rfl
  | case3 r rest hrest ih =>
    rw [List.map_cons, ofBranches, ih]
    · rfl
    · simpa using hrest

theorem merged?_rename (bs : List Regex) : merged? (bs.map (rename f)) = merged? bs := by
  have honly : ∀ r : Regex, (r.rename f).only? = r.only? := fun r => by cases r <;> rfl
  have hset : ∀ r : Regex, (r.rename f).set? = r.set? := fun r => by cases r <;> rfl
  simp only [merged?, List.mapM_map, Function.comp_def, honly, hset]

theorem ofSet_rename (s : Unicode.RangeSet) : (ofSet s).rename f = ofSet s := by
  unfold ofSet
  split <;> rfl

/-- Parts with groups are never shared, and others are not renamed. -/
theorem commonParts_rename (rs ss : List Regex) :
    commonParts (rs.map (rename f)) (ss.map (rename f)) = (commonParts rs ss).map (rename f) := by
  fun_induction commonParts rs ss with
  | case1 r rs s ss h ih =>
    obtain ⟨hrs, hr⟩ := Bool.and_eq_true_iff.1 h
    have hrs := beq_iff_eq.1 hrs
    subst hrs
    rw [List.map_cons, List.map_cons, commonParts, hasGroup_rename, if_pos, ih, List.map_cons]
    simpa using hr
  | case2 r rs s ss h =>
    rw [List.map_cons, List.map_cons, commonParts, hasGroup_rename, if_neg, List.map_nil]
    intro h'
    obtain ⟨hrs, hr⟩ := Bool.and_eq_true_iff.1 h'
    have hrs := beq_iff_eq.1 hrs
    have hr : r.hasGroup = false := by simpa using hr
    have hs : s.hasGroup = false := by rw [← hasGroup_rename (f := f), ← hrs, hasGroup_rename, hr]
    rw [rename_of_hasGroup hr, rename_of_hasGroup hs] at hrs
    exact h (by simp [hrs, hs])
  | case3 rs ss h =>
    cases rs with
    | nil => rfl
    | cons r rs =>
      cases ss with
      | nil => rfl
      | cons s ss => exact (h r rs s ss rfl rfl).elim

theorem sharedParts_rename (bs : List Regex) :
    sharedParts (bs.map (rename f)) = (sharedParts bs).map (rename f) := by
  have hseveral : ∀ r : Regex, (r.rename f).severalParts = r.severalParts.map (rename f) := by
    intro r
    cases r with
    | seq r s => simp [rename, severalParts, parts_rename]
    | _ => rfl
  cases bs with
  | nil => rfl
  | cons b bs =>
    simp only [List.map_cons, sharedParts, hseveral]
    generalize b.severalParts = shared
    induction bs generalizing shared with
    | nil => rfl
    | cons c bs ih => simp only [List.map_cons, List.foldl_cons, hseveral, commonParts_rename, ih]

theorem factor_rename (fuel : Nat) (bs : List Regex) :
    factor fuel (bs.map (rename f)) = (factor fuel bs).rename f := by
  induction fuel generalizing bs with
  | zero => exact ofBranches_rename f bs
  | succ fuel ih =>
    rcases bs with _ | ⟨a, _ | ⟨b, bs⟩⟩
    · rfl
    · rfl
    · rw [factor.eq_def, factor.eq_def (fuel + 1)]
      simp only [List.map_cons]
      rw [← List.map_cons, ← List.map_cons, merged?_rename, sharedParts_rename]
      cases merged? (a :: b :: bs) with
      | some s => exact (ofSet_rename f s).symm
      | none =>
        simp only
        cases hshared : sharedParts (a :: b :: bs) with
        | nil => exact ofBranches_rename f (a :: b :: bs)
        | cons q qs =>
          have hends : (((a :: b :: bs).map (rename f)).map fun b =>
              concat (b.parts.drop ((q :: qs).map (rename f)).length)).flatMap branches =
                (((a :: b :: bs).map fun b => concat (b.parts.drop (q :: qs).length)).flatMap
                  branches).map (rename f) := by
            simp only [List.map_map, List.flatMap_map, List.map_flatMap, Function.comp_def,
              parts_rename, List.length_map, ← List.map_drop, ← rename_concat, branches_rename]
          simp only [List.map_cons] at hends ⊢
          rw [hends, ih, rename_concat]
          simp

/-- An alternation of renamed expressions. -/
theorem rename_anyOf (rs : List Regex) : (anyOf rs).rename f = anyOf (rs.map (rename f)) := by
  have hbranches : (rs.map (rename f)).flatMap branches =
      (rs.flatMap branches).map (rename f) := by
    rw [List.flatMap_map, List.map_flatMap]
    exact List.flatMap_congr fun r _ => branches_rename f r
  rw [anyOf, anyOf, hbranches, factor_rename, List.map_map]
  simp only [Function.comp_def, pieces_rename]

end RequestBinding.Regex
