import RequestBinding.Proofs.Template.Source

/-!
# Expressions of segments

The pattern text of a sequence of segments is read piece by piece, so its expression is a function
of the segments and of the expressions of the patterns for placeholders.

## Main definitions

* `Regex.anchored` - expressions that take a whole text
* `Segment.regexes` - the expressions of a sequence of segments

## Main statements

* `Segment.readsAs_source` - what the text of segments is read as
* `Segment.regex_of_pattern?` - the expression of the pattern of segments
-/

namespace RequestBinding

open Regex

/-- The concatenation of expressions from the start of a text to its end. -/
def Regex.anchored (rs : List Regex) : Regex :=
  concat (.look .textStart :: (rs ++ [.look .textEnd]))

namespace Segment

/-! ## Expressions -/

mutual

/-- The expressions of one segment. The groups of placeholders are numbered from `n` on, and `inner`
says what is in them. -/
def regexesOne (inner : String → String → Regex) (n : Nat) : Segment → List Regex
  | .literal text => text.map fun c => .literal [c]
  | .placeholder resource field =>
    [.group (some (groupName n)) (inner (String.ofList resource) (String.ofList field))]
  | .alternation alternatives => [choiceOf (regexesAlternatives inner n alternatives)]

/-- The expressions of a sequence of segments, to be concatenated. -/
def regexes (inner : String → String → Regex) (n : Nat) : List Segment → List Regex
  | [] => []
  | s :: rest => regexesOne inner n s ++ regexes inner (n + (keysOne s).length) rest

/-- The expressions of alternatives, to be chosen from. -/
def regexesAlternatives (inner : String → String → Regex) (n : Nat) :
    List (List Segment) → List Regex
  | [] => []
  | a :: rest =>
    concat (regexes inner n a) :: regexesAlternatives inner (n + (keys a).length) rest

end

theorem regexes_append (inner : String → String → Regex) (n : Nat) (ss ts : List Segment) :
    regexes inner n (ss ++ ts) =
      regexes inner n ss ++ regexes inner (n + (keys ss).length) ts := by
  induction ss generalizing n with
  | nil => rw [List.nil_append, regexes, keys, List.length_nil, Nat.add_zero, List.nil_append]
  | cons s ss ih =>
    rw [List.cons_append, regexes, regexes, ih, keys, List.length_append, List.append_assoc,
      Nat.add_assoc]

/-! ## Reading -/

variable {pattern : String → String → String} {inner : String → String → Regex}

mutual

theorem readsAs_sourceOne (h : ∀ resource field,
    Encloses (pattern resource field).toList (inner resource field)) (n : Nat) (s : Segment) :
    ReadsAs (sourceOne pattern n s) (regexesOne inner n s) n (n + (keysOne s).length) := by
  match s with
  | .literal text =>
    rw [sourceOne, regexesOne, keysOne]
    exact readsAs_escape text n
  | .placeholder resource field =>
    rw [sourceOne, regexesOne, keysOne]
    have hread := readsAs_named (h (String.ofList resource) (String.ofList field)) n
    simpa using hread
  | .alternation as =>
    rw [sourceOne, regexesOne, keysOne]
    exact readsAs_branches_source h n as

/-- The text of a sequence of segments is read as its expressions. -/
theorem readsAs_source (h : ∀ resource field,
    Encloses (pattern resource field).toList (inner resource field)) (n : Nat)
    (ss : List Segment) : ReadsAs (source pattern n ss) (regexes inner n ss) n
      (n + (keys ss).length) := by
  match ss with
  | [] =>
    rw [source, regexes, keys]
    exact readsAs_nil n
  | s :: rest =>
    rw [source, regexes, keys, List.length_append, ← Nat.add_assoc]
    exact (readsAs_sourceOne h n s).append (readsAs_source h _ rest)

theorem readsBranches_source (h : ∀ resource field,
    Encloses (pattern resource field).toList (inner resource field)) (n : Nat)
    (as : List (List Segment)) (hne : as ≠ []) :
    ReadsBranches (sourceAlternatives pattern n as) (regexesAlternatives inner n as) n
      (n + (keysAlternatives as).length) := by
  match as with
  | [] => exact (hne rfl).elim
  | [a] =>
    simp only [sourceAlternatives, regexesAlternatives, keysAlternatives, List.append_nil]
    exact (readsAs_source h n a).branch
  | a :: b :: rest =>
    rw [sourceAlternatives, regexesAlternatives, keysAlternatives, List.length_append,
      ← Nat.add_assoc]
    exact .cons (readsAs_source h n a)
      (readsBranches_source h _ (b :: rest) (List.cons_ne_nil b rest))

/-- A group without alternatives is read as one with an empty one. -/
theorem readsAs_branches_source (h : ∀ resource field,
    Encloses (pattern resource field).toList (inner resource field)) (n : Nat)
    (as : List (List Segment)) :
    ReadsAs ('(' :: '?' :: ':' :: (sourceAlternatives pattern n as ++ [')']))
      [choiceOf (regexesAlternatives inner n as)] n (n + (keysAlternatives as).length) := by
  match as with
  | [] =>
    have hread := readsAs_branches (readsAs_nil n).branch
    rw [sourceAlternatives, regexesAlternatives, keysAlternatives]
    exact hread
  | a :: rest => exact readsAs_branches (readsBranches_source h n (a :: rest) (by simp))

end

/-- The expression of the pattern of a sequence of segments, and its groups. -/
theorem regex_of_pattern? (h : ∀ resource field,
    Encloses (pattern resource field).toList (inner resource field)) {ss : List Segment}
    {p : Pattern} (hp : pattern? pattern ss = some p) :
    p.regex = anchored (regexes inner 0 ss) ∧ p.groups = numbered 0 (keys ss) := by
  rw [pattern?, Option.map_eq_some_iff] at hp
  obtain ⟨r, hr, rfl⟩ := hp
  rw [Regex.ofPattern?, Option.filter_eq_some_iff] at hr
  exact ⟨eq_concat_of_read? (readsAs_source h 0 ss) hr.1, rfl⟩

end Segment

end RequestBinding
