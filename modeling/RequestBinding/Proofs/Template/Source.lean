import RequestBinding.Proofs.Template.Groups

/-!
# The text of a pattern

What the pattern of a chain of templates looks like, as a function of the segments and of the
patterns for placeholders. Neither the way the chain is cut into templates nor the constraints as
such matter.

## Main definitions

* `Segment.source` - the text for a sequence of segments
* `Segment.pattern?` - the anchored pattern of a sequence of segments

## Main statements

* `Draft.text_segments` - assembling segments adds their text
* `Pattern.ofTemplates_eq` - the pattern of a chain of templates
-/

namespace RequestBinding

open Regex

namespace Segment

/-! ## Texts -/

mutual

/-- The pattern text of one segment. Placeholders have the patterns that `inner` says, in groups
that are numbered from `n` on. -/
def sourceOne (inner : String → String → String) (n : Nat) : Segment → List Char
  | .literal text => escape text
  | .placeholder resource field =>
    ("(?P<" ++ groupName n ++ ">" ++ inner (String.ofList resource) (String.ofList field) ++
      ")").toList
  | .alternation alternatives =>
    '(' :: '?' :: ':' :: (sourceAlternatives inner n alternatives ++ [')'])

/-- The pattern text of a sequence of segments. -/
def source (inner : String → String → String) (n : Nat) : List Segment → List Char
  | [] => []
  | s :: rest => sourceOne inner n s ++ source inner (n + (keysOne s).length) rest

/-- The pattern texts of alternatives with bars between them. -/
def sourceAlternatives (inner : String → String → String) (n : Nat) :
    List (List Segment) → List Char
  | [] => []
  | [a] => source inner n a
  | a :: b :: rest =>
    source inner n a ++ '|' :: sourceAlternatives inner (n + (keys a).length) (b :: rest)

end

/-- The pattern of a sequence of segments from the start of a text to its end; none if it is not
accepted. -/
def pattern? (inner : String → String → String) (ss : List Segment) : Option Pattern :=
  let text := '^' :: (source inner 0 ss ++ ['$'])
  (ofPattern? text).map fun r => ⟨String.ofList text, r, numbered 0 (keys ss)⟩

theorem source_append (inner : String → String → String) (n : Nat) (ss ts : List Segment) :
    source inner n (ss ++ ts) = source inner n ss ++ source inner (n + (keys ss).length) ts := by
  induction ss generalizing n with
  | nil => rw [List.nil_append, source, keys, List.length_nil, Nat.add_zero, List.nil_append]
  | cons s ss ih =>
    rw [List.cons_append, source, source, ih, keys, List.length_append, List.append_assoc,
      Nat.add_assoc]

/-- Alternatives behind a first one, each with its bar. -/
theorem sourceAlternatives_cons (inner : String → String → String) (n : Nat) (a : List Segment)
    (as : List (List Segment)) : sourceAlternatives inner n (a :: as) = source inner n a ++
      if as = [] then [] else '|' :: sourceAlternatives inner (n + (keys a).length) as := by
  cases as with
  | nil => simp [sourceAlternatives]
  | cons b as => rw [sourceAlternatives, if_neg (List.cons_ne_nil b as)]

end Segment

/-! ## Drafts -/

namespace Draft

variable (cs : Constraints)

mutual

theorem text_segment (d : Draft) (s : Segment) : (Draft.segment cs d s).text =
    d.text ++ Segment.sourceOne cs.pattern d.groups.length s := by
  rw [Draft.segment.eq_def]
  match s with
  | .literal text => rw [Segment.sourceOne, text_put]
  | .placeholder resource field => rw [Segment.sourceOne, groupName, nextName]
  | .alternation as =>
    have h := text_alternatives true (d.put ['(', '?', ':']) as
    simp only [groups_put, text_put, Bool.true_or, if_true] at h ⊢
    rw [h, Segment.sourceOne]
    simp

/-- Assembling segments adds their text. -/
theorem text_segments (d : Draft) (ss : List Segment) : (Draft.segments cs d ss).text =
    d.text ++ Segment.source cs.pattern d.groups.length ss := by
  rw [Draft.segments.eq_def]
  match ss with
  | [] => rw [Segment.source, List.append_nil]
  | s :: rest =>
    simp only
    rw [text_segments, text_segment, groups_segment, List.length_append, numbered_length,
      Segment.source, List.append_assoc]

/-- Alternatives that are not the first ones have a bar before them. -/
theorem text_alternatives (first : Bool) (d : Draft) (as : List (List Segment)) :
    (Draft.alternatives cs first d as).text = d.text ++
      ((if first || as.isEmpty then [] else ['|']) ++
        Segment.sourceAlternatives cs.pattern d.groups.length as) := by
  rw [Draft.alternatives.eq_def]
  match as with
  | [] => simp [Segment.sourceAlternatives]
  | a :: rest =>
    simp only
    have hgroups : (if first then d else d.put ['|']).groups = d.groups := by
      cases first <;> rfl
    have htext : (if first then d else d.put ['|']).text =
        d.text ++ if first then [] else ['|'] := by
      cases first <;> simp
    rw [text_alternatives, text_segments, groups_segments, hgroups, htext, List.length_append,
      numbered_length, Segment.sourceAlternatives_cons]
    cases rest <;> simp [Segment.sourceAlternatives]

end

/-- The text of a chain of templates is that of all segments. -/
theorem text_templates (ts : List Template) : (Draft.templates cs ts).text =
    Segment.source cs.pattern 0 (ts.flatMap (·.segments)) := by
  -- the fold is followed from any draft
  have h : ∀ d : Draft, (ts.foldl (fun d t => d.segments cs t.segments) d).text =
      d.text ++ Segment.source cs.pattern d.groups.length (ts.flatMap (·.segments)) := by
    induction ts with
    | nil => exact fun d => (List.append_nil d.text).symm
    | cons t ts ih =>
      intro d
      rw [List.foldl_cons, ih, Draft.text_segments, Draft.groups_segments, List.length_append,
        numbered_length, List.flatMap_cons, Segment.source_append, List.append_assoc]
  exact h .empty

end Draft

/-- The pattern of a chain of templates is that of all segments. -/
theorem Pattern.ofTemplates_eq (cs : Constraints) (ts : List Template) :
    Pattern.ofTemplates cs ts = Segment.pattern? cs.pattern (ts.flatMap (·.segments)) := by
  rw [Pattern.ofTemplates, Segment.pattern?, Draft.anchored, Draft.text_templates,
    Draft.groups_templates]

end RequestBinding
