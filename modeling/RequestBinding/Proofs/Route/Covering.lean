import RequestBinding.Proofs.Route.Alternatives
import RequestBinding.Proofs.Route.Captures

/-!
# Alternatives that never win

If the first alternative of a template has all the texts that the others have, the others never win:
a route captures what it would capture if the first alternative stood there alone.

## Main definitions

* `Route.along` - the route of a sequence of segments
* `Segment.Covers` - an alternative that has all the texts of others

## Main statements

* `Segment.cut_append_iff` - cuts along two sequences one after the other
* `Route.captures_along_of_covers` - the first alternative wins
* `Route.keys_sublist_of_covers` - the keys under which a route captures
-/

namespace RequestBinding

open Regex

/-! ## Cuts -/

namespace Segment

variable {cs : Constraints}

theorem cut_append_iff {ss ts : List Segment} {text : List Char}
    {pairs : List (String × List Char)} : Cut cs (ss ++ ts) text pairs ↔
      ∃ t u ps qs, Cut cs ss t ps ∧ Cut cs ts u qs ∧ text = t ++ u ∧ pairs = ps ++ qs := by
  induction ss generalizing text pairs with
  | nil =>
    constructor
    · exact fun h => ⟨[], text, [], pairs, .nil, h, rfl, rfl⟩
    · rintro ⟨_, _, _, _, hnil, h, rfl, rfl⟩
      cases hnil
      exact h
  | cons s ss ih =>
    constructor
    · intro h
      cases h with
      | cons hone hrest =>
        obtain ⟨t, u, ps, qs, hss, hts, rfl, rfl⟩ := ih.1 hrest
        exact ⟨_, u, _, qs, .cons hone hss, hts, (List.append_assoc ..).symm,
          (List.append_assoc ..).symm⟩
    · rintro ⟨_, u, _, qs, h, hts, rfl, rfl⟩
      cases h with
      | cons hone hss =>
        rw [List.append_assoc, List.append_assoc]
        exact .cons hone (ih.2 ⟨_, u, _, qs, hss, hts, rfl, rfl⟩)

/-- An alternative has all the texts that others have. -/
def Covers (cs : Constraints) (a : List Segment) (as : List (List Segment)) : Prop :=
  ∀ b ∈ as, ∀ text pairs, Cut cs b text pairs → ∃ pairs', Cut cs a text pairs'

/-- What can be cut along one of several alternatives can be cut along one that covers them. -/
theorem Covers.exists_cut {a : List Segment} {as : List (List Segment)} (h : Covers cs a as)
    {b : List Segment} (hb : b ∈ as) {s : Segment} {ts : List Segment} {text : List Char}
    {pairs : List (String × List Char)} (hcut : Cut cs (s :: (b ++ ts)) text pairs) :
    ∃ pairs', Cut cs (s :: (a ++ ts)) text pairs' := by
  cases hcut with
  | cons hone hrest =>
    obtain ⟨t, u, _, qs, hcut, hts, rfl, rfl⟩ := cut_append_iff.1 hrest
    obtain ⟨ps, hcut⟩ := h b hb t _ hcut
    exact ⟨_, .cons hone (cut_append_iff.2 ⟨t, u, ps, qs, hcut, hts, rfl, rfl⟩)⟩

/-- The expressions of legible segments mean the matches along them. -/
theorem denotesAll_of_legible {inner : String → String → Regex}
    (h : ∀ resource field, Denotes (inner resource field) (.ofTexts (cs.Fits resource field)))
    (n : Nat) {ss : List Segment} (hss : ∀ s ∈ ss, s.Legible) :
    DenotesAll (regexes inner n ss) (meaning cs n ss) := by
  induction ss generalizing n with
  | nil =>
    rw [regexes, meaning]
    exact .nil
  | cons s ss ih =>
    obtain ⟨hs, hss⟩ := List.forall_mem_cons.1 hss
    have hone : DenotesAll (regexesOne inner n s) (meaningOne cs n s) := by
      cases s with
      | literal text =>
        rw [regexesOne, meaningOne]
        exact denotesAll_text text
      | placeholder resource field => exact denotesAll_regexesOne h n _ hs
      | alternation as => exact denotesAll_regexesOne h n _ hs
    rw [regexes, meaning]
    exact hone.append (ih _ hss)

end Segment

/-! ## Routes -/

namespace Route

open Segment (Legible Covers)

/-- A route with the expressions of segments, where those for placeholders are given. -/
def along (inner : String → String → Regex) (ss : List Segment) : Route :=
  ⟨.get, "", ⟨"", anchored (Segment.regexes inner 0 ss), numbered 0 (Segment.keys ss)⟩, "", ""⟩

variable {cs : Constraints} {inner : String → String → Regex} {text : List Char}
  {ts : List Segment}

theorem captures_eq_along (hinner : ∀ resource field,
      Encloses (cs.pattern resource field).toList (inner resource field)) {r : Route}
    {ss : List Segment} (hr : r.CompiledFrom cs (Segment.render ss)) (hss : ∀ s ∈ ss, s.Legible)
    (path : String) : r.captures path = (along inner ss).captures path :=
  captures_of_pattern? hinner (hr.pattern hss rfl) path

/-- An alternation behind literal text is tried alternative by alternative. -/
theorem captures_along_alternation
    (hnames : ∀ resource field, (inner resource field).names = []) {as : List (List Segment)}
    (has : ∃ a ∈ as, Segment.Normal a ∧ Segment.Unambiguous a) (path : String) :
    (along inner (.literal text :: .alternation as :: ts)).captures path =
      (as.map fun a => along inner (.literal text :: (a ++ ts))).findSome? (·.captures path) := by
  have heach : List.Forall₂ (fun a r => r.captures path =
      ((anchored (Segment.regexes inner 0 (.literal text :: (a ++ ts)))).find path.toList).map
        (capturesOf (numbered 0 (Segment.keys a ++ Segment.keys ts)))) as
      (as.map fun a => along inner (.literal text :: (a ++ ts))) := by
    rw [List.forall₂_map_right_iff, List.forall₂_same]
    intro a _
    rw [captures, along, Segment.keys, Segment.keysOne, List.nil_append, Segment.keys_append]
  rw [← Segment.findSome?_alternatives hnames heach [], captures, along,
    Segment.find_alternation inner text ts has, List.map_findSome?]
  rfl

theorem isSome_captures_along_iff
    (hdenotes : ∀ resource field,
      Denotes (inner resource field) (.ofTexts (cs.Fits resource field)))
    {ss : List Segment} (hss : ∀ s ∈ ss, s.Legible) (path : String) :
    ((along inner ss).captures path).isSome = true ↔
      ∃ pairs, Segment.Cut cs ss path.toList pairs := by
  rw [captures, Option.isSome_map]
  exact Segment.find_isSome_iff (Segment.denotesAll_of_legible hdenotes 0 hss).whole path.toList

/-- An alternative that covers those behind it wins whenever one of them could. -/
theorem captures_along_of_covers
    (hnames : ∀ resource field, (inner resource field).names = [])
    (hdenotes : ∀ resource field,
      Denotes (inner resource field) (.ofTexts (cs.Fits resource field)))
    {a : List Segment} {as : List (List Segment)}
    (hss : ∀ s ∈ Segment.literal text :: .alternation (a :: as) :: ts, s.Legible)
    (ha : Segment.Unambiguous a) (hcovers : Covers cs a as) (path : String) :
    (along inner (.literal text :: .alternation (a :: as) :: ts)).captures path =
      (along inner (.literal text :: (a ++ ts))).captures path := by
  obtain ⟨htext, halternation, hts⟩ := by simpa only [List.forall_mem_cons] using hss
  have hnormal := Segment.normalAlternatives_iff.1 halternation.2
  have hlegible : ∀ b ∈ a :: as, ∀ s ∈ Segment.literal text :: (b ++ ts), s.Legible := by
    intro b hb
    exact List.forall_mem_cons.2 ⟨htext, List.forall_mem_append.2
      ⟨Segment.legible_of_normal (hnormal b hb), hts⟩⟩
  have hfirst : ∃ b ∈ a :: as, Segment.Normal b ∧ Segment.Unambiguous b :=
    ⟨a, List.mem_cons_self, hnormal a List.mem_cons_self, ha⟩
  rw [captures_along_alternation hnames hfirst, List.map_cons, List.findSome?_cons]
  cases hnone : (along inner (.literal text :: (a ++ ts))).captures path with
  | some c => rfl
  | none =>
    -- a path of a later alternative would be one of the first alternative too
    simp only [List.findSome?_eq_none_iff, List.forall_mem_map]
    intro b hb
    rw [← Option.not_isSome_iff_eq_none,
      isSome_captures_along_iff hdenotes (hlegible b (List.mem_cons_of_mem a hb))]
    rintro ⟨pairs, hcut⟩
    have hsome := (isSome_captures_along_iff hdenotes (hlegible a List.mem_cons_self) path).2
      (hcovers.exists_cut hb hcut)
    rw [hnone] at hsome
    cases hsome

/-- Behind an alternative that covers the others, nothing is captured under their keys. -/
theorem keys_sublist_of_covers (hcs : cs.BuiltIn) {a : List Segment} {as : List (List Segment)}
    (hss : ∀ s ∈ Segment.literal text :: .alternation (a :: as) :: ts, s.Legible)
    (ha : Segment.Unambiguous a) (hcovers : Covers cs a as) {r : Route}
    (hr : r.CompiledFrom cs (Segment.render (.literal text :: .alternation (a :: as) :: ts)))
    {path : String} {c : Captures} (hc : r.captures path = some c) :
    c.keys.Sublist (Segment.keys (a ++ ts)) := by
  choose inner hcomplete hdenotes using exists_denotes_fits hcs
  have hinner := fun resource field => encloses_of_complete? (hcomplete resource field)
  have hnames := fun resource field => names_of_complete? (hcomplete resource field)
  rw [captures_eq_along hinner hr hss,
    captures_along_of_covers hnames hdenotes hss ha hcovers] at hc
  have hkeys : (along inner (.literal text :: (a ++ ts))).keys = Segment.keys (a ++ ts) := by
    rw [keys, along, numbered_keys, Segment.keys, Segment.keysOne, List.nil_append]
  rw [← hkeys]
  exact keys_sublist_of_captures hc

end Route

end RequestBinding
