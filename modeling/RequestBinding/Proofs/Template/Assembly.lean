import RequestBinding.Proofs.Template.Cut
import RequestBinding.Proofs.Template.Expression
import RequestBinding.Proofs.Template.Normal

/-!
# Expressions match along segments

The expressions of a sequence of segments mean the matches along the segments. So the pattern of a
chain of templates matches along the segments of all templates, from the start of a text to its end.

## Main definitions

* `DenotesAll` - expressions with a certain meaning one after the other

## Main statements

* `Segment.denotesAll_regexes` - the meaning of the expressions of segments
* `Pattern.denotes_of_ofTemplates` - the expression of a chain of templates
-/

namespace RequestBinding

open Regex

namespace Regex

/-- Plain expressions that have a certain meaning one after the other. -/
structure DenotesAll (rs : List Regex) (m : Meaning) : Prop where
  plain : ∀ r ∈ rs, r.Plain
  meaning_eq : Meaning.seqs (meanings rs) = m

namespace DenotesAll

theorem nil : DenotesAll [] .skip := ⟨fun _ h => (List.not_mem_nil h).elim, rfl⟩

theorem singleton {r : Regex} {m : Meaning} (h : Denotes r m) : DenotesAll [r] m := by
  obtain ⟨hp, rfl⟩ := h
  refine ⟨fun s hs => ?_, ?_⟩
  · rwa [List.mem_singleton.1 hs]
  · simp

theorem append {rs qs : List Regex} {m n : Meaning} (h : DenotesAll rs m)
    (h' : DenotesAll qs n) : DenotesAll (rs ++ qs) (.seq m n) := by
  obtain ⟨hp, rfl⟩ := h
  obtain ⟨hp', rfl⟩ := h'
  refine ⟨fun r hr => (List.mem_append.1 hr).elim (hp r) (hp' r), ?_⟩
  rw [meanings_append, Meaning.seqs_append]

theorem concat {rs : List Regex} {m : Meaning} (h : DenotesAll rs m) :
    Denotes (concat rs) m := by
  obtain ⟨hp, rfl⟩ := h
  exact denotes_concat hp

end DenotesAll

/-- Text is matched one character after the other. -/
theorem denotesAll_text (text : List Char) :
    DenotesAll (text.map fun c => .literal [c]) (meaning (.literal text)) := by
  induction text with
  | nil =>
    rw [meaning_literal_nil]
    exact .nil
  | cons c text ih =>
    have hc : Denotes (.literal [c]) (meaning (.literal [c])) := ⟨trivial, rfl⟩
    rw [show c :: text = [c] ++ text from rfl, meaning_literal_append, List.map_append]
    exact (DenotesAll.singleton hc).append ih

/-- A group captures what the expression in it matches. -/
theorem Denotes.named {r : Regex} {m : Meaning} (h : Denotes r m) (name : String) :
    Denotes (.group (some name) r) (.named name m) := by
  obtain ⟨hp, rfl⟩ := h
  exact ⟨hp, rfl⟩

theorem denotes_choiceOf {rs : List Regex} (hne : rs ≠ []) (h : ∀ r ∈ rs, r.Plain) :
    Denotes (choiceOf rs) (.alts (meanings rs)) := by
  rcases rs with _ | ⟨r, _ | ⟨s, rs⟩⟩
  · exact (hne rfl).elim
  · refine ⟨h r List.mem_cons_self, ?_⟩
    simp [choiceOf]
  · exact denotes_anyOf h

/-- The meaning of a text from the start to the end. -/
def Meaning.whole (m : Meaning) : Meaning :=
  .seq (meaning (.look .textStart)) (.seq m (meaning (.look .textEnd)))

theorem DenotesAll.whole {rs : List Regex} {m : Meaning} (h : DenotesAll rs m) :
    Denotes (anchored rs) m.whole := by
  have hlook : ∀ l : Look, DenotesAll [.look l] (meaning (.look l)) := fun l =>
    .singleton ⟨trivial, rfl⟩
  exact ((hlook .textStart).append (h.append (hlook .textEnd))).concat

end Regex

/-! ## Segments -/

namespace Segment

variable {cs : Constraints} {inner : String → String → Regex}

mutual

theorem denotesAll_regexesOne
    (h : ∀ resource field, Denotes (inner resource field) (.ofTexts (cs.Fits resource field)))
    (n : Nat) (s : Segment) (hs : NormalOne s) :
    DenotesAll (regexesOne inner n s) (meaningOne cs n s) := by
  match s with
  | .literal text =>
    rw [regexesOne, meaningOne]
    exact denotesAll_text text
  | .placeholder resource field =>
    rw [regexesOne, meaningOne]
    exact .singleton ((h _ _).named (groupName n))
  | .alternation as =>
    rw [regexesOne, meaningOne]
    obtain ⟨hne, has⟩ := hs
    obtain ⟨hp, hm⟩ := denotes_regexesAlternatives h n as has
    rw [← hm]
    refine .singleton (denotes_choiceOf ?_ hp)
    cases as with
    | nil => exact (hne rfl).elim
    | cons a as =>
      rw [regexesAlternatives]
      exact List.cons_ne_nil _ _

/-- The expressions of a sequence of segments in normal form mean the matches along it. -/
theorem denotesAll_regexes
    (h : ∀ resource field, Denotes (inner resource field) (.ofTexts (cs.Fits resource field)))
    (n : Nat) (ss : List Segment) (hss : Normal ss) :
    DenotesAll (regexes inner n ss) (meaning cs n ss) := by
  match ss with
  | [] =>
    rw [regexes, meaning]
    exact .nil
  | s :: rest =>
    rw [regexes, meaning]
    exact (denotesAll_regexesOne h n s hss.1).append (denotesAll_regexes h _ rest hss.2.2)

theorem denotes_regexesAlternatives
    (h : ∀ resource field, Denotes (inner resource field) (.ofTexts (cs.Fits resource field)))
    (n : Nat) (as : List (List Segment)) (has : NormalAlternatives as) :
    (∀ r ∈ regexesAlternatives inner n as, r.Plain) ∧
      meanings (regexesAlternatives inner n as) = meaningAlternatives cs n as := by
  match as with
  | [] =>
    rw [regexesAlternatives, meaningAlternatives]
    exact ⟨fun _ hr => (List.not_mem_nil hr).elim, rfl⟩
  | a :: rest =>
    rw [regexesAlternatives, meaningAlternatives, List.forall_mem_cons, meanings_cons]
    obtain ⟨hp, hm⟩ := (denotesAll_regexes h n a has.1).concat
    obtain ⟨hps, hms⟩ := denotes_regexesAlternatives h (n + (keys a).length) rest has.2
    exact ⟨⟨hp, hps⟩, by rw [hm, hms]⟩

end

/-! ## Chains of templates -/

theorem meaning_append (cs : Constraints) (n : Nat) (ss ts : List Segment) :
    meaning cs n (ss ++ ts) = .seq (meaning cs n ss) (meaning cs (n + (keys ss).length) ts) := by
  induction ss generalizing n with
  | nil =>
    rw [List.nil_append, meaning, keys, List.length_nil, Nat.add_zero, Meaning.skip_seq]
  | cons s ss ih =>
    rw [List.cons_append, meaning, meaning, ih, Meaning.seq_assoc, keys, List.length_append,
      Nat.add_assoc]

/-- Literals of neighbouring templates may meet, so the segments of the whole chain need not be in
normal form. -/
theorem denotesAll_chain
    (h : ∀ resource field, Denotes (inner resource field) (.ofTexts (cs.Fits resource field)))
    (ts : List Template) (n : Nat) (hts : ∀ t ∈ ts, Normal t.segments) :
    DenotesAll (regexes inner n (ts.flatMap (·.segments)))
      (meaning cs n (ts.flatMap (·.segments))) := by
  induction ts generalizing n with
  | nil =>
    rw [List.flatMap_nil, regexes, meaning]
    exact .nil
  | cons t ts ih =>
    rw [List.flatMap_cons, regexes_append, meaning_append]
    exact (denotesAll_regexes h n t.segments (hts t List.mem_cons_self)).append
      (ih _ fun u hu => hts u (List.mem_cons_of_mem t hu))

end Segment

namespace Pattern

variable {cs : Constraints} {ts : List Template} {p : Pattern}

/-- The expression of a chain of templates matches along their segments from the start of a text to
its end. -/
theorem denotes_of_ofTemplates (hcs : cs.BuiltIn) (hts : ∀ t ∈ ts, Segment.Normal t.segments)
    (h : Pattern.ofTemplates cs ts = some p) :
    Denotes p.regex (Segment.meaning cs 0 (ts.flatMap (·.segments))).whole := by
  choose inner hcomplete hdenotes using exists_denotes_fits hcs
  have hencloses := fun resource field => encloses_of_complete? (hcomplete resource field)
  rw [Pattern.ofTemplates_eq] at h
  rw [(Segment.regex_of_pattern? hencloses h).1]
  exact (Segment.denotesAll_chain hdenotes ts 0 hts).whole

end Pattern

end RequestBinding
