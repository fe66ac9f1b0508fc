import Mathlib.Data.List.Basic
import RequestBinding.Proofs.Template.Groups
import RequestBinding.Proofs.Template.Placeholder

/-!
# Templates cut texts into pieces

A sequence of segments says how a text may be cut into pieces, and which pieces its placeholders
get. A relation between places that captures each of these pieces in a group of its own matches just
the texts that can be cut, and its captures are the pieces of one such cut.

## Main definitions

* `Segment.Cut` - the cuts of a text along a sequence of segments
* `Segment.meaning` - the matches along a sequence of segments
* `Yields` - the captures of a match give the pieces of a cut

## Main statements

* `Segment.exists_cut` - a match gives a cut
* `Segment.exists_match` - a cut gives a match
-/

namespace RequestBinding

open Regex

namespace Segment

/-! ## Cuts -/

mutual

/-- A piece of a text along one segment, with the pieces of the placeholders in it by their keys. -/
inductive CutOne (cs : Constraints) : Segment → List Char → List (String × List Char) → Prop
  | literal (text : List Char) : CutOne cs (.literal text) text []
  | placeholder {resource field piece : List Char}
      (h : cs.Fits (String.ofList resource) (String.ofList field) piece) :
      CutOne cs (.placeholder resource field) piece [(key resource field, piece)]
  | alternation {alternatives : List (List Segment)} {a : List Segment} {piece : List Char}
      {pairs : List (String × List Char)} (ha : a ∈ alternatives) (h : Cut cs a piece pairs) :
      CutOne cs (.alternation alternatives) piece pairs

/-- A text is cut into consecutive pieces, one for each segment in order. The pairs are the pieces
of the placeholders that took part, from left to right. -/
inductive Cut (cs : Constraints) : List Segment → List Char → List (String × List Char) → Prop
  | nil : Cut cs [] [] []
  | cons {s : Segment} {rest : List Segment} {piece text : List Char}
      {pairs more : List (String × List Char)} (h : CutOne cs s piece pairs)
      (hrest : Cut cs rest text more) : Cut cs (s :: rest) (piece ++ text) (pairs ++ more)

end

/-! ## Meanings -/

mutual

/-- The matches along one segment, whose groups are numbered from `n` on. -/
def meaningOne (cs : Constraints) (n : Nat) : Segment → Meaning
  | .literal text => Regex.meaning (.literal text)
  | .placeholder resource field =>
    .named (groupName n) (.ofTexts (cs.Fits (String.ofList resource) (String.ofList field)))
  | .alternation alternatives => .alts (meaningAlternatives cs n alternatives)

/-- The matches along a sequence of segments. -/
def meaning (cs : Constraints) (n : Nat) : List Segment → Meaning
  | [] => .skip
  | s :: rest => .seq (meaningOne cs n s) (meaning cs (n + (keysOne s).length) rest)

/-- The matches along each of several alternatives. -/
def meaningAlternatives (cs : Constraints) (n : Nat) : List (List Segment) → List Meaning
  | [] => []
  | a :: rest => meaning cs n a :: meaningAlternatives cs (n + (keys a).length) rest

end

end Segment

/-! ## Captures -/

/-- What a group captured last. -/
def textOf (k : List Capture) (name : String) : Option (List Char) :=
  (k.reverse.find? (·.name == name)).map Capture.text

theorem textOf_eq_none {k : List Capture} {name : String} (h : ∀ x ∈ k, x.name ≠ name) :
    textOf k name = none := by
  rw [textOf, Option.map_eq_none_iff, List.find?_eq_none]
  intro x hx
  rw [beq_iff_eq]
  exact h x (List.mem_reverse.1 hx)

theorem textOf_append (k l : List Capture) (name : String) :
    textOf (k ++ l) name = (textOf l name).or (textOf k name) := by
  rw [textOf, List.reverse_append, List.find?_append, Option.map_or]
  rfl

/-- The captures of a match belong to certain groups, and the keys of those groups that took part,
with the texts they captured, are certain pairs. -/
structure Yields (gs : List CaptureGroup) (k : List Capture) (pairs : List (String × List Char)) :
    Prop where
  names : ∀ x ∈ k, ∃ g ∈ gs, g.name = x.name
  pairs : (gs.filterMap fun g => (textOf k g.name).map (g.key, ·)) = pairs

namespace Yields

theorem nil (gs : List CaptureGroup) : Yields gs [] [] := by
  refine ⟨fun x hx => (List.not_mem_nil hx).elim, ?_⟩
  rw [List.filterMap_eq_nil_iff]
  intro g _
  rfl

/-- A group with a name captures the text between two places. -/
theorem named {n : Nat} {key : String} {c e : Cursor} {text : List Char} (h : c.Takes text e) :
    Yields (numbered n [key]) (captured (some (groupName n)) c e) [(key, text)] := by
  refine ⟨fun x hx => ?_, ?_⟩
  · rw [List.mem_singleton.1 hx]
    exact ⟨⟨groupName n, key⟩, List.mem_singleton.2 rfl, rfl⟩
  · simp [numbered, textOf, captured, Capture.text, h.textTo]

/-- Matches one after the other, whose groups have different names. -/
theorem append {gs hs : List CaptureGroup} {k l : List Capture}
    {ps qs : List (String × List Char)} (hk : Yields gs k ps) (hl : Yields hs l qs)
    (hne : ∀ g ∈ gs, ∀ h ∈ hs, g.name ≠ h.name) : Yields (gs ++ hs) (k ++ l) (ps ++ qs) := by
  -- the second match captures under other names, although it comes last
  have hleft : ∀ g ∈ gs, textOf (k ++ l) g.name = textOf k g.name := by
    intro g hg
    have hnone : textOf l g.name = none := textOf_eq_none fun x hx heq => by
      obtain ⟨h, hh, hname⟩ := hl.names x hx
      exact hne g hg h hh (heq.symm.trans hname.symm)
    rw [textOf_append, hnone, Option.none_or]
  have hright : ∀ h ∈ hs, textOf (k ++ l) h.name = textOf l h.name := by
    intro h hh
    have hnone : textOf k h.name = none := textOf_eq_none fun x hx heq => by
      obtain ⟨g, hg, hname⟩ := hk.names x hx
      exact hne g hg h hh (hname.trans heq)
    rw [textOf_append, hnone, Option.or_none]
  refine ⟨fun x hx => ?_, ?_⟩
  · rcases List.mem_append.1 hx with hx | hx
    · obtain ⟨g, hg, hname⟩ := hk.names x hx
      exact ⟨g, List.mem_append_left hs hg, hname⟩
    · obtain ⟨h, hh, hname⟩ := hl.names x hx
      exact ⟨h, List.mem_append_right gs hh, hname⟩
  · rw [List.filterMap_append, ← hk.pairs, ← hl.pairs]
    congr 1
    · refine List.filterMap_congr fun g hg => ?_
      rw [hleft g hg]
    · refine List.filterMap_congr fun h hh => ?_
      rw [hright h hh]

/-- Matches one after the other, whose groups are numbered in order. -/
theorem seq {n : Nat} {ks ls : List String} {k l : List Capture}
    {ps qs : List (String × List Char)} (hk : Yields (numbered n ks) k ps)
    (hl : Yields (numbered (n + ks.length) ls) l qs) :
    Yields (numbered n (ks ++ ls)) (k ++ l) (ps ++ qs) := by
  rw [numbered_append]
  exact hk.append hl fun g hg h hh => name_ne_of_mem_numbered (Nat.le_refl _) hg hh

/-- Further groups that take no part, before those of a match. -/
theorem skip_left {n : Nat} {ls : List String} {l : List Capture} {qs : List (String × List Char)}
    (ks : List String) (hl : Yields (numbered (n + ks.length) ls) l qs) :
    Yields (numbered n (ks ++ ls)) l qs := (nil (numbered n ks)).seq hl

/-- Further groups that take no part, behind those of a match. -/
theorem skip_right {n : Nat} {ks : List String} {k : List Capture}
    {ps : List (String × List Char)} (hk : Yields (numbered n ks) k ps) (ls : List String) :
    Yields (numbered n (ks ++ ls)) k ps := by
  have h := hk.seq (nil (numbered (n + ks.length) ls))
  rwa [List.append_nil, List.append_nil] at h

end Yields

/-! ## Matches and cuts -/

namespace Segment

variable {cs : Constraints}

mutual

theorem exists_cut_one (s : Segment) {n : Nat} {c e : Cursor} {k : List Capture}
    (h : meaningOne cs n s c e k) : ∃ text pairs, c.Takes text e ∧ CutOne cs s text pairs ∧
      Yields (numbered n (keysOne s)) k pairs := by
  match s with
  | .literal text =>
    rw [meaningOne] at h
    obtain ⟨htakes, rfl⟩ := h
    exact ⟨text, [], htakes, .literal text, Yields.nil _⟩
  | .placeholder resource field =>
    rw [meaningOne] at h
    obtain ⟨_, ⟨⟨text, hfits, htakes⟩, rfl⟩, rfl⟩ := h
    exact ⟨text, _, htakes, .placeholder hfits, Yields.named htakes⟩
  | .alternation as =>
    rw [meaningOne] at h
    obtain ⟨a, ha, text, pairs, htakes, hcut, hyields⟩ := exists_cut_alternatives as h
    exact ⟨text, pairs, htakes, .alternation ha hcut, hyields⟩

/-- A match along a sequence of segments gives a cut of the text it takes, and its captures are the
pieces of this cut. -/
theorem exists_cut (ss : List Segment) {n : Nat} {c e : Cursor} {k : List Capture}
    (h : meaning cs n ss c e k) : ∃ text pairs, c.Takes text e ∧ Cut cs ss text pairs ∧
      Yields (numbered n (keys ss)) k pairs := by
  match ss with
  | [] =>
    rw [meaning] at h
    obtain ⟨rfl, rfl⟩ := h
    exact ⟨[], [], Cursor.Takes.refl e, .nil, Yields.nil _⟩
  | s :: rest =>
    rw [meaning] at h
    obtain ⟨d, k₁, k₂, h₁, h₂, rfl⟩ := h
    obtain ⟨t, ps, ht, hcut, hyields⟩ := exists_cut_one s h₁
    obtain ⟨u, qs, hu, hcuts, hyields'⟩ := exists_cut rest h₂
    refine ⟨t ++ u, ps ++ qs, ht.trans hu, .cons hcut hcuts, ?_⟩
    rw [keys]
    exact hyields.seq hyields'

theorem exists_cut_alternatives (as : List (List Segment)) {n : Nat} {c e : Cursor}
    {k : List Capture} (h : Meaning.alts (meaningAlternatives cs n as) c e k) :
    ∃ a ∈ as, ∃ text pairs, c.Takes text e ∧ Cut cs a text pairs ∧
      Yields (numbered n (keysAlternatives as)) k pairs := by
  match as with
  | [] =>
    rw [meaningAlternatives] at h
    exact h.elim
  | a :: rest =>
    rw [meaningAlternatives] at h
    rw [keysAlternatives]
    -- the groups of the alternatives that were not chosen took no part
    rcases h with h | h
    · obtain ⟨text, pairs, htakes, hcut, hyields⟩ := exists_cut a h
      exact ⟨a, List.mem_cons_self, text, pairs, htakes, hcut, hyields.skip_right _⟩
    · obtain ⟨b, hb, text, pairs, htakes, hcut, hyields⟩ := exists_cut_alternatives rest h
      exact ⟨b, List.mem_cons_of_mem a hb, text, pairs, htakes, hcut, hyields.skip_left _⟩

end

mutual

theorem exists_match_one (s : Segment) (n : Nat) {c e : Cursor} {text : List Char}
    {pairs : List (String × List Char)} (h : CutOne cs s text pairs) (ht : c.Takes text e) :
    ∃ k, meaningOne cs n s c e k := by
  match s with
  | .literal _ =>
    cases h
    rw [meaningOne]
    exact ⟨[], ht, rfl⟩
  | .placeholder resource field =>
    cases h with
    | placeholder hfits =>
      rw [meaningOne]
      exact ⟨_, [], ⟨⟨text, hfits, ht⟩, rfl⟩, rfl⟩
  | .alternation as =>
    cases h with
    | alternation ha h =>
      rw [meaningOne]
      exact exists_match_alternatives as n ha h ht

/-- Every cut of a text along a sequence of segments comes from a match. -/
theorem exists_match (ss : List Segment) (n : Nat) {c e : Cursor} {text : List Char}
    {pairs : List (String × List Char)} (h : Cut cs ss text pairs) (ht : c.Takes text e) :
    ∃ k, meaning cs n ss c e k := by
  match ss with
  | [] =>
    cases h
    rw [meaning]
    exact ⟨[], Cursor.takes_nil.1 ht, rfl⟩
  | s :: rest =>
    cases h with
    | cons h hrest =>
      obtain ⟨d, hpiece, htext⟩ := Cursor.takes_append.1 ht
      obtain ⟨k₁, h₁⟩ := exists_match_one s n h hpiece
      obtain ⟨k₂, h₂⟩ := exists_match rest (n + (keysOne s).length) hrest htext
      rw [meaning]
      exact ⟨k₁ ++ k₂, d, k₁, k₂, h₁, h₂, rfl⟩

theorem exists_match_alternatives (as : List (List Segment)) (n : Nat) {a : List Segment}
    (ha : a ∈ as) {c e : Cursor} {text : List Char} {pairs : List (String × List Char)}
    (h : Cut cs a text pairs) (ht : c.Takes text e) :
    ∃ k, Meaning.alts (meaningAlternatives cs n as) c e k := by
  match as with
  | [] => cases ha
  | b :: rest =>
    rw [meaningAlternatives]
    rcases List.mem_cons.1 ha with heq | ha
    · rw [heq] at h
      obtain ⟨k, hk⟩ := exists_match b n h ht
      exact ⟨k, .inl hk⟩
    · obtain ⟨k, hk⟩ := exists_match_alternatives rest (n + (keys b).length) ha h ht
      exact ⟨k, .inr hk⟩

end

end Segment

end RequestBinding
