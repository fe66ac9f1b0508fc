import Mathlib.Data.List.Forall2
import RequestBinding.Proofs.Template.Cut
import RequestBinding.Proofs.Text.Cutting

/-!
# Templates and the segments of a path

What a placeholder stands for never has a slash in it. So a path that is cut along a template has
the slashes of the literals and no others, and each of its parts between two slashes goes along the
same part of the template. Templates whose parts differ in number, or that have different literal
parts at the same place, have no path in common.

## Main definitions

* `Segment.AtBreak` - texts that begin at the end of a segment of a path
* `Segment.Along` - texts along characters and gaps
* `Segment.outline` - the parts of a template between its slashes
* `Segment.Apart` - outlines that have no path in common

## Main statements

* `Segment.forall₂_along_of_cut` - the parts of a path go along those of its template
* `Segment.Apart.elim` - no path goes along both of two outlines that are apart
-/

namespace RequestBinding

namespace Segment

variable {cs : Constraints}

/-! ## Breaks -/

/-- The text is empty or begins with a slash. -/
def AtBreak (text : List Char) : Prop := ∀ c ∈ text.head?, c = '/'

theorem atBreak_nil : AtBreak [] := nofun

theorem atBreak_slash (text : List Char) : AtBreak ('/' :: text) :=
  fun _ hc => (Option.some.inj hc).symm

/-- A piece without slashes that goes up to a break is the longest one. -/
theorem AtBreak.takeWhile_append {piece text : List Char} (h : AtBreak text) (hp : '/' ∉ piece) :
    (piece ++ text).takeWhile (· != '/') = piece :=
  (takeWhile_bne_append hp h).1

/-- There is one way to go up to a break. -/
theorem AtBreak.append_inj {piece piece' text text' : List Char} (ht : AtBreak text)
    (ht' : AtBreak text') (hp : '/' ∉ piece) (hp' : '/' ∉ piece')
    (h : piece ++ text = piece' ++ text') : piece = piece' ∧ text = text' := by
  have hpiece : piece = piece' := by
    rw [← ht.takeWhile_append hp, h, ht'.takeWhile_append hp']
  subst hpiece
  exact ⟨rfl, List.append_cancel_left h⟩

/-- What is cut along a template that begins at a break begins at a break. -/
theorem atBreak_of_cut {ss : List Segment} (hbreak : AtBreak (render ss)) {text : List Char}
    {pairs : List (String × List Char)} (h : Cut cs ss text pairs) : AtBreak text := by
  induction ss generalizing text pairs with
  | nil =>
    cases h
    exact atBreak_nil
  | cons s ss ih =>
    cases h with
    | @cons _ _ piece text _ _ hone hrest =>
      rw [render] at hbreak
      -- the text of any other segment than a literal begins with a mark
      cases s with
      | literal characters =>
        cases hone
        cases piece with
        | nil => exact ih hbreak hrest
        | cons c piece => exact hbreak
      | placeholder resource field => exact absurd (hbreak '{' rfl) (by decide)
      | alternation as => exact absurd (hbreak '(' rfl) (by decide)

/-! ## Slashes -/

theorem slash_not_mem_of_fits {resource field : String} {text : List Char}
    (h : cs.Fits resource field text) : '/' ∉ text := by
  cases h with
  | digits _ _ hall => exact fun hmem => absurd (hall _ hmem) (by decide)
  | @slug owner name f _ hf _ _ howner hname =>
    have hne : '/' ≠ f := by
      rcases hf with rfl | rfl <;> decide
    simp [howner, hname, hne]
  | rest _ _ hall => exact fun hmem => (hall _ hmem).1 rfl

mutual

/-- Whether no literal of a segment has a slash in it. -/
def slashFreeOne : Segment → Bool
  | .literal text => !text.contains '/'
  | .placeholder _ _ => true
  | .alternation alternatives => slashFreeAlternatives alternatives

/-- Whether no literal of a sequence of segments has a slash in it. -/
def slashFree : List Segment → Bool
  | [] => true
  | s :: rest => slashFreeOne s && slashFree rest

/-- Whether no literal of alternatives has a slash in it. -/
def slashFreeAlternatives : List (List Segment) → Bool
  | [] => true
  | a :: rest => slashFree a && slashFreeAlternatives rest

end

mutual

theorem slash_not_mem_of_cutOne (s : Segment) (hs : slashFreeOne s = true) {text : List Char}
    {pairs : List (String × List Char)} (h : CutOne cs s text pairs) : '/' ∉ text := by
  match s with
  | .literal _ =>
    cases h
    rw [slashFreeOne, Bool.not_eq_true', List.contains_eq_mem, decide_eq_false_iff_not] at hs
    exact hs
  | .placeholder _ _ =>
    cases h with
    | placeholder hfits => exact slash_not_mem_of_fits hfits
  | .alternation as =>
    cases h with
    | alternation ha hcut =>
      rw [slashFreeOne] at hs
      exact slash_not_mem_of_mem as hs ha hcut

/-- Texts of segments without slashes have no slashes. -/
theorem slash_not_mem_of_cut (ss : List Segment) (hss : slashFree ss = true) {text : List Char}
    {pairs : List (String × List Char)} (h : Cut cs ss text pairs) : '/' ∉ text := by
  match ss with
  | [] =>
    cases h
    exact List.not_mem_nil
  | s :: rest =>
    cases h with
    | cons hone hrest =>
      rw [slashFree, Bool.and_eq_true] at hss
      rw [List.mem_append, not_or]
      exact ⟨slash_not_mem_of_cutOne s hss.1 hone, slash_not_mem_of_cut rest hss.2 hrest⟩

theorem slash_not_mem_of_mem (as : List (List Segment)) (has : slashFreeAlternatives as = true)
    {a : List Segment} (ha : a ∈ as) {text : List Char} {pairs : List (String × List Char)}
    (h : Cut cs a text pairs) : '/' ∉ text := by
  match as with
  | [] => cases ha
  | b :: rest =>
    rw [slashFreeAlternatives, Bool.and_eq_true] at has
    rcases List.mem_cons.1 ha with heq | ha
    · rw [heq] at h
      exact slash_not_mem_of_cut b has.1 h
    · exact slash_not_mem_of_mem rest has.2 ha h

end

/-! ## Sketches -/

/-- A text along characters and gaps, where a gap is filled by any text without slashes. -/
inductive Along : List (Option Char) → List Char → Prop
  | nil : Along [] []
  | char (c : Char) {marks : List (Option Char)} {text : List Char} (h : Along marks text) :
      Along (some c :: marks) (c :: text)
  | gap {marks : List (Option Char)} {piece text : List Char} (hp : '/' ∉ piece)
      (h : Along marks text) : Along (none :: marks) (piece ++ text)

/-- The characters of the literals, and gaps for all else. -/
def sketch : List Segment → List (Option Char)
  | [] => []
  | .literal text :: rest => text.map some ++ sketch rest
  | _ :: rest => none :: sketch rest

/-- Whether all but the literals of a sequence stay within a segment of a path. -/
def staysWithin (ss : List Segment) : Bool := ss.all fun s => s.isLiteral || slashFreeOne s

theorem Along.literal {marks : List (Option Char)} {text : List Char} (h : Along marks text)
    (characters : List Char) :
    Along (characters.map some ++ marks) (characters ++ text) := by
  induction characters with
  | nil => exact h
  | cons c characters ih => exact .char c ih

theorem Along.eq_map {marks : List (Option Char)} {text : List Char} (h : Along marks text)
    (hfull : none ∉ marks) : marks = text.map some := by
  induction h with
  | nil => rfl
  | char c _ ih => rw [List.map_cons, ih (mt (List.mem_cons_of_mem _) hfull)]
  | gap _ _ _ => exact absurd List.mem_cons_self hfull

/-- A text that is cut along segments goes along their sketch. -/
theorem along_of_cut {ss : List Segment} (hss : staysWithin ss = true) {text : List Char}
    {pairs : List (String × List Char)} (h : Cut cs ss text pairs) : Along (sketch ss) text := by
  induction ss generalizing text pairs with
  | nil =>
    cases h
    exact .nil
  | cons s ss ih =>
    rw [staysWithin, List.all_cons, Bool.and_eq_true] at hss
    obtain ⟨hs, hss⟩ := hss
    cases h with
    | @cons _ _ piece text _ _ hone hrest =>
      have halong := ih hss hrest
      cases s with
      | literal characters =>
        cases hone
        exact halong.literal _
      | placeholder resource field => exact .gap (slash_not_mem_of_cutOne _ hs hone) halong
      | alternation as => exact .gap (slash_not_mem_of_cutOne _ hs hone) halong

/-! ## Outlines -/

/-- The parts of a template between its slashes. -/
def outline (ss : List Segment) : List (List (Option Char)) := (sketch ss).splitOn (some '/')

theorem splitOn_append_of_not_mem {α : Type} [BEq α] [LawfulBEq α] {sep : α} {piece : List α}
    (h : sep ∉ piece) (xs : List α) :
    (piece ++ xs).splitOn sep = (xs.splitOn sep).modifyHead (piece ++ ·) := by
  induction piece with
  | nil => cases hxs : xs.splitOn sep <;> simp [hxs]
  | cons x piece ih =>
    obtain ⟨hx, hpiece⟩ := not_or.1 (mt List.mem_cons.2 h)
    have hne : (x == sep) = false := beq_eq_false_iff_ne.2 (Ne.symm hx)
    rw [List.cons_append, List.splitOn_cons_eq_if_modifyHead, hne, if_neg Bool.false_ne_true,
      ih hpiece, List.modifyHead_modifyHead]
    rfl

theorem forall₂_modifyHead {α β : Type} {R : α → β → Prop} {as : List α} {bs : List β}
    (h : List.Forall₂ R as bs) {f : α → α} {g : β → β} (hfg : ∀ a b, R a b → R (f a) (g b)) :
    List.Forall₂ R (as.modifyHead f) (bs.modifyHead g) := by
  cases h with
  | nil => exact .nil
  | cons hab h => exact .cons (hfg _ _ hab) h

/-- The parts of a text go along the parts of its sketch. -/
theorem Along.splitOn {marks : List (Option Char)} {text : List Char} (h : Along marks text) :
    List.Forall₂ Along (marks.splitOn (some '/')) (text.splitOn '/') := by
  induction h with
  | nil => exact .cons .nil .nil
  | @char c marks text _ ih =>
    rw [List.splitOn_cons_eq_if_modifyHead, List.splitOn_cons_eq_if_modifyHead]
    by_cases hc : c = '/'
    · subst hc
      exact .cons .nil ih
    · have hmark : (some c == some '/') = false := beq_eq_false_iff_ne.2 (mt Option.some.inj hc)
      rw [hmark, beq_eq_false_iff_ne.2 hc]
      exact forall₂_modifyHead ih fun _ _ hpart => .char c hpart
  | @gap marks piece text hp _ ih =>
    rw [List.splitOn_cons_eq_if_modifyHead, splitOn_append_of_not_mem hp]
    exact forall₂_modifyHead ih fun _ _ hpart => .gap hp hpart

theorem forall₂_along_of_cut {ss : List Segment} (hss : staysWithin ss = true) {text : List Char}
    {pairs : List (String × List Char)} (h : Cut cs ss text pairs) :
    List.Forall₂ Along (outline ss) (text.splitOn '/') := (along_of_cut hss h).splitOn

/-- Whether two parts are both without gaps and differ. -/
def clashes (a b : List (Option Char)) : Bool := !a.contains none && !b.contains none && a != b

/-- Outlines that differ in the number of parts, or that have parts without gaps at the same place
which differ. -/
def Apart (o o' : List (List (Option Char))) : Prop :=
  o.length ≠ o'.length ∨ ∃ p ∈ o.zip o', clashes p.1 p.2 = true

instance (o o' : List (List (Option Char))) : Decidable (Apart o o') :=
  inferInstanceAs (Decidable (_ ∨ _))

theorem not_along_of_clashes {a b : List (Option Char)} (h : clashes a b = true)
    {text : List Char} (ha : Along a text) : ¬Along b text := by
  intro hb
  simp only [clashes, Bool.and_eq_true, Bool.not_eq_true', List.contains_eq_mem,
    decide_eq_false_iff_not, bne_iff_ne] at h
  obtain ⟨⟨hna, hnb⟩, hne⟩ := h
  exact hne ((ha.eq_map hna).trans (hb.eq_map hnb).symm)

/-- No path goes along two outlines that are apart. -/
theorem Apart.elim {o o' : List (List (Option Char))} (h : Apart o o') {parts : List (List Char)}
    (ho : List.Forall₂ Along o parts) : ¬List.Forall₂ Along o' parts := by
  intro ho'
  rcases h with hlength | ⟨p, hp, hclash⟩
  · exact hlength (ho.length_eq.trans ho'.length_eq.symm)
  · induction ho generalizing o' with
    | nil => cases hp
    | cons hpart _ ih =>
      cases ho' with
      | cons hpart' ho' =>
        rcases List.mem_cons.1 hp with rfl | hp
        · exact not_along_of_clashes hclash hpart hpart'
        · exact ih ho' hp

end Segment

end RequestBinding
