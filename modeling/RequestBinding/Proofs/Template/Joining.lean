import RequestBinding.Proofs.Template.Rendering
import RequestBinding.Proofs.Template.Source

/-!
# Joining literals

Templates that stand one after the other may have literals next to each other. Joining these brings
the segments into normal form and changes neither their text nor their pattern. So sequences of
segments with the same text have the same pattern, however the text is cut into templates.

## Main definitions

* `Segment.Legible` - segments in normal form, and literals that may be empty
* `Segment.joined` - segments with neighbouring literals joined

## Main statements

* `Segment.normal_joined` - legible segments can be brought into normal form
* `Segment.pattern?_congr` - legible segments with the same text have the same pattern
-/

namespace RequestBinding

open Regex

namespace Segment

/-! ## Joining -/

/-- A segment that can be told from its text, unless it is an empty literal. -/
def Legible : Segment → Prop
  | .literal text => text.all (!isMark ·) = true
  | s => NormalOne s

theorem legible_of_normalOne {s : Segment} (h : NormalOne s) : s.Legible := by
  cases s with
  | literal text => exact h.2
  | placeholder resource field => exact h
  | alternation as => exact h

theorem legible_of_normal {ss : List Segment} (h : Normal ss) : ∀ s ∈ ss, s.Legible := by
  induction ss with
  | nil => exact fun _ hs => (List.not_mem_nil hs).elim
  | cons s ss ih => exact List.forall_mem_cons.2 ⟨legible_of_normalOne h.1, ih h.2.2⟩

/-- Puts a segment before others. Empty literals are dropped. -/
def join : Segment → List Segment → List Segment
  | .literal [], rest => rest
  | .literal text, .literal more :: rest => .literal (text ++ more) :: rest
  | s, rest => s :: rest

/-- Joins literals that stand next to each other. -/
def joined (ss : List Segment) : List Segment := ss.foldr join []

theorem normal_join {s : Segment} (hs : s.Legible) {ss : List Segment} (hss : Normal ss) :
    Normal (join s ss) := by
  fun_cases join s ss with
  | case1 => exact hss
  | case2 text more rest hne =>
    obtain ⟨hmore, hnext, hrest⟩ := hss
    refine ⟨⟨by simp [hmore.1], ?_⟩, fun _ => hnext rfl, hrest⟩
    rw [List.all_append, hmore.2, Bool.and_true]
    exact hs
  | case3 _ _ hempty hboth =>
    cases s with
    | literal text =>
      have hne : text ≠ [] := fun h => hempty (congrArg literal h)
      refine ⟨⟨hne, hs⟩, fun _ => ?_, hss⟩
      -- another literal would have been joined
      cases ss with
      | nil => rfl
      | cons t ss =>
        cases t with
        | literal more => exact (hboth text more ss rfl rfl).elim
        | _ => rfl
    | placeholder resource field => exact ⟨hs, nofun, hss⟩
    | alternation as => exact ⟨hs, nofun, hss⟩

/-- Legible segments are brought into normal form. -/
theorem normal_joined {ss : List Segment} (h : ∀ s ∈ ss, s.Legible) : Normal (joined ss) := by
  induction ss with
  | nil => trivial
  | cons s ss ih =>
    obtain ⟨hs, hss⟩ := List.forall_mem_cons.1 h
    exact normal_join hs (ih hss)

/-! ## What joining keeps -/

theorem render_join (s : Segment) (ss : List Segment) :
    render (join s ss) = renderOne s ++ render ss := by
  fun_cases join s ss with
  | case1 => rw [renderOne, List.nil_append]
  | case2 => simp only [render, renderOne, List.append_assoc]
  | case3 => rw [render]

theorem keys_join (s : Segment) (ss : List Segment) : keys (join s ss) = keysOne s ++ keys ss := by
  fun_cases join s ss with
  | case1 => rw [keysOne, List.nil_append]
  | case2 => simp only [keys, keysOne, List.nil_append]
  | case3 => rw [keys]

theorem source_join (inner : String → String → String) (n : Nat) (s : Segment)
    (ss : List Segment) : source inner n (join s ss) =
      sourceOne inner n s ++ source inner (n + (keysOne s).length) ss := by
  fun_cases join s ss with
  | case1 => simp [sourceOne, keysOne, escape]
  | case2 => simp [source, sourceOne, keysOne, escape]
  | case3 => rw [source]

theorem render_joined (ss : List Segment) : render (joined ss) = render ss := by
  induction ss with
  | nil => rfl
  | cons s ss ih => exact (render_join s (joined ss)).trans (by rw [ih, render])

theorem keys_joined (ss : List Segment) : keys (joined ss) = keys ss := by
  induction ss with
  | nil => rfl
  | cons s ss ih => exact (keys_join s (joined ss)).trans (by rw [ih, keys])

theorem source_joined (inner : String → String → String) (n : Nat) (ss : List Segment) :
    source inner n (joined ss) = source inner n ss := by
  induction ss generalizing n with
  | nil => rfl
  | cons s ss ih => exact (source_join inner n s (joined ss)).trans (by rw [ih, source])

theorem pattern?_joined (inner : String → String → String) (ss : List Segment) :
    pattern? inner (joined ss) = pattern? inner ss := by
  rw [pattern?, pattern?, source_joined, keys_joined]

/-- Legible segments with the same text have the same pattern. -/
theorem pattern?_congr (inner : String → String → String) {ss ts : List Segment}
    (hss : ∀ s ∈ ss, s.Legible) (hts : ∀ s ∈ ts, s.Legible) (h : render ss = render ts) :
    pattern? inner ss = pattern? inner ts := by
  have hjoined : joined ss = joined ts := by
    refine eq_of_render (normal_joined hss) (normal_joined hts) ?_
    rw [render_joined, render_joined, h]
  rw [← pattern?_joined inner ss, hjoined, pattern?_joined]

end Segment

end RequestBinding
