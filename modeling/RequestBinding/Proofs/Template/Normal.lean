import RequestBinding.Template.Reader

/-!
# Templates are read into normal form

The segments that are read from a text are in normal form: literals are not empty and do not stand
next to each other, names are proper, and every alternation has an alternative. The invariant of the
reader says this of what has been read so far.

## Main definitions

* `Template.State.Proper` - what has been read is in normal form

## Main statements

* `Template.State.Proper.step`, `Template.State.Proper.run` - the invariant is kept
* `Template.normal_of_parse` - what a text is read as is in normal form
-/

namespace RequestBinding

namespace Segment

/-- A segment may be put at the end unless two literals would meet. -/
theorem normal_append_singleton {ss : List Segment} {s : Segment} (h : Normal ss)
    (hs : NormalOne s) (hlast : s.isLiteral = true → ss.getLast?.any isLiteral = false) :
    Normal (ss ++ [s]) := by
  induction ss with
  | nil => exact ⟨hs, fun _ => rfl, trivial⟩
  | cons a ss ih =>
    obtain ⟨ha, hnext, hrest⟩ := h
    cases ss with
    | nil =>
      refine ⟨ha, fun hlit => ?_, hs, fun _ => rfl, trivial⟩
      cases hsl : s.isLiteral with
      | false => simpa using hsl
      | true =>
        have := hlast hsl
        simp [hlit] at this
    | cons b ss =>
      refine ⟨ha, hnext, ih hrest fun hsl => ?_⟩
      rw [← hlast hsl, List.getLast?_cons_cons]

theorem normalAlternatives_iff {as : List (List Segment)} :
    NormalAlternatives as ↔ ∀ a ∈ as, Normal a := by
  induction as with
  | nil => simp [NormalAlternatives]
  | cons a as ih => simp [NormalAlternatives, ih]

end Segment

namespace Template

open Segment

/-- What has been read is in normal form: open alternations, the current sequence, and the literal
text. Outside of placeholders, another literal may follow the current sequence. -/
structure State.Proper (st : State) : Prop where
  frames : ∀ f ∈ st.frames, Normal f.before.reverse ∧ ∀ a ∈ f.alternatives, Normal a
  segments : Normal st.segments.reverse
  literal : ∀ c ∈ st.literal, isMark c = false
  outside : st.name = none → st.segments.head?.any isLiteral = false

namespace State.Proper

variable {st st' : State}

theorem initial : State.initial.Proper := by
  refine ⟨fun f h => ?_, trivial, fun c h => ?_, fun _ => rfl⟩
  · cases h
  · cases h

/-- A segment that is no literal may always be put at the end. -/
theorem push (h : st.Proper) {s : Segment} (hs : NormalOne s) (hl : s.isLiteral = false) :
    Normal (s :: st.segments).reverse := by
  rw [List.reverse_cons]
  refine normal_append_singleton h.segments hs fun hlit => ?_
  rw [hl] at hlit
  cases hlit

theorem flushed (h : st.Proper) (hn : st.name = none) : Normal st.flushed.reverse := by
  unfold State.flushed
  split
  · exact h.segments
  · next hne =>
    rw [List.reverse_cons]
    refine normal_append_singleton h.segments ⟨?_, ?_⟩ fun _ => ?_
    · simpa using hne
    · rw [List.all_reverse, List.all_eq_true]
      intro c hc
      rw [h.literal c hc]
      rfl
    · rw [List.getLast?_reverse]
      exact h.outside hn

theorem placeholder {name : List Char} {s : Segment} (hs : Template.placeholder name = .ok s) :
    NormalOne s ∧ s.isLiteral = false := by
  unfold Template.placeholder at hs
  simp only at hs
  split at hs
  · cases hs
  · split at hs
    · next hnames =>
      cases hs
      rw [Bool.and_eq_true] at hnames
      exact ⟨hnames, rfl⟩
    · cases hs

theorem nameStep (h : st.Proper) {name : List Char} {c : Char}
    (hs : Template.nameStep st name c = .ok st') : st'.Proper := by
  unfold Template.nameStep at hs
  split at hs
  · split at hs
    · next s heq =>
      cases hs
      obtain ⟨hnormal, hlit⟩ := placeholder heq
      exact ⟨h.frames, h.push hnormal hlit, h.literal, fun _ => hlit⟩
    · cases hs
  · cases hs
    exact ⟨h.frames, h.segments, h.literal, nofun⟩

/-- The alternatives of an open alternation with the one that has just ended. -/
theorem finished (h : st.Proper) (hn : st.name = none) {f : Frame} {fs : List Frame}
    (hf : st.frames = f :: fs) : ∀ a ∈ st.flushed.reverse :: f.alternatives, Normal a := by
  intro a ha
  rcases List.mem_cons.1 ha with rfl | ha
  · exact h.flushed hn
  · exact (h.frames f (hf ▸ List.mem_cons_self)).2 a ha

theorem textStep (h : st.Proper) (hn : st.name = none) {c : Char}
    (hs : Template.textStep st c = .ok st') : st'.Proper := by
  have hnil : ∀ c ∈ ([] : List Char), isMark c = false := fun _ h => (List.not_mem_nil h).elim
  unfold Template.textStep at hs
  simp only at hs
  split at hs
  -- a placeholder begins
  · cases hs
    exact ⟨h.frames, h.flushed hn, hnil, nofun⟩
  -- an alternation begins: what stands before it waits in a frame
  · cases hs
    refine ⟨fun f hf => ?_, trivial, hnil, fun _ => rfl⟩
    rcases List.mem_cons.1 hf with rfl | hf
    · exact ⟨h.flushed hn, fun a ha => (List.not_mem_nil ha).elim⟩
    · exact h.frames f hf
  -- the next alternative begins
  · split at hs
    · cases hs
    · next f fs heq =>
      cases hs
      refine ⟨fun g hg => ?_, trivial, hnil, fun _ => rfl⟩
      rcases List.mem_cons.1 hg with rfl | hg
      · exact ⟨(h.frames f (heq ▸ List.mem_cons_self)).1, h.finished hn heq⟩
      · exact h.frames g (heq ▸ List.mem_cons_of_mem f hg)
  -- the alternation ends and becomes a segment of the sequence around it
  · split at hs
    · cases hs
    · next f fs heq =>
      cases hs
      refine ⟨fun g hg => h.frames g (heq ▸ List.mem_cons_of_mem f hg), ?_, hnil, fun _ => rfl⟩
      rw [List.reverse_cons]
      refine normal_append_singleton (h.frames f (heq ▸ List.mem_cons_self)).1 ⟨?_, ?_⟩ nofun
      · simp
      · rw [normalAlternatives_iff]
        intro a ha
        exact h.finished hn heq a (List.mem_reverse.1 ha)
  · cases hs
  -- any other character is literal text
  · next hopen hparen hbar hclose hbrace =>
    cases hs
    refine ⟨h.frames, h.segments, fun d hd => ?_, fun _ => h.outside hn⟩
    rcases List.mem_cons.1 hd with rfl | hd
    · simp only [isMark, Bool.or_eq_false_iff, beq_eq_false_iff_ne]
      exact ⟨⟨⟨⟨hopen, hbrace⟩, hparen⟩, hclose⟩, hbar⟩
    · exact h.literal d hd

theorem step (h : st.Proper) {c : Char} (hs : Template.step st c = .ok st') : st'.Proper := by
  unfold Template.step at hs
  split at hs
  · exact h.nameStep hs
  · next hn => exact h.textStep hn hs

theorem run (h : st.Proper) {cs : List Char} (hs : Template.run st cs = .ok st') :
    st'.Proper := by
  induction cs generalizing st with
  | nil =>
    cases hs
    exact h
  | cons c cs ih =>
    unfold Template.run at hs
    split at hs
    · next heq => exact ih (h.step heq) hs
    · cases hs

theorem finish (h : st.Proper) {ss : List Segment} (hs : Template.finish st = .ok ss) :
    Normal ss := by
  unfold Template.finish at hs
  split at hs
  · cases hs
  · cases hs
  · next hn _ =>
    cases hs
    exact h.flushed hn

end State.Proper

/-- What a text is read as is in normal form. -/
theorem normal_of_read {cs : List Char} {ss : List Segment} (h : read cs = .ok ss) :
    Normal ss := by
  unfold read at h
  split at h
  · next heq => exact (State.Proper.initial.run heq).finish h
  · cases h

/-- The segments of a template are in normal form. -/
theorem normal_of_parse {source : String} {t : Template} (h : parse source = .ok t) :
    Normal t.segments := by
  unfold parse at h
  split at h
  · next heq =>
    cases h
    exact normal_of_read heq
  · cases h

end Template

end RequestBinding
