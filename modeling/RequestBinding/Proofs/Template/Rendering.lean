import RequestBinding.Proofs.Template.Normal
import RequestBinding.Proofs.Text.Cutting

/-!
# Templates and their texts

The segments that are read from a text have this text, and segments in normal form are read back
from theirs. So normal forms can be told from their texts. What has been read so far has a text too:
that of the open alternations, the current sequence and the placeholder being read.

## Main definitions

* `Template.State.text` - the text of what has been read

## Main statements

* `Template.render_of_read` - what is read has the text it is read from
* `Template.read_render` - normal forms are read back
* `Segment.eq_of_render` - normal forms with the same text
-/

namespace RequestBinding

namespace Segment

theorem render_append (ss ts : List Segment) : render (ss ++ ts) = render ss ++ render ts := by
  induction ss with
  | nil => rfl
  | cons s ss ih => rw [List.cons_append, render, render, ih, List.append_assoc]

theorem render_singleton (s : Segment) : render [s] = renderOne s := by
  rw [render, render, List.append_nil]

/-- The last alternative has no bar behind it. -/
theorem renderAlternatives_snoc (as : List (List Segment)) (a : List Segment) :
    renderAlternatives (as ++ [a]) = (as.flatMap fun b => render b ++ ['|']) ++ render a := by
  induction as with
  | nil => simp [renderAlternatives]
  | cons b as ih =>
    have hcons : ∀ bs : List (List Segment), bs ≠ [] →
        renderAlternatives (b :: bs) = render b ++ '|' :: renderAlternatives bs := by
      intro bs hbs
      cases bs with
      | nil => exact (hbs rfl).elim
      | cons c cs => rw [renderAlternatives]
    rw [List.cons_append, hcons _ (by simp), ih]
    simp

end Segment

namespace Template

open Segment

/-! ## The text of what has been read -/

namespace State

/-- The text of an open alternation, with what stands before it. -/
def frameText (f : Frame) : List Char :=
  render f.before.reverse ++ '(' :: f.alternatives.reverse.flatMap fun a => render a ++ ['|']

/-- The text of what has been read. -/
def text (st : State) : List Char :=
  st.frames.reverse.flatMap frameText ++ (render st.flushed.reverse ++
    match st.name with
    | none => []
    | some name => '{' :: name.reverse)

theorem render_flushed (st : State) :
    render st.flushed.reverse = render st.segments.reverse ++ st.literal.reverse := by
  unfold flushed
  split
  · next h => simp [List.isEmpty_iff.1 h]
  · rw [List.reverse_cons, render_append, render_singleton, renderOne]

/-- No literal text is kept while a placeholder is read. -/
def Tidy (st : State) : Prop := ∀ name, st.name = some name → st.literal = []

end State

theorem renderOne_placeholder {name : List Char} {s : Segment} (h : placeholder name = .ok s) :
    renderOne s = '{' :: (name ++ ['}']) := by
  have hsplit : name.takeWhile (· != '.') ++ name.dropWhile (· != '.') = name :=
    List.takeWhile_append_dropWhile
  unfold placeholder at h
  simp only at h
  split at h
  · cases h
  · next c field hfield =>
    -- the first character that is not taken is the dot
    have hc : c = '.' := by
      have hhead := List.head?_dropWhile_not (· != '.') name
      rw [hfield] at hhead
      simpa using hhead
    split at h
    · cases h
      rw [hc] at hfield
      have hname : name.takeWhile (· != '.') ++ '.' :: field = name := by rw [← hfield, hsplit]
      have hbraces := congrArg (fun n => '{' :: (n ++ ['}'])) hname
      simpa [renderOne] using hbraces
    · cases h

variable {st st' : State}

theorem nameStep_text {name : List Char} (hn : st.name = some name) (ht : st.Tidy) {c : Char}
    (h : nameStep st name c = .ok st') : st'.text = st.text ++ [c] ∧ st'.Tidy := by
  have hlit := ht name hn
  unfold nameStep at h
  split at h
  · next hc =>
    split at h
    · next s hs =>
      cases h
      refine ⟨?_, nofun⟩
      have hrender := renderOne_placeholder hs
      simp only [State.text, State.render_flushed, hn, hlit]
      simp [render_append, render_singleton, hrender, beq_iff_eq.1 hc]
    · cases h
  · cases h
    refine ⟨?_, fun _ _ => hlit⟩
    simp [State.text, State.render_flushed, hn, hlit]

theorem textStep_text (hn : st.name = none) {c : Char} (h : textStep st c = .ok st') :
    st'.text = st.text ++ [c] ∧ st'.Tidy := by
  unfold textStep at h
  simp only at h
  split at h
  · cases h
    refine ⟨?_, fun _ _ => rfl⟩
    simp [State.text, State.flushed, hn]
  · cases h
    refine ⟨?_, nofun⟩
    simp [State.text, State.flushed, State.frameText, hn, render]
  · split at h
    · cases h
    · next f fs hf =>
      cases h
      refine ⟨?_, nofun⟩
      simp [State.text, State.flushed, State.frameText, hn, hf, render]
  · split at h
    · cases h
    · next f fs hf =>
      cases h
      refine ⟨?_, nofun⟩
      have hall : (st.flushed.reverse :: f.alternatives).reverse =
        f.alternatives.reverse ++ [st.flushed.reverse] := List.reverse_cons
      rw [hall]
      simp [State.text, State.render_flushed, State.frameText, hn, hf, render_append,
        render_singleton, renderOne, renderAlternatives_snoc]
  · cases h
  · cases h
    refine ⟨?_, nofun⟩
    simp [State.text, State.render_flushed, hn]

theorem step_text (ht : st.Tidy) {c : Char} (h : step st c = .ok st') :
    st'.text = st.text ++ [c] ∧ st'.Tidy := by
  unfold step at h
  split at h
  · next hn => exact nameStep_text hn ht h
  · next hn => exact textStep_text hn h

theorem run_text {cs : List Char} (ht : st.Tidy) (h : run st cs = .ok st') :
    st'.text = st.text ++ cs := by
  induction cs generalizing st with
  | nil =>
    cases h
    rw [List.append_nil]
  | cons c cs ih =>
    unfold run at h
    split at h
    · next hstep =>
      obtain ⟨htext, htidy⟩ := step_text ht hstep
      rw [ih htidy h, htext, List.append_assoc, List.singleton_append]
    · cases h

/-- What is read has the text it is read from. -/
theorem render_of_read {cs : List Char} {ss : List Segment} (h : read cs = .ok ss) :
    render ss = cs := by
  unfold read at h
  split at h
  · next st hrun =>
    have htidy : State.initial.Tidy := nofun
    have htext := run_text htidy hrun
    unfold finish at h
    split at h
    · cases h
    · cases h
    · next hn hf =>
      cases h
      simpa [State.text, State.initial, State.flushed, hn, hf, render] using htext
  · cases h

theorem render_of_parse {source : String} {t : Template} (h : parse source = .ok t) :
    render t.segments = source.toList := by
  unfold parse at h
  split at h
  · next hread =>
    cases h
    exact render_of_read hread
  · cases h

/-! ## Reading normal forms -/

theorem run_append {cs : List Char} (h : run st cs = .ok st') (ds : List Char) :
    run st (cs ++ ds) = run st' ds := by
  induction cs generalizing st with
  | nil =>
    cases h
    rfl
  | cons c cs ih =>
    rw [run] at h
    rw [List.cons_append, run]
    split at h
    · exact ih h
    · cases h

/-- Reading a text adds segments to the current sequence. -/
def Gathers (st : State) (cs : List Char) (ss : List Segment) : Prop :=
  ∃ st', run st cs = .ok st' ∧ st'.name = none ∧ st'.frames = st.frames ∧
    st'.flushed = ss.reverse ++ st.flushed

theorem run_cons {c : Char} {st₁ : State} (h : step st c = .ok st₁) (cs : List Char) :
    run st (c :: cs) = run st₁ cs := by rw [run, h]

theorem step_of_not_mark (hn : st.name = none) {c : Char} (h : isMark c = false) :
    step st c = .ok ⟨st.frames, st.segments, c :: st.literal, none, st.offset + 1⟩ := by
  simp only [isMark, Bool.or_eq_false_iff, beq_eq_false_iff_ne] at h
  obtain ⟨⟨⟨⟨hopen, hbrace⟩, hparen⟩, hclose⟩, hbar⟩ := h
  rw [step, hn]
  unfold textStep
  simp only

/-- Literal text is kept until something else comes. -/
theorem run_literal {text : List Char} (hn : st.name = none) (h : text.all (!isMark ·) = true) :
    ∃ st', run st text = .ok st' ∧ st'.name = none ∧ st'.frames = st.frames ∧
      st'.segments = st.segments ∧ st'.literal = text.reverse ++ st.literal := by
  induction text generalizing st with
  | nil => exact ⟨st, rfl, hn, rfl, rfl, rfl⟩
  | cons c text ih =>
    rw [List.all_cons, Bool.and_eq_true, Bool.not_eq_true'] at h
    obtain ⟨st', hrun, hn', hf, hs, hl⟩ :=
      @ih ⟨st.frames, st.segments, c :: st.literal, none, st.offset + 1⟩ rfl h.2
    refine ⟨st', (run_cons (step_of_not_mark hn h.1) text).trans hrun, hn', hf, hs, ?_⟩
    rw [hl, List.reverse_cons, List.append_assoc, List.singleton_append]

theorem run_name {cs name : List Char} (hn : st.name = some name) (h : '}' ∉ cs) :
    run st cs = .ok { st with name := some (cs.reverse ++ name), offset := st.offset + cs.length } := by
  induction cs generalizing st name with
  | nil =>
    rw [List.reverse_nil, List.nil_append, ← hn]
    rfl
  | cons c cs ih =>
    obtain ⟨hc, hcs⟩ := List.ne_and_not_mem_of_not_mem_cons h
    have hstep : step st c = .ok { st with name := some (c :: name), offset := st.offset + 1 } := by
      have hc' : (c == '}') = false := beq_eq_false_iff_ne.2 hc.symm
      rw [step, hn]
      simp [nameStep, hc']
    rw [run_cons hstep, ih rfl hcs]
    simp [Nat.add_assoc, Nat.add_comm 1]

theorem step_closeName {name : List Char} (hn : st.name = some name) {s : Segment}
    (hs : placeholder name.reverse = .ok s) : step st '}' =
      .ok { st with segments := s :: st.segments, name := none, offset := st.offset + 1 } := by
  rw [step, hn]
  simp [nameStep, hs]

theorem not_mem_of_isName {cs : List Char} (h : isName cs = true) {c : Char}
    (hc : Segment.isNameChar c = false) : c ∉ cs := by
  intro hmem
  have hall := List.all_eq_true.1 (Bool.and_eq_true_iff.1 h).2 c hmem
  rw [hc] at hall
  cases hall

theorem placeholder_of_isName {resource field : List Char} (hr : isName resource = true)
    (hf : isName field = true) :
    placeholder (resource ++ '.' :: field) = .ok (.placeholder resource field) := by
  have hdot : '.' ∉ resource := not_mem_of_isName hr rfl
  obtain ⟨htake, hdrop⟩ := takeWhile_bne_append hdot
    (fun c hc => (Option.some.inj hc).symm : ∀ c ∈ ('.' :: field).head?, c = '.')
  unfold placeholder
  rw [htake, hdrop]
  simp [hr, hf]

mutual

theorem gathers_one (st : State) (s : Segment) (hs : NormalOne s) (hn : st.name = none)
    (hlit : s.isLiteral = true → st.literal = []) :
    ∃ st', run st (renderOne s) = .ok st' ∧ st'.name = none ∧ st'.frames = st.frames ∧
      st'.flushed = s :: st.flushed ∧ (s.isLiteral = false → st'.literal = []) := by
  match s with
  | .literal text =>
    obtain ⟨st', hrun, hn', hf, hsegs, hl⟩ := run_literal hn hs.2
    have hnil := hlit rfl
    refine ⟨st', by rwa [renderOne], hn', hf, ?_, nofun⟩
    rw [hnil, List.append_nil] at hl
    simp [State.flushed, hl, hsegs, hs.1, hnil]
  | .placeholder resource field =>
    obtain ⟨hr, hf⟩ := hs
    have hopen : step st '{' = .ok ⟨st.frames, st.flushed, [], some [], st.offset + 1⟩ := by
      rw [step, hn]
      rfl
    have hname : '}' ∉ resource ++ '.' :: field := by
      rw [List.mem_append, List.mem_cons, not_or, not_or]
      exact ⟨not_mem_of_isName hr rfl, by decide, not_mem_of_isName hf rfl⟩
    have hrun := @run_name ⟨st.frames, st.flushed, [], some [], st.offset + 1⟩ _ _ rfl hname
    have hs' : placeholder ((resource ++ '.' :: field).reverse ++ []).reverse =
        .ok (.placeholder resource field) := by
      rw [List.append_nil, List.reverse_reverse, placeholder_of_isName hr hf]
    have hclose := @step_closeName ⟨st.frames, st.flushed, [],
      some ((resource ++ '.' :: field).reverse ++ []),
      st.offset + 1 + (resource ++ '.' :: field).length⟩ _ rfl _ hs'
    refine ⟨⟨st.frames, .placeholder resource field :: st.flushed, [], none,
      st.offset + 1 + (resource ++ '.' :: field).length + 1⟩, ?_, rfl, rfl, rfl, fun _ => rfl⟩
    have htext : renderOne (.placeholder resource field) =
        '{' :: ((resource ++ '.' :: field) ++ ['}']) := by simp [renderOne]
    rw [htext, run_cons hopen, run_append hrun, run_cons hclose]
    rfl
  | .alternation as =>
    obtain ⟨hne, has⟩ := hs
    have hopen : step st '(' = .ok ⟨⟨st.flushed, []⟩ :: st.frames, [], [], none, st.offset + 1⟩ := by
      rw [step, hn]
      rfl
    obtain ⟨st₁, alts, hrun, hn₁, hf₁, hall⟩ := gathers_alternatives
      ⟨⟨st.flushed, []⟩ :: st.frames, [], [], none, st.offset + 1⟩ as has hne rfl rfl rfl rfl
    rw [List.append_nil] at hall
    have hclose : step st₁ ')' =
        .ok ⟨st.frames, .alternation as :: st.flushed, [], none, st₁.offset + 1⟩ := by
      rw [step, hn₁]
      simp only [textStep, hf₁]
      rw [hall, List.reverse_reverse]
    refine ⟨⟨st.frames, .alternation as :: st.flushed, [], none, st₁.offset + 1⟩, ?_, rfl, rfl, rfl,
      fun _ => rfl⟩
    rw [renderOne, run_cons hopen, run_append hrun, run_cons hclose]
    rfl

/-- A sequence in normal form is gathered from its text, unless two literals would meet. -/
theorem gathers_render (st : State) (ss : List Segment) (hss : Normal ss) (hn : st.name = none)
    (hlit : st.literal = [] ∨ ss.head?.any isLiteral = false) : Gathers st (render ss) ss := by
  match ss with
  | [] => exact ⟨st, rfl, hn, rfl, rfl⟩
  | s :: rest =>
    obtain ⟨hs, hnext, hrest⟩ := hss
    have hfirst : s.isLiteral = true → st.literal = [] := by
      intro hs
      rcases hlit with hlit | hlit
      · exact hlit
      · rw [List.head?_cons, Option.any_some, hs] at hlit
        cases hlit
    obtain ⟨st₁, hrun₁, hn₁, hf₁, hflushed₁, hlit₁⟩ := gathers_one st s hs hn hfirst
    have hsecond : st₁.literal = [] ∨ rest.head?.any isLiteral = false := by
      cases hsl : s.isLiteral with
      | true => exact .inr (hnext hsl)
      | false => exact .inl (hlit₁ hsl)
    obtain ⟨st₂, hrun₂, hn₂, hf₂, hflushed₂⟩ := gathers_render st₁ rest hrest hn₁ hsecond
    refine ⟨st₂, ?_, hn₂, hf₂.trans hf₁, ?_⟩
    · rw [render, run_append hrun₁, hrun₂]
    · rw [hflushed₂, hflushed₁, List.reverse_cons, List.append_assoc, List.singleton_append]

theorem gathers_alternatives (st : State) (as : List (List Segment)) (has : NormalAlternatives as)
    (hne : as ≠ []) {f : Frame} {fs : List Frame} (hf : st.frames = f :: fs)
    (hn : st.name = none) (hsegs : st.segments = []) (hlit : st.literal = []) :
    ∃ st' alts, run st (renderAlternatives as) = .ok st' ∧ st'.name = none ∧
      st'.frames = ⟨f.before, alts⟩ :: fs ∧
      st'.flushed.reverse :: alts = as.reverse ++ f.alternatives := by
  have hnil : st.flushed = [] := by simp [State.flushed, hlit, hsegs]
  match as with
  | [] => exact (hne rfl).elim
  | [a] =>
    obtain ⟨st₁, hrun, hn₁, hf₁, hflushed⟩ := gathers_render st a has.1 hn (.inl hlit)
    refine ⟨st₁, f.alternatives, by rwa [renderAlternatives], hn₁, hf₁.trans hf, ?_⟩
    rw [hflushed, hnil, List.append_nil, List.reverse_reverse]
    rfl
  | a :: b :: rest =>
    obtain ⟨st₁, hrun, hn₁, hf₁, hflushed⟩ := gathers_render st a has.1 hn (.inl hlit)
    have hbar : step st₁ '|' =
        .ok ⟨⟨f.before, a :: f.alternatives⟩ :: fs, [], [], none, st₁.offset + 1⟩ := by
      rw [step, hn₁]
      simp only [textStep, hf₁, hf]
      rw [hflushed, hnil, List.append_nil, List.reverse_reverse]
    obtain ⟨st₂, alts, hrun₂, hn₂, hf₂, hall⟩ := gathers_alternatives
      ⟨⟨f.before, a :: f.alternatives⟩ :: fs, [], [], none, st₁.offset + 1⟩ (b :: rest)
      has.2 (List.cons_ne_nil b rest) rfl rfl rfl rfl
    refine ⟨st₂, alts, ?_, hn₂, hf₂, ?_⟩
    · rw [renderAlternatives, run_append hrun, run_cons hbar, hrun₂]
    · rw [hall]
      simp

end

/-- Segments in normal form are read back from their text. -/
theorem read_render {ss : List Segment} (h : Normal ss) : read (render ss) = .ok ss := by
  obtain ⟨st, hrun, hn, hf, hflushed⟩ := gathers_render .initial ss h rfl (.inl rfl)
  have hall : st.flushed = ss.reverse := by simpa [State.flushed, State.initial] using hflushed
  rw [read, hrun]
  simp only [finish, hn, hf, State.initial]
  rw [hall, List.reverse_reverse]

end Template

/-- Normal forms can be told from their texts. -/
theorem Segment.eq_of_render {ss ts : List Segment} (hss : Normal ss) (hts : Normal ts)
    (h : render ss = render ts) : ss = ts := by
  have hread := Template.read_render hss
  rw [h, Template.read_render hts] at hread
  exact (Except.ok.inj hread).symm

end RequestBinding
