import RequestBinding.Proofs.Route.Tables
import RequestBinding.Proofs.Template.Rendering

/-!
# The texts of templates

A text is a template if some segments in normal form have this text, and then it is read as these
segments. Any other text is refused with an error that carries it.

## Main statements

* `Template.parse_eq_ok_iff` - what a text is read as
* `Template.exists_parse_eq_error_iff` - the texts that are refused
* `Declaration.parseTemplate_inverts_render` - both for the templates of declarations
-/

namespace RequestBinding

open Segment (render)

namespace Template

/-- Reading and writing are inverse to each other on normal forms. -/
theorem read_eq_ok_iff {cs : List Char} {ss : List Segment} :
    read cs = .ok ss ↔ Segment.Normal ss ∧ render ss = cs := by
  constructor
  · intro h
    exact ⟨normal_of_read h, render_of_read h⟩
  · rintro ⟨hnormal, rfl⟩
    exact read_render hnormal

theorem parse_eq_ok_iff {source : String} {t : Template} : parse source = .ok t ↔
    t.source = source ∧ Segment.Normal t.segments ∧ render t.segments = source.toList := by
  rw [← read_eq_ok_iff, parse]
  cases h : read source.toList with
  | error fault => simp
  | ok ss =>
    obtain ⟨text, segments⟩ := t
    simp [eq_comm]

theorem exists_parse_eq_error_iff {source : String} : (∃ fault, parse source = .error fault) ↔
    ¬∃ ss, Segment.Normal ss ∧ render ss = source.toList := by
  simp only [← read_eq_ok_iff, parse]
  cases h : read source.toList with
  | error fault => simp
  | ok ss => simp

end Template

namespace Declaration

theorem parseTemplate_eq_error_iff {source : String} {e : RouteError} :
    parseTemplate source = .error e ↔
      ∃ fault, Template.parse source = .error fault ∧ e = .invalidTemplate source fault := by
  unfold parseTemplate
  cases Template.parse source <;> simp [eq_comm]

/-- A text is read as the segments in normal form that have this text. If there are none, the error
carries the text. So segments in normal form are read back from theirs. -/
theorem parseTemplate_inverts_render :
    (∀ source t, parseTemplate source = .ok t ↔
      t.source = source ∧ Segment.Normal t.segments ∧ render t.segments = source.toList) ∧
    (∀ source, (∃ fault, parseTemplate source = .error (.invalidTemplate source fault)) ↔
      ¬∃ ss, Segment.Normal ss ∧ render ss = source.toList) ∧
    ∀ ss, Segment.Normal ss → parseTemplate (String.ofList (render ss)) =
      .ok ⟨String.ofList (render ss), ss⟩ := by
  refine ⟨fun source t => ?_, fun source => ?_, fun ss hss => ?_⟩
  · rw [parseTemplate_eq_ok_iff, Template.parse_eq_ok_iff]
  · rw [← Template.exists_parse_eq_error_iff]
    simp [parseTemplate_eq_error_iff]
  · rw [parseTemplate_eq_ok_iff, Template.parse_eq_ok_iff]
    exact ⟨rfl, hss, String.toList_ofList.symm⟩

/-- Alternations within each other, with an alternative without text and literals on both sides. -/
def branched : List Segment :=
  [.literal "/owner/".toList,
    .alternation [
      [.placeholder "owner".toList "login".toList],
      [],
      [.alternation [[.literal "id:".toList], []], .placeholder "user_2".toList "id".toList]],
    .literal "/repos".toList]

theorem parseTemplate_inverts_render_branched : Segment.Normal branched ∧
    parseTemplate "/owner/(\x7bowner.login\x7d||(id:|)\x7buser_2.id\x7d)/repos" =
      .ok ⟨"/owner/(\x7bowner.login\x7d||(id:|)\x7buser_2.id\x7d)/repos", branched⟩ := by
  have hnormal : Segment.Normal branched := by
    simp [branched, Segment.Normal, Segment.NormalOne, Segment.NormalAlternatives,
      Segment.isLiteral, Segment.isName, Segment.isNameChar, Segment.isMark]
  exact ⟨hnormal, parseTemplate_inverts_render.2.2 branched hnormal⟩

end Declaration

end RequestBinding
