import RequestBinding.Proofs.Regex.Limits
import RequestBinding.Proofs.Route.Flattening
import RequestBinding.Proofs.Template.Expression

/-!
# Well-formed trees are compiled

If the names and the templates of trees are well-formed and their constraints are built in, then the
patterns of all their actions are well-formed, whatever text stands in the templates and however
alternations are nested. So the limits of patterns are the only reason for which such trees are
refused.

## Main definitions

* `Visit.Formed` - what is met in well-formed trees
* `Lineage.HasPattern` - the pattern text of an action

## Main statements

* `Segment.isSome_parse?_source` - the pattern texts of segments are well-formed
* `Resource.exists_visit_of_mem_members` - a walk meets the ancestors of an action
* `RouteTable.compile_of_formed` - well-formed trees are compiled within the limits
-/

namespace RequestBinding

open Regex

/-! ## Constraints -/

theorem Constraint.valid_of_builtIn {c : Constraint} (h : c = .digits ∨ c = .slug) : c.Valid := by
  rcases h with rfl | rfl
  · trivial
  · exact ⟨by decide, by decide +kernel⟩

namespace Lineage

/-- Constraints that are built in everywhere on a line of ancestors are so in its scope. -/
theorem builtIn_inEffect {members : List Resource} (h : ∀ r ∈ members, r.constraints.BuiltIn) :
    (inEffect members).BuiltIn := by
  induction members with
  | nil => exact nofun
  | cons r members ih =>
    obtain ⟨hr, hmembers⟩ := List.forall_mem_cons.1 h
    intro e he
    rcases List.mem_append.1 he with he | he
    · exact hr e he
    · exact ih hmembers e he

/-- The pattern text of an action: that of all segments from the root to its sub-path, between
anchors. -/
def HasPattern (l : Lineage) (a : Action) (text : List Char) : Prop :=
  ∃ ss, Template.SegmentsOf (l.templates ++ [a.subpath]) ss ∧
    text = '^' :: (Segment.source l.patternOf 0 ss ++ ['$'])

end Lineage

/-! ## Patterns -/

namespace Segment

/-- Under constraints that are built in, the pattern text of any segments is well-formed. -/
theorem isSome_parse?_source {cs : Constraints} (hcs : cs.BuiltIn) (ss : List Segment) :
    (parse? ('^' :: (source cs.pattern 0 ss ++ ['$']))).isSome = true := by
  choose inner hcomplete _ using exists_denotes_fits hcs
  have hencloses := fun resource field => encloses_of_complete? (hcomplete resource field)
  obtain ⟨b, hb, _⟩ := exists_parse?_of_readsAs (readsAs_source hencloses 0 ss)
  rw [hb, Option.isSome_some]

end Segment

theorem Template.exists_segmentsOf {sources : List String}
    (h : ∀ source ∈ sources, ∃ t, parse source = .ok t) : ∃ ss, SegmentsOf sources ss := by
  obtain ⟨ts, hts⟩ := exists_forall₂ h
  exact ⟨_, ts, hts, rfl⟩

/-! ## Walks -/

namespace Resource

mutual

theorem exists_visit_of_mem_visitsBelow (ancestors : List Resource) (r : Resource) {l : Lineage}
    {a : Action} (h : Visit.action l a ∈ visitsBelow ancestors r) : ∀ m ∈ l.members,
      m ∈ ancestors ∨ ∃ l', l'.resource = m ∧ Visit.resource l' ∈ visitsBelow ancestors r := by
  match r with
  | .node name template constraints entries =>
    rw [visitsBelow, List.mem_cons] at h
    rw [visitsBelow]
    rcases h with h | h
    · cases h
    · intro m hm
      rcases exists_visit_of_mem_visitsOfEntries _ entries h m hm with hm | ⟨l', hl', hmem⟩
      · rcases List.mem_cons.1 hm with rfl | hm
        · exact .inr ⟨_, rfl, List.mem_cons_self⟩
        · exact .inl hm
      · exact .inr ⟨l', hl', List.mem_cons_of_mem _ hmem⟩

theorem exists_visit_of_mem_visitsOfEntry (k : Lineage) (e : Entry) {l : Lineage} {a : Action}
    (h : Visit.action l a ∈ visitsOfEntry k e) : ∀ m ∈ l.members,
      m ∈ k.members ∨ ∃ l', l'.resource = m ∧ Visit.resource l' ∈ visitsOfEntry k e := by
  match e with
  | .action _ =>
    rw [visitsOfEntry] at h
    cases List.mem_singleton.1 h
    exact fun m hm => .inl hm
  | .nested r =>
    rw [visitsOfEntry] at h ⊢
    exact exists_visit_of_mem_visitsBelow k.members r h

theorem exists_visit_of_mem_visitsOfEntries (k : Lineage) (es : List Entry) {l : Lineage}
    {a : Action} (h : Visit.action l a ∈ visitsOfEntries k es) : ∀ m ∈ l.members,
      m ∈ k.members ∨ ∃ l', l'.resource = m ∧ Visit.resource l' ∈ visitsOfEntries k es := by
  match es with
  | [] =>
    rw [visitsOfEntries] at h
    cases h
  | e :: rest =>
    rw [visitsOfEntries, List.mem_append] at h
    rw [visitsOfEntries]
    intro m hm
    rcases h with h | h
    · rcases exists_visit_of_mem_visitsOfEntry k e h m hm with hm | ⟨l', hl', hmem⟩
      · exact .inl hm
      · exact .inr ⟨l', hl', List.mem_append_left _ hmem⟩
    · rcases exists_visit_of_mem_visitsOfEntries k rest h m hm with hm | ⟨l', hl', hmem⟩
      · exact .inl hm
      · exact .inr ⟨l', hl', List.mem_append_right _ hmem⟩

end

/-- A walk that meets an action meets its resource and all of its ancestors. -/
theorem exists_visit_of_mem_members {resources : List Resource} {l : Lineage} {a : Action}
    (h : Visit.action l a ∈ resources.flatMap visits) {m : Resource} (hm : m ∈ l.members) :
    ∃ l', l'.resource = m ∧ Visit.resource l' ∈ resources.flatMap visits := by
  obtain ⟨r, hr, h⟩ := List.mem_flatMap.1 h
  rcases exists_visit_of_mem_visitsBelow [] r h m hm with hm | ⟨l', hl', hmem⟩
  · cases hm
  · exact ⟨l', hl', List.mem_flatMap.2 ⟨r, hr, hmem⟩⟩

end Resource

namespace Visit

/-- What is met in well-formed trees: the name of a resource is proper, its template and the
sub-path of an action can be read, and constraints are built in. -/
def Formed : Visit → Prop
  | .resource l => isResourceName l.resource.name = true ∧
      (∃ t, Template.parse l.resource.template = .ok t) ∧ l.resource.constraints.BuiltIn
  | .action _ a => ∃ t, Template.parse a.subpath = .ok t

instance (source : String) : Decidable (∃ t, Template.parse source = .ok t) :=
  decidable_of_iff ((Template.parse source).isOk = true)
    ⟨exists_of_isOk, fun ⟨t, ht⟩ => by rw [ht]; rfl⟩

instance : DecidablePred Formed
  | .resource l => inferInstanceAs (Decidable (_ ∧ _ ∧ ∀ e ∈ l.resource.constraints.entries, _))
  | .action _ a => inferInstanceAs (Decidable (∃ t, Template.parse a.subpath = .ok t))

section Formed

variable {resources : List Resource} (h : ∀ v ∈ resources.flatMap Resource.visits, v.Formed)
  {l : Lineage} {a : Action} (hmem : Visit.action l a ∈ resources.flatMap Resource.visits)
include h hmem

theorem builtIn_of_formed : l.scope.constraints.BuiltIn := by
  refine Lineage.builtIn_inEffect fun m hm => ?_
  obtain ⟨l', rfl, hl'⟩ := Resource.exists_visit_of_mem_members hmem hm
  exact (h _ hl').2.2

/-- The templates of an action in well-formed trees can be read. -/
theorem exists_segmentsOf_of_formed :
    ∃ ss, Template.SegmentsOf (l.templates ++ [a.subpath]) ss := by
  refine Template.exists_segmentsOf fun source hsource => ?_
  rcases List.mem_append.1 hsource with hsource | hsource
  · obtain ⟨m, hm, rfl⟩ := List.mem_map.1 hsource
    obtain ⟨l', rfl, hl'⟩ := Resource.exists_visit_of_mem_members hmem (List.mem_reverse.1 hm)
    exact (h _ hl').2.1
  · rw [List.mem_singleton.1 hsource]
    exact h _ hmem

/-- The pattern of an action in well-formed trees is well-formed. -/
theorem isSome_parse?_of_formed {text : List Char} (htext : l.HasPattern a text) :
    (parse? text).isSome = true := by
  obtain ⟨ss, _, rfl⟩ := htext
  rw [← l.pattern_constraints]
  exact Segment.isSome_parse?_source (builtIn_of_formed h hmem) ss

/-- An action in well-formed trees has no fault if its pattern keeps the limits. -/
theorem sound_action_iff :
    (Visit.action l a).Sound ↔ ∀ text, l.HasPattern a text → KeepsLimits text := by
  have hpattern : ∀ ss, (Segment.pattern? l.patternOf ss).isSome = true ↔
      (parse? ('^' :: (Segment.source l.patternOf 0 ss ++ ['$']))).isSome = true ∧
        KeepsLimits ('^' :: (Segment.source l.patternOf 0 ss ++ ['$'])) := fun ss => by
    rw [← isSome_ofPattern?_iff, Segment.pattern?, Option.isSome_map]
  constructor
  · rintro ⟨_, ss, hss, hsome⟩ text ⟨ss', hss', rfl⟩
    -- the segments of a chain are unique
    obtain rfl : ss = ss' := by
      obtain ⟨ts, hts, rfl⟩ := Declaration.segmentsOf_iff.1 hss
      obtain ⟨ts', hts', rfl⟩ := Declaration.segmentsOf_iff.1 hss'
      rw [Except.ok.inj (hts.symm.trans hts')]
    exact ((hpattern ss).1 hsome).2
  · intro hlimits
    obtain ⟨ss, hss⟩ := exists_segmentsOf_of_formed h hmem
    have htext : l.HasPattern a _ := ⟨ss, hss, rfl⟩
    exact ⟨h _ hmem, ss, hss, (hpattern ss).2
      ⟨isSome_parse?_of_formed h hmem htext, hlimits _ htext⟩⟩

end Formed

end Visit

/-! ## Tables -/

namespace RouteTable

theorem exists_compile_iff {resources : List Resource} :
    (∃ t, (compile resources).value = .ok t) ↔
      ∀ v ∈ resources.flatMap Resource.visits, v.Sound := by
  simp only [value_compile_eq_ok_iff, Resource.flatMap_declarations, compileAll_eq_ok_iff]
  constructor
  · rintro ⟨_, hsound, _⟩
    exact hsound
  · intro hsound
    obtain ⟨rs, hrs⟩ := exists_routes_of_sound hsound
    exact ⟨⟨rs⟩, hsound, hrs⟩

/-- Each action of well-formed trees has a pattern, which is well-formed, and the table is compiled
exactly if none of these patterns exceeds the limits. -/
theorem compile_of_formed {resources : List Resource}
    (h : ∀ v ∈ resources.flatMap Resource.visits, v.Formed) :
    (∀ l a, Visit.action l a ∈ resources.flatMap Resource.visits →
      ∃ text, l.HasPattern a text ∧ (parse? text).isSome = true) ∧
    ((∃ t, (compile resources).value = .ok t) ↔
      ∀ l a, Visit.action l a ∈ resources.flatMap Resource.visits →
        ∀ text, l.HasPattern a text → KeepsLimits text) := by
  constructor
  · intro l a hmem
    obtain ⟨ss, hss⟩ := Visit.exists_segmentsOf_of_formed h hmem
    exact ⟨_, ⟨ss, hss, rfl⟩, Visit.isSome_parse?_of_formed h hmem ⟨ss, hss, rfl⟩⟩
  · rw [exists_compile_iff]
    constructor
    · intro hsound l a hmem
      exact (Visit.sound_action_iff h hmem).1 (hsound _ hmem)
    · intro hlimits v hv
      cases v with
      | resource l =>
        obtain ⟨hname, ht, hbuilt⟩ := h _ hv
        exact ⟨hname, ht, fun e he => Constraint.valid_of_builtIn (hbuilt e he)⟩
      | action l a => exact (Visit.sound_action_iff h hv).2 (hlimits l a hv)

/-- Templates with all that has a meaning in patterns, alternatives without text, and placeholders
that stand twice. -/
def intricateTrees : List Resource :=
  [(Resource.named "_file").route "/größe.(\\d+|[^-]*?(#|&~|)|)^$/{_file.id}"
    |>.capture "id" .digits
    |>.action .post "touch" "()(|)"
    |>.resource ((Resource.named "line_2").capture "line.id" .slug |>.get "find"
      |>.getAt "all" " {line.id}({line.id}|({_file.id}))$")]

theorem compile_of_formed_intricateTrees :
    (∀ v ∈ intricateTrees.flatMap Resource.visits, v.Formed) ∧
    (∃ t, (compile intricateTrees).value = .ok t) ∧
    ∀ l a, Visit.action l a ∈ intricateTrees.flatMap Resource.visits →
      ∀ text, l.HasPattern a text → KeepsLimits text := by
  have hformed : ∀ v ∈ intricateTrees.flatMap Resource.visits, v.Formed := by decide +kernel
  have hok : (compile intricateTrees).value.isOk = true := by decide +kernel
  have hcompiled := exists_of_isOk hok
  exact ⟨hformed, hcompiled, (compile_of_formed hformed).2.1 hcompiled⟩

end RouteTable

end RequestBinding
