import RequestBinding.Proofs.Regex.Finding
import RequestBinding.Proofs.Route.Tables
import RequestBinding.Proofs.Template.Assembly

/-!
# Routes capture the pieces of their paths

The route of an action accepts the paths that can be cut along the segments of its templates, and
what it captures are the decoded pieces of the placeholders of one such cut.

## Main statements

* `Pattern.find_isSome_iff` - a pattern finds the texts that can be cut
* `Pattern.exists_cut_of_find` - the groups of a pattern capture the pieces of a cut
* `Declaration.captures_of_route` - both for the route of an action
-/

namespace RequestBinding

open Regex

/-! ## Whole texts -/

theorem Regex.Meaning.whole_iff {m : Meaning} {c d : Cursor} {k : List Capture} :
    m.whole c d k ↔ c.before = [] ∧ m c d k ∧ d.after = [] := by
  constructor
  · rintro ⟨c', _, _, ⟨hstart, rfl, rfl⟩, ⟨d', k₁, _, hm, ⟨hend, rfl, rfl⟩, rfl⟩, rfl⟩
    rw [List.append_nil]
    exact ⟨List.isEmpty_iff.1 hstart, hm, List.isEmpty_iff.1 hend⟩
  · rintro ⟨hstart, hm, hend⟩
    refine ⟨c, [], k, ⟨List.isEmpty_iff.2 hstart, rfl, rfl⟩, ⟨d, k, [], hm, ?_, ?_⟩, rfl⟩
    · exact ⟨List.isEmpty_iff.2 hend, rfl, rfl⟩
    · rw [List.append_nil]

/-- A text that leads from the start to the end is the whole text. -/
theorem Regex.Cursor.Takes.eq_whole {cs text : List Char} {d : Cursor}
    (h : (Cursor.start cs).Takes text d) (hend : d.after = []) : text = cs := by
  have hafter := h.1
  rw [hend, List.append_nil] at hafter
  exact hafter.symm

/-- An expression that matches along segments from the start to the end finds the texts that can be
cut. -/
theorem Segment.find_isSome_iff {cs : Constraints} {ss : List Segment} {r : Regex}
    (h : Denotes r (meaning cs 0 ss).whole) (text : List Char) :
    (r.find text).isSome = true ↔ ∃ pairs, Cut cs ss text pairs := by
  obtain ⟨hplain, hmean⟩ := h
  rw [Regex.find_isSome_iff hplain, hmean]
  constructor
  · rintro ⟨front, c, d, k, hc, hk⟩
    obtain ⟨hstart, hk, hend⟩ := Meaning.whole_iff.1 hk
    rw [hc.eq_start hstart] at hk
    obtain ⟨text', pairs, htakes, hcut, _⟩ := exists_cut _ hk
    rw [htakes.eq_whole hend] at hcut
    exact ⟨pairs, hcut⟩
  · rintro ⟨pairs, hcut⟩
    have hafter : (Cursor.start text).after = text ++ [] := (List.append_nil text).symm
    obtain ⟨d, htakes, hend⟩ := Cursor.exists_takes hafter
    obtain ⟨k, hk⟩ := exists_match _ 0 hcut htakes
    exact ⟨[], _, d, k, .refl _, Meaning.whole_iff.2 ⟨rfl, hk, hend⟩⟩

namespace Pattern

variable {cs : Constraints} {ts : List Template} {p : Pattern}

/-- A pattern finds a text if the text can be cut along the segments. -/
theorem find_isSome_iff (hcs : cs.BuiltIn) (hts : ∀ t ∈ ts, Segment.Normal t.segments)
    (h : Pattern.ofTemplates cs ts = some p) (text : List Char) :
    (p.regex.find text).isSome = true ↔
      ∃ pairs, Segment.Cut cs (ts.flatMap (·.segments)) text pairs :=
  Segment.find_isSome_iff (denotes_of_ofTemplates hcs hts h) text

/-- The groups of a pattern that took part in a match captured the pieces of a cut. -/
theorem exists_cut_of_find (hcs : cs.BuiltIn) (hts : ∀ t ∈ ts, Segment.Normal t.segments)
    (h : Pattern.ofTemplates cs ts = some p) {text : List Char} {s : Stop}
    (hs : p.regex.find text = some s) :
    ∃ pairs, Segment.Cut cs (ts.flatMap (·.segments)) text pairs ∧
      (p.groups.filterMap fun g => (s.get? g.name).map (g.key, ·)) = pairs := by
  obtain ⟨hplain, hmean⟩ := denotes_of_ofTemplates hcs hts h
  obtain ⟨front, c, hc, hk⟩ := exists_meaning_of_find hplain hs
  rw [hmean] at hk
  obtain ⟨hstart, hk, hend⟩ := Meaning.whole_iff.1 hk
  rw [hc.eq_start hstart] at hk
  obtain ⟨text', pairs, htakes, hcut, hyields⟩ := Segment.exists_cut _ hk
  rw [htakes.eq_whole hend] at hcut
  refine ⟨pairs, hcut, ?_⟩
  rw [groups_of_ofTemplates h]
  exact hyields.pairs

end Pattern

/-! ## Routes -/

namespace Declaration

theorem normal_of_parseTemplates {sources : List String} {ts : List Template}
    (h : sources.mapM parseTemplate = .ok ts) : ∀ t ∈ ts, Segment.Normal t.segments := by
  intro t ht
  obtain ⟨_, _, hparse⟩ := exists_of_mapM_eq_ok h ht
  exact Template.normal_of_parse (parseTemplate_eq_ok_iff.1 hparse)

/-- A route with constraints that are built in accepts the paths that can be cut. -/
theorem isSome_captures_iff {s : Scope} {a : Action} {r : Route} (hcs : s.constraints.BuiltIn)
    (h : route s a = .ok r) {ts : List Template}
    (hts : (s.templates ++ [a.subpath]).mapM parseTemplate = .ok ts) (path : String) :
    (r.captures path).isSome = true ↔
      ∃ pairs, Segment.Cut s.constraints (ts.flatMap (·.segments)) path.toList pairs := by
  obtain ⟨ts', hts', hp⟩ := exists_templates_of_route h
  obtain rfl : ts' = ts := Except.ok.inj (hts'.symm.trans hts)
  rw [Route.captures, Option.isSome_map]
  exact Pattern.find_isSome_iff hcs (normal_of_parseTemplates hts) hp path.toList

/-- What a route with constraints that are built in captures are the decoded pieces of a cut. -/
theorem exists_cut_of_captures {s : Scope} {a : Action} {r : Route}
    (hcs : s.constraints.BuiltIn) (h : route s a = .ok r) {path : String} {c : Captures}
    (hc : r.captures path = some c) : ∃ ts pairs,
      (s.templates ++ [a.subpath]).mapM parseTemplate = .ok ts ∧
      Segment.Cut s.constraints (ts.flatMap (·.segments)) path.toList pairs ∧
      c.pairs = pairs.map fun p => (p.1, Percent.decodeText (String.ofList p.2)) := by
  obtain ⟨ts, hts, hp⟩ := exists_templates_of_route h
  rw [Route.captures, Option.map_eq_some_iff] at hc
  obtain ⟨stop, hstop, rfl⟩ := hc
  obtain ⟨pairs, hcut, rfl⟩ :=
    Pattern.exists_cut_of_find hcs (normal_of_parseTemplates hts) hp hstop
  refine ⟨ts, _, hts, hcut, ?_⟩
  rw [List.map_filterMap]
  simp only [Route.capturesOf, Option.map_map, Function.comp_def]

/-- Under constraints that are built in, the route of an action accepts the paths that can be cut
along the segments of its templates, and captures the decoded pieces of one such cut. -/
theorem captures_of_route {s : Scope} {a : Action} {r : Route} (hcs : s.constraints.BuiltIn)
    (h : route s a = .ok r) :
    ∃ ts, (s.templates ++ [a.subpath]).mapM parseTemplate = .ok ts ∧ ∀ path : String,
      ((r.captures path).isSome = true ↔
        ∃ pairs, Segment.Cut s.constraints (ts.flatMap (·.segments)) path.toList pairs) ∧
      ∀ c, r.captures path = some c →
        ∃ pairs, Segment.Cut s.constraints (ts.flatMap (·.segments)) path.toList pairs ∧
          c.pairs = pairs.map fun p => (p.1, Percent.decodeText (String.ofList p.2)) := by
  obtain ⟨ts, hts, hp⟩ := exists_templates_of_route h
  have hnormal := normal_of_parseTemplates hts
  refine ⟨ts, hts, fun path => ⟨?_, fun c hc => ?_⟩⟩
  · rw [Route.captures, Option.isSome_map]
    exact Pattern.find_isSome_iff hcs hnormal hp path.toList
  · rw [Route.captures, Option.map_eq_some_iff] at hc
    obtain ⟨stop, hstop, rfl⟩ := hc
    obtain ⟨pairs, hcut, rfl⟩ := Pattern.exists_cut_of_find hcs hnormal hp hstop
    refine ⟨_, hcut, ?_⟩
    rw [List.map_filterMap]
    simp only [Route.capturesOf, Option.map_map, Function.comp_def]

/-- The issues of a repository, which is known by its number or by its slug. -/
def issues : Scope :=
  ⟨"Issue", ["/repo/(\x7brepository.id\x7d|\x7brepository.slug\x7d)", "/issues"], .empty,
    ⟨[("id", .digits), ("slug", .slug)]⟩⟩

/-- The issue of a repository. -/
def showIssue : Action := ⟨.get, "show", "/\x7bissue.number\x7d"⟩

/-- The route to an issue of a repository accepts and captures what its templates say: here the
number of the repository and that of the issue, and no slug. -/
theorem captures_of_route_issues : ∃ r, route issues showIssue = .ok r ∧
    ∃ ts, (issues.templates ++ [showIssue.subpath]).mapM parseTemplate = .ok ts ∧
      (∀ path : String, (r.captures path).isSome = true ↔
        ∃ pairs, Segment.Cut issues.constraints (ts.flatMap (·.segments)) path.toList pairs) ∧
      ∃ c pairs, r.captures "/repo/1/issues/a%20b" = some c ∧
        Segment.Cut issues.constraints (ts.flatMap (·.segments)) "/repo/1/issues/a%20b".toList
          pairs ∧
        c.pairs = pairs.map (fun p => (p.1, Percent.decodeText (String.ofList p.2))) ∧
        c.pairs = [("repository.id", "1"), ("issue.number", "a b")] := by
  have hcs : issues.constraints.BuiltIn := by
    show ∀ e ∈ issues.constraints.entries, e.2 = .digits ∨ e.2 = .slug
    decide
  have hrun : (route issues showIssue).toOption.any (fun r =>
      (r.captures "/repo/1/issues/a%20b").any fun c =>
        decide (c.pairs = [("repository.id", "1"), ("issue.number", "a b")])) = true := by
    decide +kernel
  obtain ⟨r, hr, hrun⟩ := exists_of_any_toOption hrun
  obtain ⟨c, hc, hpairs⟩ := (Option.any_eq_true _ _).1 hrun
  obtain ⟨ts, hts, hall⟩ := captures_of_route hcs hr
  obtain ⟨pairs, hcut, hdecoded⟩ := (hall _).2 c hc
  exact ⟨r, hr, ts, hts, fun path => (hall path).1, c, pairs, hc, hcut, hdecoded,
    of_decide_eq_true hpairs⟩

end Declaration

end RequestBinding
