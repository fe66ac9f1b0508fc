import RequestBinding.Proofs.Regex.Enclosing
import RequestBinding.Proofs.Route.Tables
import RequestBinding.Proofs.Template.Choice
import RequestBinding.Proofs.Template.Joining
import RequestBinding.Proofs.Template.Renumbering

/-!
# Alternatives of routes

A route with an alternation behind literal text captures what the first of the routes with only one
of the alternatives captures that accepts the path, if some alternative is unambiguous.

Otherwise the pattern may prefer stops of a part that all alternatives begin with to the alternatives
themselves, and a later alternative may win.

## Main definitions

* `Route.CompiledFrom` - the route of a template under constraints

## Main statements

* `Route.captures_of_alternatives` - the first alternative that accepts the path wins
-/

namespace RequestBinding

open Regex

/-! ## The pattern of a route -/

/-- A route comes from templates that make up a text, under certain constraints. -/
def Route.CompiledFrom (cs : Constraints) (text : List Char) (r : Route) : Prop :=
  ∃ s a, Declaration.route s a = .ok r ∧ s.constraints = cs ∧ r.template.toList = text

namespace Declaration

theorem render_of_parseTemplates {sources : List String} {ts : List Template}
    (h : sources.mapM parseTemplate = .ok ts) :
    (∀ s ∈ ts.flatMap (·.segments), s.Legible) ∧
      Segment.render (ts.flatMap (·.segments)) = (String.join sources).toList := by
  rw [String.toList_join]
  induction mapM_eq_ok_iff.1 h with
  | nil => exact ⟨fun _ hs => (List.not_mem_nil hs).elim, rfl⟩
  | @cons source t sources ts ht hts ih =>
    have hparse := parseTemplate_eq_ok_iff.1 ht
    have hlegible := Segment.legible_of_normal (Template.normal_of_parse hparse)
    obtain ⟨hrest, hrender⟩ := ih (mapM_eq_ok_iff.2 hts)
    rw [List.flatMap_cons, List.flatMap_cons, Segment.render_append,
      Template.render_of_parse hparse, hrender]
    exact ⟨List.forall_mem_append.2 ⟨hlegible, hrest⟩, rfl⟩

end Declaration

namespace Route

variable {cs : Constraints} {r : Route}

theorem compiledFrom_of_route {s : Scope} {a : Action} (h : Declaration.route s a = .ok r) :
    r.CompiledFrom s.constraints (String.join (s.templates ++ [a.subpath])).toList :=
  ⟨s, a, h, rfl, congrArg String.toList (Declaration.template_of_route h)⟩

/-- The pattern of a route is that of any segments with its text. -/
theorem CompiledFrom.pattern {text : List Char} (h : r.CompiledFrom cs text) {ss : List Segment}
    (hss : ∀ s ∈ ss, s.Legible) (hrender : Segment.render ss = text) :
    Segment.pattern? cs.pattern ss = some r.pattern := by
  obtain ⟨s, a, hroute, rfl, rfl⟩ := h
  obtain ⟨ts, hts, hp⟩ := Declaration.exists_templates_of_route hroute
  obtain ⟨hlegible, hjoin⟩ := Declaration.render_of_parseTemplates hts
  rw [Declaration.template_of_route hroute, ← hjoin] at hrender
  rw [Segment.pattern?_congr _ hss hlegible hrender, ← Pattern.ofTemplates_eq, hp]

theorem captures_of_pattern? {pattern : String → String → String}
    {inner : String → String → Regex} (h : ∀ resource field,
      Encloses (pattern resource field).toList (inner resource field)) {ss : List Segment}
    (hp : Segment.pattern? pattern ss = some r.pattern) (path : String) :
    r.captures path = ((anchored (Segment.regexes inner 0 ss)).find path.toList).map
      (capturesOf (numbered 0 (Segment.keys ss))) := by
  obtain ⟨hregex, hgroups⟩ := Segment.regex_of_pattern? h hp
  rw [captures, hregex, hgroups]

end Route

/-! ## One alternative -/

namespace Segment

variable {inner : String → String → Regex}

/-- What an alternative finds among others is what it finds alone, but for the numbers of its
groups. -/
theorem find_alternative (hinner : ∀ resource field, (inner resource field).names = [])
    (text : List Char) (a ts : List Segment) (n k : Nat) (cs : List Char) :
    (anchored ((text.map fun c => .literal [c]) ++
      concat (regexes inner n a) :: regexes inner k ts)).find cs =
        ((anchored (regexes inner 0 (.literal text :: (a ++ ts)))).find cs).map
          (Stop.rename (renumber (shifted (keys a).length n k))) := by
  have ha : ∀ i < (keys a).length, shifted (keys a).length n k (0 + i) = n + i := by
    intro i hi
    rw [Nat.zero_add]
    exact shifted_of_lt hi n k
  have hts : ∀ i < (keys ts).length,
      shifted (keys a).length n k (0 + (keys a).length + i) = k + i := by
    intro i _
    rw [Nat.zero_add]
    exact shifted_add _ n k i
  rw [find_congr (congrArg Preference.stops (preference_anchored_concat _ _ _)), ← find_rename, rename_anchored, regexes,
    regexesOne, keysOne, List.length_nil, Nat.add_zero, regexes_append, List.map_append,
    List.map_append, rename_regexes hinner 0 n a ha, rename_regexes hinner _ k ts hts,
    List.map_map]
  rfl

theorem keysAlternatives_append (as bs : List (List Segment)) :
    keysAlternatives (as ++ bs) = keysAlternatives as ++ keysAlternatives bs := by
  induction as with
  | nil => rfl
  | cons a as ih =>
    rw [List.cons_append, keysAlternatives, keysAlternatives, ih, List.append_assoc]

/-- What the first alternative captures that leads to the end. The alternatives in `done` have been
tried before. -/
theorem findSome?_alternatives (hinner : ∀ resource field, (inner resource field).names = [])
    {text : List Char} {ts : List Segment} {path : String} {left : List (List Segment)}
    {rs : List Route} (h : List.Forall₂ (fun a r => r.captures path =
      ((anchored (regexes inner 0 (.literal text :: (a ++ ts)))).find path.toList).map
        (Route.capturesOf (numbered 0 (keys a ++ keys ts)))) left rs)
    (done : List (List Segment)) :
    ((regexesAlternatives inner (keysAlternatives done).length left).findSome? fun q =>
      ((anchored ((text.map fun c => .literal [c]) ++
        q :: regexes inner (keysAlternatives (done ++ left)).length ts)).find path.toList).map
          (Route.capturesOf (numbered 0 (keysAlternatives (done ++ left) ++ keys ts)))) =
      rs.findSome? (·.captures path) := by
  induction h generalizing done with
  | nil => rfl
  | @cons a r left rs ha _ ih =>
    have hkeys : keysAlternatives (done ++ a :: left) =
        keysAlternatives done ++ (keys a ++ keysAlternatives left) := by
      rw [keysAlternatives_append, keysAlternatives]
    have hrest := ih (done ++ [a])
    have hdone : (keysAlternatives (done ++ [a])).length =
        (keysAlternatives done).length + (keys a).length := by
      simp [keysAlternatives_append, keysAlternatives]
    have hlength : (keysAlternatives (done ++ a :: left)).length =
        (keysAlternatives done).length + (keys a).length + (keysAlternatives left).length := by
      rw [hkeys, List.length_append, List.length_append, Nat.add_assoc]
    have hcaptures : (fun s : Stop => Route.capturesOf
        (numbered 0 (keysAlternatives (done ++ a :: left) ++ keys ts))
          (s.rename (renumber (shifted (keys a).length (keysAlternatives done).length
            (keysAlternatives (done ++ a :: left)).length)))) =
        Route.capturesOf (numbered 0 (keys a ++ keys ts)) := by
      funext s
      rw [hlength, hkeys, List.append_assoc, List.append_assoc]
      exact Route.capturesOf_shifted s _ (keys a) _ (keys ts)
    rw [List.append_assoc, List.singleton_append, hdone] at hrest
    rw [regexesAlternatives, List.findSome?_cons, List.findSome?_cons, hrest,
      find_alternative hinner, Option.map_map, ha, ← hcaptures]
    rfl

end Segment

/-! ## Alternatives of a route -/

theorem Constraints.pattern_cases (cs : Constraints) (resource field : String) :
    (∃ e ∈ cs.entries, cs.pattern resource field = e.2.regex) ∨
      cs.pattern resource field = Constraint.defaultPattern := by
  have hmem : ∀ {k : String} {c : Constraint}, cs.get? k = some c →
      ∃ e ∈ cs.entries, c.regex = e.2.regex := by
    intro k c hc
    obtain ⟨e, he, rfl⟩ := Option.map_eq_some_iff.1 hc
    exact ⟨e, List.mem_of_find?_eq_some he, rfl⟩
  unfold pattern
  split
  · next h => exact .inl (hmem h)
  · next h => exact .inl (hmem h)
  · exact .inr rfl

/-- Patterns are well-formed by themselves, name no groups and do not end in verbose mode. -/
def Constraints.Complete (cs : Constraints) : Prop :=
  ∀ e ∈ cs.entries, (complete? e.2.regex.toList).isSome = true

theorem Constraints.Complete.pattern {cs : Constraints} (h : cs.Complete)
    (resource field : String) : ∃ r, complete? (cs.pattern resource field).toList = some r := by
  rcases cs.pattern_cases resource field with ⟨e, he, heq⟩ | heq
  · rw [heq]
    exact Option.isSome_iff_exists.1 (h e he)
  · rw [heq]
    exact ⟨_, rfl⟩

theorem Segment.renderAlternatives_eq (as : List (List Segment)) :
    renderAlternatives as = ['|'].intercalate (as.map render) := by
  induction as with
  | nil => rfl
  | cons a as ih =>
    cases as with
    | nil => simp [renderAlternatives]
    | cons b as =>
      rw [renderAlternatives, ih, List.map_cons, List.map_cons, List.map_cons,
        List.intercalate_cons_cons, List.append_assoc, List.singleton_append]

namespace Route

variable {cs : Constraints} {inner : String → String → Regex} {text rest : List Char}
  {ts : List Segment}

/-- The routes of the alternatives one by one. -/
theorem captures_of_each (hencloses : ∀ resource field,
      Encloses (cs.pattern resource field).toList (inner resource field))
    (htext : (Segment.literal text).Legible) (hrest : Template.read rest = .ok ts)
    {texts : List (List Char)} {as : List (List Segment)}
    (has : List.Forall₂ (fun t a => Template.read t = .ok a) texts as) {rs : List Route}
    (hrs : List.Forall₂ (fun t r => r.CompiledFrom cs (text ++ (t ++ rest))) texts rs)
    (path : String) : List.Forall₂ (fun a r => r.captures path =
      ((anchored (Segment.regexes inner 0 (.literal text :: (a ++ ts)))).find path.toList).map
        (capturesOf (numbered 0 (Segment.keys a ++ Segment.keys ts)))) as rs := by
  induction has generalizing rs with
  | nil =>
    cases hrs
    exact .nil
  | @cons t a texts as ha _ ih =>
    obtain ⟨r, rs', hr, hrs', rfl⟩ := List.forall₂_cons_left_iff.1 hrs
    refine .cons ?_ (ih hrs')
    have hlegible : ∀ s ∈ Segment.literal text :: (a ++ ts), s.Legible :=
      List.forall_mem_cons.2 ⟨htext, List.forall_mem_append.2
        ⟨Segment.legible_of_normal (Template.normal_of_read ha),
          Segment.legible_of_normal (Template.normal_of_read hrest)⟩⟩
    have hrender : Segment.render (.literal text :: (a ++ ts)) = text ++ (t ++ rest) := by
      rw [Segment.render, Segment.renderOne, Segment.render_append,
        Template.render_of_read ha, Template.render_of_read hrest]
    rw [captures_of_pattern? hencloses (hr.pattern hlegible hrender), Segment.keys,
      Segment.keysOne, List.nil_append, Segment.keys_append]

theorem map_render_of_reads {texts : List (List Char)} {as : List (List Segment)}
    (h : List.Forall₂ (fun t a => Template.read t = .ok a) texts as) :
    as.map Segment.render = texts := by
  induction h with
  | nil => rfl
  | cons ha _ ih => rw [List.map_cons, ih, Template.render_of_read ha]

/-- The first alternative that accepts the path wins, if some alternative is unambiguous. -/
theorem captures_of_alternatives (hcs : cs.Complete) (htext : text.all (!Segment.isMark ·) = true)
    (hrest : Template.read rest = .ok ts) {texts : List (List Char)} {as : List (List Segment)}
    (has : texts.mapM Template.read = .ok as) (hclear : ∃ a ∈ as, Segment.Unambiguous a)
    {r : Route} {rs : List Route}
    (hr : r.CompiledFrom cs (text ++ '(' :: (['|'].intercalate texts ++ ')' :: rest)))
    (hrs : List.Forall₂ (fun t q => q.CompiledFrom cs (text ++ (t ++ rest))) texts rs)
    (path : String) : r.captures path = rs.findSome? (·.captures path) := by
  choose inner hcomplete using hcs.pattern
  have hencloses : ∀ resource field,
      Encloses (cs.pattern resource field).toList (inner resource field) :=
    fun resource field => encloses_of_complete? (hcomplete resource field)
  have hread := mapM_eq_ok_iff.1 has
  have hnormal : ∀ a ∈ as, Segment.Normal a := by
    intro a ha
    obtain ⟨_, _, hreada⟩ := exists_of_mapM_eq_ok has ha
    exact Template.normal_of_read hreada
  obtain ⟨a, ha, hu⟩ := hclear
  have hlegible : ∀ s ∈ Segment.literal text :: .alternation as :: ts, s.Legible := by
    refine List.forall_mem_cons.2 ⟨htext, List.forall_mem_cons.2 ⟨⟨List.ne_nil_of_mem ha, ?_⟩,
      Segment.legible_of_normal (Template.normal_of_read hrest)⟩⟩
    exact Segment.normalAlternatives_iff.2 hnormal
  have hrender : Segment.render (.literal text :: .alternation as :: ts) =
      text ++ '(' :: (['|'].intercalate texts ++ ')' :: rest) := by
    simp [Segment.render, Segment.renderOne, Segment.renderAlternatives_eq, map_render_of_reads hread,
      Template.render_of_read hrest]
  have hfirst := Segment.findSome?_alternatives
    (fun resource field => names_of_complete? (hcomplete resource field))
    (captures_of_each hencloses htext hrest hread hrs path) []
  rw [captures_of_pattern? hencloses (hr.pattern hlegible hrender),
    Segment.find_alternation inner text ts ⟨a, ha, hnormal a ha, hu⟩, List.map_findSome?, ← hfirst]
  rfl

/-- The logs of a build, which is known by its number, or by its branch with or without a mark. -/
def logs (subpath : String) : Except RouteError Route :=
  Declaration.route ⟨"build", ["/build"], .empty, ⟨[("id", .digits)]⟩⟩ ⟨.get, "logs", subpath⟩

theorem captures_of_alternatives_logs : ∃ r q₁ q₂ : Route,
    logs "/(\x7bbuild.id\x7d|(b|b-)\x7bbuild.branch\x7d)/logs" = .ok r ∧
      logs "/\x7bbuild.id\x7d/logs" = .ok q₁ ∧ logs "/(b|b-)\x7bbuild.branch\x7d/logs" = .ok q₂ ∧
        ∀ path, r.captures path = [q₁, q₂].findSome? (·.captures path) := by
  have hcs : Constraints.Complete ⟨[("id", .digits)]⟩ := by
    show ∀ e ∈ [("id", Constraint.digits)], (complete? e.2.regex.toList).isSome = true
    decide +kernel
  have htext : "/build/".toList.all (!Segment.isMark ·) = true := by decide
  have hrest : Template.read "/logs".toList = .ok [.literal "/logs".toList] := by rfl
  have has : ["\x7bbuild.id\x7d".toList, "(b|b-)\x7bbuild.branch\x7d".toList].mapM Template.read =
      .ok [[.placeholder "build".toList "id".toList],
        [.alternation [[.literal ['b']], [.literal ['b', '-']]],
          .placeholder "build".toList "branch".toList]] := by rfl
  -- the texts of the second alternative begin with each other, those of the first one do not
  have hclear : Segment.Unambiguous [.placeholder "build".toList "id".toList] := ⟨trivial, trivial⟩
  obtain ⟨r, hr⟩ : ∃ r, logs "/(\x7bbuild.id\x7d|(b|b-)\x7bbuild.branch\x7d)/logs" = .ok r :=
    exists_of_isOk (by decide +kernel)
  obtain ⟨q₁, hq₁⟩ : ∃ r, logs "/\x7bbuild.id\x7d/logs" = .ok r :=
    exists_of_isOk (by decide +kernel)
  obtain ⟨q₂, hq₂⟩ : ∃ r, logs "/(b|b-)\x7bbuild.branch\x7d/logs" = .ok r :=
    exists_of_isOk (by decide +kernel)
  refine ⟨r, q₁, q₂, hr, hq₁, hq₂, captures_of_alternatives hcs htext hrest has
    ⟨_, List.mem_cons_self, hclear⟩ ?_ (.cons ?_ (.cons ?_ .nil))⟩
  · exact compiledFrom_of_route hr
  · exact compiledFrom_of_route hq₁
  · exact compiledFrom_of_route hq₂

/-- Marks in which all alternatives begin with texts of which one begins another one. -/
def marks (template : String) : Except RouteError Route :=
  Declaration.route ⟨"r", [template], .empty, ⟨[("x", .digits)]⟩⟩ ⟨.get, "show", ""⟩

/-- Without an unambiguous alternative, a later one may win although an earlier one accepts the
path: the shorter text is tried with all alternatives before the longer text is tried. -/
theorem captures_of_ambiguous_alternatives : ∃ r q₁ q₂ : Route,
    marks "/((a|ab)\x7br.x\x7d|(a|ab)\x7br.y\x7d)" = .ok r ∧
      marks "/(a|ab)\x7br.x\x7d" = .ok q₁ ∧ marks "/(a|ab)\x7br.y\x7d" = .ok q₂ ∧
        r.captures "/ab1" = some ⟨[("r.y", "b1")]⟩ ∧
          [q₁, q₂].findSome? (·.captures "/ab1") = some ⟨[("r.x", "1")]⟩ := by
  obtain ⟨r, hr, hall⟩ := exists_of_any_toOption
    (e := marks "/((a|ab)\x7br.x\x7d|(a|ab)\x7br.y\x7d)")
    (p := fun r => r.captures "/ab1" == some ⟨[("r.y", "b1")]⟩) (by decide +kernel)
  obtain ⟨q₁, hq₁, hfirst⟩ := exists_of_any_toOption (e := marks "/(a|ab)\x7br.x\x7d")
    (p := fun r => r.captures "/ab1" == some ⟨[("r.x", "1")]⟩) (by decide +kernel)
  obtain ⟨q₂, hq₂⟩ : ∃ r, marks "/(a|ab)\x7br.y\x7d" = .ok r := exists_of_isOk (by decide +kernel)
  refine ⟨r, q₁, q₂, hr, hq₁, hq₂, beq_iff_eq.1 hall, ?_⟩
  rw [List.findSome?_cons, beq_iff_eq.1 hfirst]

end Route

end RequestBinding
