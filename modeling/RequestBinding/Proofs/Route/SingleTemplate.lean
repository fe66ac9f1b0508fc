import RequestBinding.Proofs.Route.Alternatives

/-!
# Routes of a single template

The texts of a chain of templates make up a template, and this one has the pattern of the chain: it
does not matter where a template is cut into those of nested resources. The keys of the route are
the names in braces of its template.

## Main definitions

* `Template.names` - the names in braces of a text
* `Declaration.flat` - the action of a resource that has the whole template

## Main statements

* `Template.names_of_parse` - the keys of a template are the names in braces of its text
* `Template.exists_parse_join` - the texts of a chain make up a template
* `Draft.templates_joined` - patterns are told by the text of the whole chain
* `Declaration.route_eq_flat` - the route of a chain is that of a single template
-/

namespace RequestBinding

/-! ## Names in braces -/

namespace Template

/-- The names in braces of a text, from left to right. Inside of braces, `name` is what has been
read of the name, backwards. -/
def namesFrom : Option (List Char) → List Char → List (List Char)
  | _, [] => []
  | none, c :: rest => if c = '{' then namesFrom (some []) rest else namesFrom none rest
  | some name, c :: rest =>
    if c = '}' then name.reverse :: namesFrom none rest else namesFrom (some (c :: name)) rest

/-- The names in braces of a text, from left to right. -/
def names (source : String) : List String := (namesFrom none source.toList).map String.ofList

theorem namesFrom_plain {text : List Char} (h : '{' ∉ text) (rest : List Char) :
    namesFrom none (text ++ rest) = namesFrom none rest := by
  induction text with
  | nil => rfl
  | cons c text ih =>
    obtain ⟨hc, htext⟩ := List.ne_and_not_mem_of_not_mem_cons h
    rw [List.cons_append, namesFrom, if_neg hc.symm, ih htext]

theorem namesFrom_name {name : List Char} (h : '}' ∉ name) (read rest : List Char) :
    namesFrom (some read) (name ++ '}' :: rest) =
      (read.reverse ++ name) :: namesFrom none rest := by
  induction name generalizing read with
  | nil => rw [List.nil_append, namesFrom, if_pos rfl, List.append_nil]
  | cons c name ih =>
    obtain ⟨hc, hname⟩ := List.ne_and_not_mem_of_not_mem_cons h
    rw [List.cons_append, namesFrom, if_neg hc.symm, ih hname, List.reverse_cons,
      List.append_assoc, List.singleton_append]

theorem brace_not_mem {text : List Char} (h : text.all (!Segment.isMark ·) = true) :
    '{' ∉ text := by
  intro hmem
  have hmark := List.all_eq_true.1 h _ hmem
  revert hmark
  decide

open Segment in
mutual

theorem namesFrom_renderOne (s : Segment) (hs : NormalOne s) (rest : List Char) :
    namesFrom none (renderOne s ++ rest) =
      (keysOne s).map String.toList ++ namesFrom none rest := by
  match s with
  | .literal text =>
    rw [renderOne, keysOne]
    exact namesFrom_plain (brace_not_mem hs.2) rest
  | .placeholder resource field =>
    obtain ⟨hr, hf⟩ := hs
    have hname : '}' ∉ resource ++ '.' :: field := by
      rw [List.mem_append, List.mem_cons, not_or, not_or]
      exact ⟨not_mem_of_isName hr rfl, by decide, not_mem_of_isName hf rfl⟩
    have htext : renderOne (.placeholder resource field) ++ rest =
        '{' :: ((resource ++ '.' :: field) ++ '}' :: rest) := by simp [renderOne]
    rw [htext, namesFrom, if_pos rfl, namesFrom_name hname]
    simp [keysOne, key]
  | .alternation as =>
    have hplain := namesFrom_renderAlternatives as hs.2 (')' :: rest)
    rw [namesFrom, if_neg (by decide)] at hplain
    rw [renderOne, keysOne, List.cons_append, List.append_assoc, namesFrom, if_neg (by decide)]
    exact hplain

/-- The names in braces of the text of segments are their keys. -/
theorem namesFrom_render (ss : List Segment) (hss : Normal ss) (rest : List Char) :
    namesFrom none (render ss ++ rest) = (keys ss).map String.toList ++ namesFrom none rest := by
  match ss with
  | [] => rw [render, keys]; rfl
  | s :: more =>
    rw [render, keys, List.append_assoc, namesFrom_renderOne s hss.1, namesFrom_render more hss.2.2,
      List.map_append, List.append_assoc]

theorem namesFrom_renderAlternatives (as : List (List Segment)) (has : NormalAlternatives as)
    (rest : List Char) : namesFrom none (renderAlternatives as ++ rest) =
      (keysAlternatives as).map String.toList ++ namesFrom none rest := by
  match as with
  | [] => rw [renderAlternatives, keysAlternatives]; rfl
  | [a] =>
    rw [renderAlternatives, keysAlternatives, keysAlternatives, List.append_nil]
    exact namesFrom_render a has.1 rest
  | a :: b :: more =>
    rw [renderAlternatives, keysAlternatives, List.append_assoc, namesFrom_render a has.1,
      List.cons_append, namesFrom, if_neg (by decide),
      namesFrom_renderAlternatives (b :: more) has.2, List.map_append, List.append_assoc]

end

/-- The keys of a template are the names in braces of its text. -/
theorem names_of_parse {source : String} {t : Template} (h : parse source = .ok t) :
    names source = Segment.keys t.segments := by
  have hread := namesFrom_render t.segments (normal_of_parse h) []
  rw [render_of_parse h, List.append_nil] at hread
  simp [names, hread, namesFrom, Function.comp_def]

/-! ## Chains -/

/-- The texts of a chain of templates make up a template. Its segments are those of the chain, with
literals joined where two templates meet. -/
theorem exists_parse_join {sources : List String} {ts : List Template}
    (h : sources.mapM Declaration.parseTemplate = .ok ts) :
    ∃ t, parse (String.join sources) = .ok t ∧
      t.segments = Segment.joined (ts.flatMap (·.segments)) := by
  obtain ⟨hlegible, hrender⟩ := Declaration.render_of_parseTemplates h
  have hread := read_render (Segment.normal_joined hlegible)
  rw [Segment.render_joined, hrender] at hread
  refine ⟨⟨String.join sources, Segment.joined (ts.flatMap (·.segments))⟩, ?_, rfl⟩
  rw [parse, hread]

end Template

/-- What is assembled for a chain of templates is told by the text and the keys of all segments. -/
theorem Draft.templates_eq (cs : Constraints) (ts : List Template) : Draft.templates cs ts =
    ⟨Segment.source cs.pattern 0 (ts.flatMap (·.segments)),
      numbered 0 (Segment.keys (ts.flatMap (·.segments)))⟩ := by
  rw [← Draft.text_templates, ← Draft.groups_templates]

/-- Joining literals does not matter for what is assembled. -/
theorem Draft.templates_joined (cs : Constraints) {t : Template} {ts : List Template}
    (h : t.segments = Segment.joined (ts.flatMap (·.segments))) :
    Draft.templates cs [t] = Draft.templates cs ts := by
  rw [Draft.templates_eq, Draft.templates_eq, List.flatMap_singleton, h, Segment.source_joined,
    Segment.keys_joined]

/-! ## Routes -/

namespace Declaration

/-- A resource with the same name and constraints whose template is that of the whole chain of an
action, and the action on it without a template of its own. -/
def flat (s : Scope) (a : Action) : Scope × Action :=
  ({ s with templates := [String.join (s.templates ++ [a.subpath])] }, { a with subpath := "" })

theorem route_of_templates {s : Scope} {a : Action} {ts : List Template}
    (h : (s.templates ++ [a.subpath]).mapM parseTemplate = .ok ts) : route s a =
      match Pattern.ofTemplates s.constraints ts with
      | some pattern =>
        .ok ⟨a.method, String.join (s.templates ++ [a.subpath]), pattern, a.name, s.resource⟩
      | none => .error (.invalidTemplate (String.join (s.templates ++ [a.subpath])) .pattern) := by
  unfold route
  cases hp : Pattern.ofTemplates s.constraints ts <;> simp only [h, hp]

/-- The texts of a chain of templates make up a single template, for which the same pattern text and
the same groups are assembled under any constraints, so that the action has the route that it has
with this template. The keys of the route are the names in braces of its template, and its groups
are numbered in this order. -/
theorem route_eq_flat {s : Scope} {a : Action} {ts : List Template}
    (h : (s.templates ++ [a.subpath]).mapM parseTemplate = .ok ts) :
    ∃ t, Template.parse (String.join (s.templates ++ [a.subpath])) = .ok t ∧
      Draft.templates s.constraints [t] = Draft.templates s.constraints ts ∧
      route s a = route (flat s a).1 (flat s a).2 ∧
      ∀ r, route s a = .ok r → r.template = String.join (s.templates ++ [a.subpath]) ∧
        r.keys = Template.names r.template ∧
        r.pattern.groups = numbered 0 (Template.names r.template) := by
  obtain ⟨t, ht, hsegments⟩ := Template.exists_parse_join h
  have hdraft := Draft.templates_joined s.constraints hsegments
  have hflat : ((flat s a).1.templates ++ [(flat s a).2.subpath]).mapM parseTemplate =
      .ok [t, ⟨"", []⟩] := by
    rw [mapM_eq_ok_iff]
    exact .cons (parseTemplate_eq_ok_iff.2 ht) (.cons rfl .nil)
  have hpattern : Pattern.ofTemplates s.constraints [t, ⟨"", []⟩] =
      Pattern.ofTemplates s.constraints ts := by
    have hend : Draft.templates s.constraints [t, ⟨"", []⟩] =
        Draft.templates s.constraints [t] := by
      rw [Draft.templates_eq, Draft.templates_eq]
      simp
    rw [Pattern.ofTemplates, Pattern.ofTemplates, hend, hdraft]
  refine ⟨t, ht, hdraft, ?_, fun r hr => ?_⟩
  · have htext : String.join ((flat s a).1.templates ++ [(flat s a).2.subpath]) =
        String.join (s.templates ++ [a.subpath]) := by simp [flat]
    rw [route_of_templates h, route_of_templates hflat, htext,
      show (flat s a).1.constraints = s.constraints from rfl, hpattern]
    rfl
  · have htemplate := template_of_route hr
    obtain ⟨ts', hts', hp⟩ := exists_templates_of_route hr
    obtain rfl : ts' = ts := Except.ok.inj (hts'.symm.trans h)
    have hgroups : r.pattern.groups = numbered 0 (Template.names r.template) := by
      rw [Pattern.groups_of_ofTemplates hp, htemplate, Template.names_of_parse ht, hsegments,
        Segment.keys_joined]
    exact ⟨htemplate, by rw [Route.keys, hgroups, numbered_keys], hgroups⟩

/-- Four templates: the literals of two meet, one ends with an alternation, and one begins with a
placeholder. -/
def builds : Scope :=
  ⟨"build", ["/repo", "sitory/({repository.id}|by-(name/{repository.slug}|))", "{branch.name}"],
    .empty, ⟨[("id", .digits), ("branch.name", .pattern "[a-z]+(?:/[a-z]+)*")]⟩⟩

theorem route_eq_flat_builds : ∃ r, route builds ⟨.get, "find", "/build/{build.id}"⟩ = .ok r ∧
    route ⟨"build", ["/repository/({repository.id}|by-(name/{repository.slug}|)){branch.name}" ++
        "/build/{build.id}"], .empty, builds.constraints⟩ ⟨.get, "find", ""⟩ = .ok r ∧
    r.keys = ["repository.id", "repository.slug", "branch.name", "build.id"] := by
  have hok : ((builds.templates ++ ["/build/{build.id}"]).mapM parseTemplate).isOk = true := by
    decide +kernel
  have hroute : (route builds ⟨.get, "find", "/build/{build.id}"⟩).isOk = true := by decide +kernel
  obtain ⟨ts, hts⟩ := exists_of_isOk hok
  obtain ⟨r, hr⟩ := exists_of_isOk hroute
  obtain ⟨_, _, _, hflat, hkeys⟩ := route_eq_flat (s := builds)
    (a := ⟨.get, "find", "/build/{build.id}"⟩) hts
  obtain ⟨htemplate, hkeys, _⟩ := hkeys r hr
  refine ⟨r, hr, ?_, ?_⟩
  · rw [← hr, hflat]
    rfl
  · rw [hkeys, htemplate]
    decide +kernel

end Declaration

end RequestBinding
