import RequestBinding.Proofs.Binder.Authority
import RequestBinding.Proofs.Route.Captures
import RequestBinding.V3.Basic
import RequestBinding.V3.BuildRequest

/-!
# The repository of a request

A path below a repository names it by its number or by its slug. What the path names is what the
field is read as, whatever the query and the body say. The other one of the two fields is not part
of the path, so it is left to the query and the body.

## Main definitions

* `V3.NamedBy` - a path names a repository by one of its fields
* `V3.CapturesOne` - what a path below a repository captures for its fields

## Main statements

* `V3.named_of_find?` - the paths below a repository name it by one field
* `V3.repository_of_binds` - how the fields of a repository are read
-/

namespace RequestBinding

/-! ## Pieces of cuts -/

namespace Segment

variable {cs : Constraints}

mutual

theorem mem_keysOne_of_cutOne (s : Segment) {text : List Char} {pairs : List (String × List Char)}
    (h : CutOne cs s text pairs) {p : String × List Char} (hp : p ∈ pairs) : p.1 ∈ keysOne s := by
  match s with
  | .literal _ =>
    cases h
    cases hp
  | .placeholder _ _ =>
    cases h
    rw [List.mem_singleton.1 hp, keysOne]
    exact List.mem_singleton.2 rfl
  | .alternation as =>
    cases h with
    | alternation ha h =>
      rw [keysOne]
      exact mem_keysAlternatives_of_cut as ha h hp

/-- The pieces of a cut stand under keys of its placeholders. -/
theorem mem_keys_of_cut (ss : List Segment) {text : List Char} {pairs : List (String × List Char)}
    (h : Cut cs ss text pairs) {p : String × List Char} (hp : p ∈ pairs) : p.1 ∈ keys ss := by
  match ss with
  | [] =>
    cases h
    cases hp
  | s :: rest =>
    cases h with
    | cons hs hrest =>
      rw [keys]
      rcases List.mem_append.1 hp with hp | hp
      · exact List.mem_append_left _ (mem_keysOne_of_cutOne s hs hp)
      · exact List.mem_append_right _ (mem_keys_of_cut rest hrest hp)

theorem mem_keysAlternatives_of_cut (as : List (List Segment)) {a : List Segment} (ha : a ∈ as)
    {text : List Char} {pairs : List (String × List Char)} (h : Cut cs a text pairs)
    {p : String × List Char} (hp : p ∈ pairs) : p.1 ∈ keysAlternatives as := by
  match as with
  | [] => cases ha
  | b :: rest =>
    rw [keysAlternatives]
    rcases List.mem_cons.1 ha with heq | ha
    · rw [heq] at h
      exact List.mem_append_left _ (mem_keys_of_cut b h hp)
    · exact List.mem_append_right _ (mem_keysAlternatives_of_cut rest ha h hp)

end

end Segment

/-! ## Paths below a repository -/

namespace V3

open BuildRequest (repositoryId repositorySlug)

/-- The template of a repository. -/
def repositoryTemplate : String := "/repo/(\x7brepository.id\x7d|\x7brepository.slug\x7d)"

/-- The segments of the template of a repository. -/
def repositorySegments : List Segment :=
  [.literal "/repo/".toList,
    .alternation [[.placeholder "repository".toList "id".toList],
      [.placeholder "repository".toList "slug".toList]]]

/-- A repository is known by its number or by its slug: the field by which it is named, and the
other one. -/
inductive NamedBy : Field → Field → Prop
  | number : NamedBy repositoryId repositorySlug
  | slug : NamedBy repositorySlug repositoryId

/-- The keys of the placeholders of an action behind the first template of its chain. -/
def otherKeys (s : Scope) (a : Action) : List String :=
  match (s.templates ++ [a.subpath]).tail.mapM Declaration.parseTemplate with
  | .ok ts => Segment.keys (ts.flatMap (·.segments))
  | .error _ => []

/-- What is declared below a repository: the chain of templates begins with that of the repository,
the constraints are built in, and no other placeholder is one of the two fields. -/
structure IsBelow (s : Scope) (a : Action) : Prop where
  head : (s.templates ++ [a.subpath]).head? = some repositoryTemplate
  builtIn : ∀ e ∈ s.constraints.entries, e.2 = .digits ∨ e.2 = .slug
  others : ∀ k ∈ otherKeys s a, k ≠ repositoryId.qualified ∧ k ≠ repositorySlug.qualified

instance (s : Scope) (a : Action) : Decidable (IsBelow s a) :=
  decidable_of_iff (_ ∧ _ ∧ _) ⟨fun ⟨h₁, h₂, h₃⟩ => ⟨h₁, h₂, h₃⟩, fun ⟨h₁, h₂, h₃⟩ => ⟨h₁, h₂, h₃⟩⟩

/-- A declaration whose template begins with that of the repository is below it. -/
def BelowIfNamed : Declaration → Prop
  | .resource _ => True
  | .action s a =>
    repositoryTemplate.toList <+: (String.join (s.templates ++ [a.subpath])).toList → IsBelow s a

instance : DecidablePred BelowIfNamed
  | .resource _ => isTrue trivial
  | .action _ _ => inferInstanceAs (Decidable (_ → _))

theorem belowIfNamed_of_mem : ∀ d ∈ resources.flatMap Resource.declarations, BelowIfNamed d := by
  decide +kernel

theorem parse_repositoryTemplate : Declaration.parseTemplate repositoryTemplate =
    .ok ⟨repositoryTemplate, repositorySegments⟩ := by
  have h : Template.read repositoryTemplate.toList = .ok repositorySegments := by rfl
  rw [Declaration.parseTemplate, Template.parse, h]

/-- The segments of what is below a repository. -/
theorem IsBelow.segments {s : Scope} {a : Action} (h : IsBelow s a) {ts : List Template}
    (hts : (s.templates ++ [a.subpath]).mapM Declaration.parseTemplate = .ok ts) :
    ∃ rest, ts.flatMap (·.segments) = repositorySegments ++ rest ∧
      ∀ k ∈ Segment.keys rest, k ≠ repositoryId.qualified ∧ k ≠ repositorySlug.qualified := by
  obtain ⟨us, hus, hsegments⟩ :=
    Declaration.segments_of_head parse_repositoryTemplate h.head hts
  have hothers := h.others
  rw [otherKeys, hus] at hothers
  exact ⟨_, hsegments, hothers⟩

/-- A cut along the template of a repository gets a piece that fits one of its two fields. -/
theorem exists_piece_of_cut {cs : Constraints} {rest : List Segment} {text : List Char}
    {pairs : List (String × List Char)}
    (h : Segment.Cut cs (repositorySegments ++ rest) text pairs) :
    ∃ taken other piece more pairs', NamedBy taken other ∧ cs.Fits taken.owner taken.name piece ∧
      Segment.Cut cs rest more pairs' ∧ text = "/repo/".toList ++ (piece ++ more) ∧
      pairs = (taken.qualified, piece) :: pairs' := by
  rcases h with _ | ⟨hliteral, h⟩
  cases hliteral
  rcases h with _ | ⟨halternation, h⟩
  cases halternation with
  | alternation ha hcut =>
    rcases List.mem_cons.1 ha with rfl | ha
    · rcases hcut with _ | ⟨hplaceholder, hnil⟩
      cases hnil
      cases hplaceholder with
      | placeholder hfits =>
        rw [String.ofList_toList, String.ofList_toList] at hfits
        refine ⟨_, _, _, _, _, .number, hfits, h, ?_, rfl⟩
        rw [List.append_nil]
    · cases List.mem_singleton.1 ha
      rcases hcut with _ | ⟨hplaceholder, hnil⟩
      cases hnil
      cases hplaceholder with
      | placeholder hfits =>
        rw [String.ofList_toList, String.ofList_toList] at hfits
        refine ⟨_, _, _, _, _, .slug, hfits, h, ?_, rfl⟩
        rw [List.append_nil]

/-- Without placeholders for the two fields, a cut gets no piece for them. -/
theorem NamedBy.ne_of_cut {taken other : Field} (h : NamedBy taken other) {cs : Constraints}
    {rest : List Segment}
    (hrest : ∀ k ∈ Segment.keys rest, k ≠ repositoryId.qualified ∧ k ≠ repositorySlug.qualified)
    {text : List Char} {pairs : List (String × List Char)} (hcut : Segment.Cut cs rest text pairs)
    {p : String × List Char} (hp : p ∈ pairs) :
    p.1 ≠ taken.qualified ∧ p.1 ≠ other.qualified := by
  have hkey := hrest p.1 (Segment.mem_keys_of_cut rest hcut hp)
  cases h with
  | number => exact hkey
  | slug => exact hkey.symm

theorem exists_namedBy_of_cut {cs : Constraints} {rest : List Segment} {text : List Char}
    {pairs : List (String × List Char)}
    (h : Segment.Cut cs (repositorySegments ++ rest) text pairs)
    (hrest : ∀ k ∈ Segment.keys rest, k ≠ repositoryId.qualified ∧ k ≠ repositorySlug.qualified) :
    ∃ taken other piece more, NamedBy taken other ∧ pairs = (taken.qualified, piece) :: more ∧
      ∀ p ∈ more, p.1 ≠ taken.qualified ∧ p.1 ≠ other.qualified := by
  obtain ⟨taken, other, piece, _, more, hnamed, _, hcut, _, hpairs⟩ := exists_piece_of_cut h
  exact ⟨taken, other, piece, more, hnamed, hpairs, fun _ hp => hnamed.ne_of_cut hrest hcut hp⟩

/-- Of the two fields of a repository, one is captured once, with some value, and the other one is
not captured. -/
structure CapturesOne (c : Captures) (taken other : Field) (v : String) : Prop where
  named : NamedBy taken other
  taken : c.pairs.filter (·.1 == taken.qualified) = [(taken.qualified, v)]
  other : other.qualified ∉ c.keys

/-! ## Requests below a repository -/

/-- What a binder of the API is made of: the table of its resources, the kinds of jobs of the
settings, and the types of the results. -/
theorem exists_of_binder {s : Settings} {b : Binder} (h : (binder s).value = .ok b) :
    ∃ routes jobs, (RouteTable.compile resources).value = .ok routes ∧
      JobRegistry.empty.registerAll s.jobs.entries = .ok jobs ∧
      s.jobs.contains JobKinds.buildRequest = true ∧
      b = ⟨routes, s.api.mountPath, resultTypes, some jobs⟩ := by
  unfold binder at h
  -- which table it is does not matter
  generalize RouteTable.compile resources = t at h ⊢
  obtain ⟨table, signals⟩ := t
  split at h
  · next hcontains =>
    cases table with
    | error e => cases h
    | ok routes =>
      obtain ⟨b', hb', rfl⟩ := exists_of_map_eq_ok h
      unfold Binder.ofSettings at hb'
      split at hb'
      · next jobs hjobs =>
        cases hb'
        exact ⟨routes, jobs, rfl, hjobs, hcontains, rfl⟩
      · cases hb'
  · cases h

theorem compile_of_binder {s : Settings} {b : Binder} (h : (binder s).value = .ok b) :
    (RouteTable.compile resources).value = .ok b.routes := by
  obtain ⟨routes, jobs, hroutes, _, _, rfl⟩ := exists_of_binder h
  exact hroutes

/-- A path below a repository names it by one of its two fields. -/
theorem named_of_find? {t : RouteTable} (ht : (RouteTable.compile resources).value = .ok t)
    {method : Method} {path : String} {r : Route} {c : Captures}
    (hfind : t.find? method path = some (r, c))
    (hr : repositoryTemplate.toList <+: r.template.toList) :
    ∃ taken other v, CapturesOne c taken other v := by
  obtain ⟨hmem, hc⟩ := RouteTable.of_find? hfind
  obtain ⟨s, a, hdeclared, hroute⟩ := RouteTable.exists_action_of_compile ht hmem
  have hbelow : IsBelow s a := by
    rw [Declaration.template_of_route hroute] at hr
    exact belowIfNamed_of_mem _ hdeclared hr
  obtain ⟨ts, pairs, hts, hcut, hpairs⟩ :=
    Declaration.exists_cut_of_captures hbelow.builtIn hroute hc
  obtain ⟨rest, hsegments, hrest⟩ := hbelow.segments hts
  rw [hsegments] at hcut
  obtain ⟨taken, other, piece, more, hnamed, rfl, hmore⟩ := exists_namedBy_of_cut hcut hrest
  have hne : taken.qualified ≠ other.qualified := by
    cases hnamed <;> decide
  have hnone : more.filter (fun p => p.1 == taken.qualified) = [] := by
    rw [List.filter_eq_nil_iff]
    exact fun p hp => mt beq_iff_eq.1 (hmore p hp).1
  refine ⟨taken, other, Percent.decodeText (String.ofList piece), hnamed, ?_, ?_⟩
  · simp [hpairs, List.filter_map, Function.comp_def, hnone]
  · simp only [Captures.keys, hpairs, List.map_map, List.map_cons, List.mem_cons, not_or]
    refine ⟨hne.symm, fun hin => ?_⟩
    obtain ⟨p, hp, heq⟩ := List.mem_map.1 hin
    exact (hmore p hp).2 heq

/-- One of the two fields of a repository is read from the path, and the other one as if nothing had
been captured. -/
structure Reads (b : Binder) (uri : Uri) (body : Body) (x : Binding) (taken other : Field)
    (v : String) : Prop where
  taken : (x.resolver.resolve taken).value.1 = some (.str v)
  other : ∃ q, Binder.gather .empty uri.query body = .ok q ∧ (x.resolver.resolve other).value.1 =
    ((Resolver.new q (b.typeOf x.route) b.jobs).resolve other).value.1

/-- The path decides by which of the two fields a repository is known and on the value of that
field: it is what the path captures, and nothing is captured for the other field, which is not
decided by the path. -/
theorem repository_of_binds {s : Settings} {b : Binder} (hb : (binder s).value = .ok b)
    {method : Method} {uri uri' : Uri} (hpath : uri.path = uri'.path) {body body' : Body}
    {x x' : Binding} (hx : b.Binds method uri body x) (hx' : b.Binds method uri' body' x')
    (hr : repositoryTemplate.toList <+: x.route.template.toList) :
    x.route = x'.route ∧ ∃ path c taken other v, b.strip? uri.path = some path ∧
      b.routes.find? method path = some (x.route, c) ∧ CapturesOne c taken other v ∧
      Reads b uri body x taken other v ∧ Reads b uri' body' x' taken other v := by
  have hroutes := compile_of_binder hb
  obtain ⟨path, c, p, hstrip, hfind, hgather, hresolver⟩ := Binder.exists_of_bindBody hx.value_eq
  obtain ⟨path', c', p', hstrip', hfind', hgather', hresolver'⟩ :=
    Binder.exists_of_bindBody hx'.value_eq
  -- both requests have the same path, so they find the same route with the same captures
  obtain rfl : path = path' := by
    rw [hpath] at hstrip
    exact Option.some.inj (hstrip.symm.trans hstrip')
  obtain ⟨hroute, rfl⟩ := Prod.mk.inj (Option.some.inj (hfind.symm.trans hfind'))
  obtain ⟨taken, other, v, hnamed, hpairs, hother⟩ := named_of_find? hroutes hfind hr
  have htaken : (c.pairs.filter (·.1 == taken.qualified)).map (·.2) = [v] := by
    rw [hpairs, List.map_singleton]
  have hdot : ∀ k ∈ c.keys, '.' ∈ k.toList := fun k hk =>
    RouteTable.dot_mem_of_find? hroutes hfind hk
  have hplain : '.' ∉ other.owner.toList ∧ '.' ∉ other.name.toList := by
    cases hnamed <;> decide
  refine ⟨hroute, path, c, taken, other, v, hstrip, hfind, ⟨hnamed, hpairs, hother⟩, ⟨?_, ?_⟩,
    ⟨?_, ?_⟩⟩
  · rw [hresolver, Resolver.value_resolve_new]
    exact Binder.lookup_of_captured hgather htaken _
  · rw [hresolver]
    exact Binder.lookup_of_not_captured hgather hdot hplain.1 hplain.2 hother _
  · rw [hresolver', Resolver.value_resolve_new]
    exact Binder.lookup_of_captured hgather' htaken _
  · rw [hresolver']
    exact Binder.lookup_of_not_captured hgather' hdot hplain.1 hplain.2 hother _

/-- A repository that is named by its number. -/
def byNumber : Uri := ⟨"/v3/repo/1/requests", none⟩

/-- The same repository, and a slug in the query. -/
def byNumberAndSlug : Uri := ⟨"/v3/repo/1/requests", some "repository.slug=svenfuchs%2Fminimal"⟩

/-- The two requests with the settings if nothing is said, and the slugs that are read. -/
theorem exists_binds_byNumber : ∃ b x x', (binder .default).value = .ok b ∧
    b.Binds .post byNumber (.json []) x ∧ b.Binds .post byNumberAndSlug (.json []) x' ∧
    repositoryTemplate.toList <+: x.route.template.toList ∧
    (x.resolver.resolve repositorySlug).value.1.bind Json.str? = none ∧
    (x'.resolver.resolve repositorySlug).value.1.bind Json.str? = some "svenfuchs/minimal" := by
  have hrun : (binder .default).value.toOption.any (fun b =>
      (b.bind .post byNumber []).value.toOption.any (fun x =>
        decide (repositoryTemplate.toList <+: x.route.template.toList) &&
          decide ((x.resolver.resolve repositorySlug).value.1.bind Json.str? = none)) &&
      (b.bind .post byNumberAndSlug []).value.toOption.any fun x =>
        decide ((x.resolver.resolve repositorySlug).value.1.bind Json.str? =
          some "svenfuchs/minimal")) = true := by
    decide +kernel
  obtain ⟨b, hb, hrun⟩ := exists_of_any_toOption hrun
  obtain ⟨hfirst, hsecond⟩ := Bool.and_eq_true_iff.1 hrun
  obtain ⟨x, hx, hfirst⟩ := exists_of_any_toOption hfirst
  obtain ⟨x', hx', hslug⟩ := exists_of_any_toOption hsecond
  obtain ⟨hr, hnone⟩ := Bool.and_eq_true_iff.1 hfirst
  exact ⟨b, x, x', hb, .json hx, .json hx', of_decide_eq_true hr, of_decide_eq_true hnone,
    of_decide_eq_true hslug⟩

theorem repository_of_binds_byNumber : ∃ b x x', b.Binds .post byNumber (.json []) x ∧
    b.Binds .post byNumberAndSlug (.json []) x' ∧ x.route = x'.route ∧
    ∃ path c taken other v, b.strip? byNumber.path = some path ∧
      b.routes.find? .post path = some (x.route, c) ∧ CapturesOne c taken other v ∧
      Reads b byNumber (.json []) x taken other v ∧
      Reads b byNumberAndSlug (.json []) x' taken other v := by
  obtain ⟨b, x, x', hb, hx, hx', hr, _, _⟩ := exists_binds_byNumber
  have hpath : byNumber.path = byNumberAndSlug.path := rfl
  exact ⟨b, x, x', hx, hx', repository_of_binds hb hpath hx hx' hr⟩

/-- A slug in the query is what the field is read as, although the path names the repository by
its number. -/
theorem slug_not_of_path : ∃ b x x', (binder .default).value = .ok b ∧
    byNumber.path = byNumberAndSlug.path ∧ b.Binds .post byNumber (.json []) x ∧
    b.Binds .post byNumberAndSlug (.json []) x' ∧
    repositoryTemplate.toList <+: x.route.template.toList ∧
    (x.resolver.resolve repositorySlug).value.1 ≠ (x'.resolver.resolve repositorySlug).value.1 := by
  obtain ⟨b, x, x', hb, hx, hx', hr, hnone, hslug⟩ := exists_binds_byNumber
  refine ⟨b, x, x', hb, rfl, hx, hx', hr, fun heq => ?_⟩
  rw [heq, hslug] at hnone
  cases hnone

end V3

end RequestBinding
