import RequestBinding.Proofs.Route.Covering
import RequestBinding.Proofs.Route.Exclusive
import RequestBinding.Proofs.V3.Repository

/-!
# The table is unambiguous

No request has two routes, so the order of the routes does not matter. A path below a repository
names it by its number if the segment behind `/repo/` consists of digits, and by its slug otherwise.
An owner is always captured under the key of the first alternative of its template, since all three
alternatives have the same texts.

## Main definitions

* `V3.Names` - what names a repository in a path
* `V3.Unambiguous` - what it means for a table to be unambiguous

## Main statements

* `V3.exclusive_of_compile` - no request has two routes
* `V3.names_of_captures` - the paths below a repository
* `V3.not_mem_keys_of_captures` - the keys under which nothing is captured
* `V3.exists_unambiguous` - the table is compiled and is unambiguous
-/

namespace RequestBinding.V3

open BuildRequest (repositoryId repositorySlug)

/-! ## Overlaps -/

theorem regular_of_mem : ∀ p ∈ RouteTable.actions resources, Declaration.Regular p := by
  decide +kernel

theorem pairwise_exclusive :
    (RouteTable.actions resources).Pairwise Declaration.Exclusive := by
  decide +kernel

theorem exclusive_of_compile {t : RouteTable} (ht : (RouteTable.compile resources).value = .ok t) :
    t.Exclusive := RouteTable.exclusive_of_compile ht regular_of_mem pairwise_exclusive

/-! ## Repositories -/

/-- The path behind `/repo/` begins with a segment that names the repository by one of its two
fields: by its number if the segment consists of digits, else by its slug. The segment is captured
once for this field, decoded, and nothing is captured for the other one. -/
structure Names (path : String) (c : Captures) (taken other : Field) (segment rest : List Char) :
    Prop where
  named : NamedBy taken other
  path_eq : path.toList = "/repo/".toList ++ (segment ++ rest)
  nonempty : segment ≠ []
  slashFree : '/' ∉ segment
  atBreak : Segment.AtBreak rest
  number_iff : taken = repositoryId ↔ ∀ x ∈ segment, x.isDigit = true
  once : c.keys.count taken.qualified = 1
  value : c.get? taken.qualified = some (Percent.decodeText (String.ofList segment))
  other : other.qualified ∉ c.keys

/-- What is declared below a repository, where a number has digits, a slug has an escaped slash, and
the segment of the repository is complete. -/
structure IsWithin (s : Scope) (a : Action) : Prop extends IsBelow s a where
  number : s.constraints.nearest? repositoryId.owner repositoryId.name = some .digits
  slug : s.constraints.nearest? repositorySlug.owner repositorySlug.name = some .slug
  complete : (String.join (s.templates ++ [a.subpath]).tail).toList.head?.all (· == '/') = true

instance (s : Scope) (a : Action) : Decidable (IsWithin s a) :=
  decidable_of_iff (_ ∧ _ ∧ _ ∧ _)
    ⟨fun ⟨h₁, h₂, h₃, h₄⟩ => ⟨h₁, h₂, h₃, h₄⟩, fun ⟨h₁, h₂, h₃, h₄⟩ => ⟨h₁, h₂, h₃, h₄⟩⟩

theorem isWithin_of_mem : ∀ p ∈ RouteTable.actions resources,
    "/repo/".toList <+: (String.join (p.1.templates ++ [p.2.subpath])).toList →
      IsWithin p.1 p.2 := by
  decide +kernel

theorem NamedBy.fits {cs : Constraints}
    (hnumber : cs.nearest? repositoryId.owner repositoryId.name = some .digits)
    (hslug : cs.nearest? repositorySlug.owner repositorySlug.name = some .slug)
    {taken other : Field} (h : NamedBy taken other) {piece : List Char}
    (hfits : cs.Fits taken.owner taken.name piece) :
    piece ≠ [] ∧ (taken = repositoryId ↔ ∀ x ∈ piece, x.isDigit = true) := by
  cases h with
  | number =>
    obtain ⟨hne, hall⟩ := (Constraints.fits_digits_iff hnumber piece).1 hfits
    exact ⟨hne, iff_of_true rfl hall⟩
  | slug =>
    obtain ⟨owner, name, f, _, _, _, _, _, rfl⟩ := (Constraints.fits_slug_iff hslug piece).1 hfits
    refine ⟨by simp, iff_of_false (by decide) fun hall => ?_⟩
    -- a slug has a percent sign, which is no digit
    have hpercent := hall '%' (List.mem_append_right owner List.mem_cons_self)
    exact absurd hpercent (by decide)

/-- Keys that begin with that of a field and then have neither of the two fields. -/
theorem NamedBy.count_keys {taken other : Field} (h : NamedBy taken other) {keys : List String}
    (hkeys : ∀ k ∈ keys, k ≠ taken.qualified ∧ k ≠ other.qualified) :
    (taken.qualified :: keys).count taken.qualified = 1 ∧
      other.qualified ∉ taken.qualified :: keys := by
  constructor
  · rw [List.count_cons_self, List.count_eq_zero.2 fun hmem => (hkeys _ hmem).1 rfl]
  · rw [List.mem_cons, not_or]
    refine ⟨?_, fun hmem => (hkeys _ hmem).2 rfl⟩
    cases h <;> decide

/-- A route below `/repo/` captures what names the repository. -/
theorem names_of_captures {t : RouteTable} (ht : (RouteTable.compile resources).value = .ok t)
    {r : Route} (hr : r ∈ t.routes) (hbelow : "/repo/".toList <+: r.template.toList)
    {path : String} {c : Captures} (hc : r.captures path = some c) :
    ∃ taken other segment rest, Names path c taken other segment rest := by
  obtain ⟨p, hp, hroute⟩ := exists_of_forall₂ (RouteTable.forall₂_of_compile ht) hr
  rw [Declaration.template_of_route hroute] at hbelow
  have hwithin := isWithin_of_mem p hp hbelow
  obtain ⟨ts, pairs, hts, hcut, hpairs⟩ :=
    Declaration.exists_cut_of_captures hwithin.builtIn hroute hc
  obtain ⟨us, hus, hsegments⟩ :=
    Declaration.segments_of_head parse_repositoryTemplate hwithin.head hts
  rw [hsegments] at hcut
  obtain ⟨taken, other, segment, rest, more, hnamed, hfits, hrest, htext, rfl⟩ :=
    exists_piece_of_cut hcut
  obtain ⟨hne, hdigits⟩ := hnamed.fits hwithin.number hwithin.slug hfits
  have hbreak : Segment.AtBreak rest := by
    refine Segment.atBreak_of_cut (fun x hx => ?_) hrest
    rw [(Declaration.render_of_parseTemplates hus).2] at hx
    exact beq_iff_eq.1 ((Option.all_eq_true _ _).1 hwithin.complete x hx)
  -- neither of the two fields is a placeholder of the rest
  have hothers := hwithin.others
  rw [otherKeys, hus] at hothers
  have hmore : ∀ k ∈ more.map (·.1), k ≠ taken.qualified ∧ k ≠ other.qualified :=
    List.forall_mem_map.2 fun q hq => hnamed.ne_of_cut hothers hrest hq
  have hkeys : c.keys = taken.qualified :: more.map (·.1) := by
    rw [Captures.keys, hpairs]
    simp
  have hvalue : c.get? taken.qualified = some (Percent.decodeText (String.ofList segment)) := by
    rw [Captures.get?, hpairs]
    simp
  obtain ⟨honce, hother⟩ := hnamed.count_keys hmore
  rw [← hkeys] at honce hother
  exact ⟨taken, other, segment, rest, hnamed, htext, hne, Segment.slash_not_mem_of_fits hfits,
    hbreak, hdigits, honce, hvalue, hother⟩

/-! ## Owners -/

/-- The template of an owner. -/
def ownerTemplate : String :=
  "/owner/(\x7bowner.login\x7d|\x7buser.login\x7d|\x7borganization.login\x7d)"

/-- The alternative under which an owner is captured. -/
def firstOwner : List Segment := [.placeholder "owner".toList "login".toList]

/-- The alternatives under which nothing is captured. -/
def otherOwners : List (List Segment) :=
  [[.placeholder "user".toList "login".toList], [.placeholder "organization".toList "login".toList]]

/-- The segments of the template of an owner. -/
def ownerSegments : List Segment :=
  [.literal "/owner/".toList, .alternation (firstOwner :: otherOwners)]

/-- What is declared below an owner: the chain of templates begins with that of the owner, there are
no constraints, and no placeholder of the rest is a login. -/
structure IsOwned (s : Scope) (a : Action) : Prop where
  head : (s.templates ++ [a.subpath]).head? = some ownerTemplate
  free : s.constraints.entries = []
  others : ∀ k ∈ otherKeys s a, k ≠ "user.login" ∧ k ≠ "organization.login"

instance (s : Scope) (a : Action) : Decidable (IsOwned s a) :=
  decidable_of_iff (_ ∧ _ ∧ _) ⟨fun ⟨h₁, h₂, h₃⟩ => ⟨h₁, h₂, h₃⟩, fun ⟨h₁, h₂, h₃⟩ => ⟨h₁, h₂, h₃⟩⟩

/-- The login of a user or of an organization is in no template but in those below an owner. -/
theorem isOwned_or_of_mem : ∀ p ∈ RouteTable.actions resources, IsOwned p.1 p.2 ∨
    ∀ ss ∈ Declaration.segments? p.1 p.2,
      "user.login" ∉ Segment.keys ss ∧ "organization.login" ∉ Segment.keys ss := by
  decide +kernel

theorem parse_ownerTemplate :
    Declaration.parseTemplate ownerTemplate = .ok ⟨ownerTemplate, ownerSegments⟩ := by
  have h : Template.read ownerTemplate.toList = .ok ownerSegments := by rfl
  rw [Declaration.parseTemplate, Template.parse, h]

/-- Without constraints, one placeholder has the texts that any other has. -/
theorem covers_owner {cs : Constraints} (hcs : cs.entries = []) :
    Segment.Covers cs firstOwner otherOwners := by
  have hfree : ∀ resource field, cs.nearest? resource field = none := by
    intro resource field
    rw [Constraints.nearest?, Constraints.get?, Constraints.get?, hcs]
    rfl
  have hany : ∀ resource field text pairs, Segment.Cut cs [.placeholder resource field] text pairs →
      ∃ pairs', Segment.Cut cs firstOwner text pairs' := by
    intro resource field text pairs hcut
    rcases hcut with _ | ⟨hone, hnil⟩
    cases hnil
    cases hone with
    | placeholder hfits =>
      rw [Constraints.fits_rest_iff (hfree _ _)] at hfits
      exact ⟨_, .cons (.placeholder ((Constraints.fits_rest_iff (hfree _ _) _).2 hfits)) .nil⟩
  intro b hb text pairs hcut
  simp only [otherOwners, List.mem_cons, List.not_mem_nil, or_false] at hb
  rcases hb with rfl | rfl
  · exact hany _ _ text pairs hcut
  · exact hany _ _ text pairs hcut

/-- Below an owner, nothing is captured under the later alternatives. -/
theorem IsOwned.not_mem_keys {s : Scope} {a : Action} (h : IsOwned s a) {r : Route}
    (hroute : Declaration.route s a = .ok r) {path : String} {c : Captures}
    (hc : r.captures path = some c) :
    "user.login" ∉ c.keys ∧ "organization.login" ∉ c.keys := by
  obtain ⟨ts, hts, _⟩ := Declaration.exists_templates_of_route hroute
  obtain ⟨us, hus, hsegments⟩ := Declaration.segments_of_head parse_ownerTemplate h.head hts
  obtain ⟨hlegible, hrender⟩ := Declaration.render_of_parseTemplates hts
  have hbuilt : s.constraints.BuiltIn := by
    intro e he
    rw [h.free] at he
    cases he
  have hcompiled := Route.compiledFrom_of_route hroute
  rw [← hrender, hsegments] at hcompiled
  rw [hsegments] at hlegible
  have hsublist : c.keys.Sublist (Segment.keys (firstOwner ++ us.flatMap (·.segments))) :=
    Route.keys_sublist_of_covers hbuilt hlegible ⟨trivial, trivial⟩ (covers_owner h.free) hcompiled
      hc
  have hothers := h.others
  rw [otherKeys, hus] at hothers
  have hkeys : ∀ k ∈ c.keys, k ≠ "user.login" ∧ k ≠ "organization.login" := by
    intro k hk
    have hmem := hsublist.subset hk
    rw [Segment.keys_append] at hmem
    rcases List.mem_append.1 hmem with hfirst | hrest
    · rw [List.mem_singleton.1 hfirst]
      decide
    · exact hothers k hrest
  exact ⟨fun hmem => (hkeys _ hmem).1 rfl, fun hmem => (hkeys _ hmem).2 rfl⟩

/-- No path is captured as the login of a user or of an organization. -/
theorem not_mem_keys_of_captures {t : RouteTable}
    (ht : (RouteTable.compile resources).value = .ok t) {r : Route} (hr : r ∈ t.routes)
    {path : String} {c : Captures} (hc : r.captures path = some c) :
    "user.login" ∉ c.keys ∧ "organization.login" ∉ c.keys := by
  obtain ⟨p, hp, hroute⟩ := exists_of_forall₂ (RouteTable.forall₂_of_compile ht) hr
  rcases isOwned_or_of_mem p hp with howned | hnone
  · exact howned.not_mem_keys hroute hc
  · obtain ⟨ts, hts, hkeys⟩ := Declaration.keys_of_route hroute
    have hsegments : Declaration.segments? p.1 p.2 = some (ts.flatMap (·.segments)) := by
      rw [Declaration.segments?, hts]
    obtain ⟨huser, horganization⟩ := hnone _ hsegments
    rw [← hkeys] at huser horganization
    exact ⟨fun hmem => huser (Route.mem_keys_of_captures hc hmem),
      fun hmem => horganization (Route.mem_keys_of_captures hc hmem)⟩

/-! ## The table -/

/-- At most one route has a method and accepts a path, so that the order of the routes does not
matter. A path below a repository names it by one field, and no path is captured as the login of a
user or of an organization. -/
structure Unambiguous (t : RouteTable) : Prop where
  unique : ∀ method path,
    (t.routes.filter fun r => decide (r.method = method) && r.accepts path).length ≤ 1
  reorder : ∀ rs : List Route, rs.Perm t.routes → ∀ method path,
    (RouteTable.mk rs).find method path = t.find method path
  repository : ∀ r ∈ t.routes, "/repo/".toList <+: r.template.toList → ∀ path c,
    r.captures path = some c → ∃ taken other segment rest, Names path c taken other segment rest
  owner : ∀ r ∈ t.routes, ∀ path c, r.captures path = some c →
    "user.login" ∉ c.keys ∧ "organization.login" ∉ c.keys

/-- The table is compiled, and it is unambiguous. -/
theorem exists_unambiguous :
    ∃ t, (RouteTable.compile resources).value = .ok t ∧ Unambiguous t := by
  have hok : (RouteTable.compile resources).value.isOk = true := by decide +kernel
  obtain ⟨t, ht⟩ := exists_of_isOk hok
  have hexclusive := exclusive_of_compile ht
  exact ⟨t, ht, {
    unique := fun method path => hexclusive.length_filter_le_one method path
    reorder := fun rs hrs method path => hexclusive.find_perm hrs method path
    repository := fun r hr hbelow path c hc => names_of_captures ht hr hbelow hc
    owner := fun r hr path c hc => not_mem_keys_of_captures ht hr hc }⟩

end RequestBinding.V3
