import RequestBinding.Proofs.Binder.Precedence

/-!
# Mount paths

A binder answers a request for a path below its mount path as it would answer one for the rest of
the path without a mount path. Outside of the mount path there is nothing.

## Main definitions

* `Binder.Below` - a path and its rest below a mount path
* `Binder.SameAnswers` - two binders answer requests for two targets alike
* `Binder.NothingAt` - a binder has no answer for a target

## Main statements

* `Binder.strip?_eq_some_iff` - what is left of a path below the mount path
* `Binder.sameAnswers_of_below` - the mount path does not matter otherwise
* `Binder.mounting_transparent` - all of it for a mount path that is not empty
-/

namespace RequestBinding.Binder

/-! ## Paths below a mount path -/

/-- A path below a mount path, with the rest that routes are looked for with. -/
inductive Below (mount : String) : String → String → Prop
  | everywhere {path : String} (h : mount = "") : Below mount path path
  /-- The mount path by itself stands for the root. -/
  | itself (h : mount ≠ "") : Below mount mount "/"
  | under {rest : String} (h : mount ≠ "") (hrest : rest.toList.head? = some '/') :
      Below mount (mount ++ rest) rest

theorem stripPath?_of_empty {mount : String} (h : mount = "") (path : String) :
    stripPath? mount path = some path := by
  rw [stripPath?, h, if_pos (by rfl)]

/-- Behind a mount path nothing may stand, or a slash first. -/
theorem stripPath?_append {mount : String} (h : mount ≠ "") {more rest : String} :
    stripPath? mount (mount ++ more) = some rest ↔
      more = "" ∧ rest = "/" ∨ more.toList.head? = some '/' ∧ rest = more := by
  have hempty : mount.isEmpty = false := by simpa using h
  have hprefix : mount.toList.isPrefixOf (mount ++ more).toList = true := by
    rw [List.isPrefixOf_iff_prefix, String.toList_append]
    exact List.prefix_append _ _
  rw [stripPath?, hempty, if_neg Bool.false_ne_true, if_pos hprefix, String.toList_append,
    List.drop_left]
  split
  · next hmore =>
    have hnil : more = "" := String.toList_eq_nil_iff.1 hmore
    simp [hnil, eq_comm]
  · next cs hmore =>
    have hne : more ≠ "" := by
      rintro rfl
      cases hmore
    have hmore' : String.ofList ('/' :: cs) = more := by rw [← hmore, String.ofList_toList]
    simp [hmore, hmore', hne, eq_comm]
  · next hnil hslash =>
    have hne : more ≠ "" := fun h => hnil (String.toList_eq_nil_iff.2 h)
    have hhead : more.toList.head? ≠ some '/' := by
      intro hhead
      obtain ⟨cs, hcs⟩ := List.head?_eq_some_iff.1 hhead
      exact hslash cs hcs
    simp [hhead, hne]

/-- What is left of a path is its rest below the mount path. -/
theorem stripPath?_eq_some_iff {mount path rest : String} :
    stripPath? mount path = some rest ↔ Below mount path rest := by
  constructor
  · intro h
    by_cases hempty : mount = ""
    · rw [stripPath?_of_empty hempty, Option.some.injEq] at h
      rw [h]
      exact .everywhere hempty
    · by_cases hprefix : mount.toList.isPrefixOf path.toList = true
      · obtain ⟨more, hmore⟩ := List.isPrefixOf_iff_prefix.1 hprefix
        have hpath : path = mount ++ String.ofList more := by
          rw [← String.toList_inj, String.toList_append, String.toList_ofList, hmore]
        rw [hpath] at h ⊢
        rcases (stripPath?_append hempty).1 h with ⟨hnil, rfl⟩ | ⟨hslash, rfl⟩
        · rw [hnil, String.append_empty]
          exact .itself hempty
        · exact .under hempty hslash
      · have hne : mount.isEmpty = false := by simpa using hempty
        rw [stripPath?, hne, if_neg Bool.false_ne_true, if_neg hprefix] at h
        cases h
  · rintro (h | h | ⟨h, hrest⟩)
    · exact stripPath?_of_empty h path
    · have happend := (stripPath?_append h).2 (.inl ⟨rfl, rfl⟩)
      rwa [String.append_empty] at happend
    · exact (stripPath?_append h).2 (.inr ⟨hrest, rfl⟩)

theorem strip?_eq_some_iff {b : Binder} {path rest : String} :
    b.strip? path = some rest ↔ Below b.mountPath path rest := stripPath?_eq_some_iff

/-- Behind the mount path, a path with a slash first is left. -/
theorem strip?_append (b : Binder) {rest : String} (h : rest.toList.head? = some '/') :
    b.strip? (b.mountPath ++ rest) = some rest := by
  rw [strip?_eq_some_iff]
  by_cases hmount : b.mountPath = ""
  · rw [hmount, String.empty_append]
    exact .everywhere rfl
  · exact .under hmount h

theorem strip?_eq_none_iff {b : Binder} {path : String} :
    b.strip? path = none ↔ ∀ rest, ¬Below b.mountPath path rest := by
  simp only [Option.eq_none_iff_forall_ne_some, ne_eq, strip?_eq_some_iff]

/-! ## Answers -/

/-- Two binders answer requests for two targets alike: with the same methods, and with the same
bindings, errors and signals, however the body is to be read. -/
structure SameAnswers (b : Binder) (uri : Uri) (b' : Binder) (uri' : Uri) : Prop where
  allowed : b.allowed uri = b'.allowed uri'
  bind : ∀ method bytes, b.bind method uri bytes = b'.bind method uri' bytes
  bindRequest : ∀ method headers bytes,
    b.bindRequest ⟨method, uri, headers, bytes⟩ = b'.bindRequest ⟨method, uri', headers, bytes⟩

/-- A binder has no methods for a target, and answers that nothing is there. -/
structure NothingAt (b : Binder) (uri : Uri) : Prop where
  allowed : b.allowed uri = []
  bind : ∀ method bytes, (b.bind method uri bytes).value =
    .error (.notFound (RouteError.notFoundMessage method uri.path) none)
  bindRequest : ∀ method headers bytes, (b.bindRequest ⟨method, uri, headers, bytes⟩).value =
    .error (.notFound (RouteError.notFoundMessage method uri.path) none)

/-- Of a target, binding reads what is left of the path, and the query. -/
theorem bindBody_congr {b b' : Binder} {uri uri' : Uri} {path : String}
    (h : b.strip? uri.path = some path) (h' : b'.strip? uri'.path = some path)
    (hquery : uri.query = uri'.query) (hroutes : b.routes = b'.routes)
    (htypes : b.resultTypes = b'.resultTypes) (hjobs : b.jobs = b'.jobs) (method : Method)
    (body : Body) : b.bindBody method uri body = b'.bindBody method uri' body := by
  have htype : b.typeOf = b'.typeOf := by
    funext r
    rw [typeOf, typeOf, htypes]
  have hroute : b.route method uri = b'.route method uri' := by
    rw [route, route, h, h']
    simp only [hroutes]
  rw [bindBody, bindBody, hroute, hquery, htype, hjobs]

/-- Below its mount path, a binder answers as it does for the rest without a mount path. -/
theorem sameAnswers_of_below {b : Binder} {path rest : String} (h : Below b.mountPath path rest)
    (query : Option String) : b.SameAnswers ⟨path, query⟩ (b.withMountPath "") ⟨rest, query⟩ := by
  have hstrip : b.strip? path = some rest := strip?_eq_some_iff.2 h
  have hstrip' : (b.withMountPath "").strip? rest = some rest :=
    strip?_eq_some_iff.2 (.everywhere rfl)
  have hbody : ∀ method body, b.bindBody method ⟨path, query⟩ body =
      (b.withMountPath "").bindBody method ⟨rest, query⟩ body :=
    bindBody_congr hstrip hstrip' rfl rfl rfl rfl
  refine ⟨?_, fun method bytes => hbody method _, fun method headers bytes => hbody method _⟩
  rw [allowed, allowed, hstrip, hstrip']
  rfl

theorem nothingAt_of_strip? {b : Binder} {uri : Uri} (h : b.strip? uri.path = none) :
    b.NothingAt uri := by
  have hbody : ∀ method body, (b.bindBody method uri body).value =
      .error (.notFound (RouteError.notFoundMessage method uri.path) none) := by
    intro method body
    rw [bindBody, Traced.value_bind, route, h]
    rfl
  refine ⟨?_, fun method bytes => hbody method _, fun method headers bytes => hbody method _⟩
  rw [allowed, h]

/-- A mount path that is not empty is transparent: what follows it, with a slash first, is answered
as without a mount path, the mount path by itself is answered as the root, and there is nothing at
any other path. -/
theorem mounting_transparent (b : Binder) (hmount : b.mountPath ≠ "") :
    (∀ path query, path.toList.head? = some '/' →
      b.SameAnswers ⟨b.mountPath ++ path, query⟩ (b.withMountPath "") ⟨path, query⟩) ∧
    (∀ query, b.SameAnswers ⟨b.mountPath, query⟩ (b.withMountPath "") ⟨"/", query⟩) ∧
    ∀ uri : Uri, uri.path ≠ b.mountPath →
      (∀ path : String, path.toList.head? = some '/' → uri.path ≠ b.mountPath ++ path) →
      b.NothingAt uri := by
  refine ⟨fun path query hpath => ?_, fun query => ?_, fun uri hitself hunder => ?_⟩
  · exact sameAnswers_of_below (.under hmount hpath) query
  · exact sameAnswers_of_below (.itself hmount) query
  · refine nothingAt_of_strip? (strip?_eq_none_iff.2 fun rest hbelow => ?_)
    generalize hpath : uri.path = path at *
    cases hbelow with
    | everywhere h => exact hmount h
    | itself _ => exact hitself rfl
    | under _ hrest => exact hunder rest hrest rfl

/-- A mount path that occurs twice in a path, stands alone, and begins a longer segment. -/
theorem mounting_transparent_requests :
    let b := ofRequests.withMountPath "/repo"
    b.mountPath ≠ "" ∧
      b.SameAnswers ⟨"/repo/repo/7/requests", none⟩ (b.withMountPath "")
        ⟨"/repo/7/requests", none⟩ ∧
      b.SameAnswers ⟨"/repo", none⟩ (b.withMountPath "") ⟨"/", none⟩ ∧
      b.NothingAt ⟨"/repository/7/requests", none⟩ := by
  intro b
  have hmount : b.mountPath ≠ "" := by decide
  obtain ⟨hunder, hitself, houtside⟩ := mounting_transparent b hmount
  refine ⟨hmount, hunder "/repo/7/requests" none (by decide), hitself none, ?_⟩
  refine houtside _ (by decide) fun path hpath heq => ?_
  -- the character behind the mount path is no slash
  have hlist := congrArg String.toList heq
  rw [String.toList_append] at hlist
  obtain ⟨more, hmore⟩ := List.head?_eq_some_iff.1 hpath
  rw [hmore] at hlist
  exact absurd (congrArg (fun cs => cs[5]?) hlist) (by simp [b, withMountPath])

end RequestBinding.Binder
