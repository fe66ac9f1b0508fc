import RequestBinding.Proofs.Jobs.Registry
import RequestBinding.Proofs.V3.Repository

/-!
# Settings that start

The check of settings and the registration of their kinds of jobs are made at different times. What
passes the check can be registered: any routes get a binder, whose registry has exactly the kinds of
the settings, and the third version of the API gets one if a kind of job that creates builds is
among them.

## Main definitions

* `JobKinds.Registered` - a registry with exactly the kinds of the settings
* `Settings.Starts` - how the check of settings and the binders that they describe go together

## Main statements

* `Settings.jobsFault?_eq_none_iff` - which kinds pass the check
* `Binder.exists_ofSettings_iff` - which settings give a binder
* `V3.exists_binder_iff` - which settings give a binder of the API
* `Settings.starts` - settings that pass the check start
-/

namespace RequestBinding

variable {s : Settings} {routes : RouteTable}

/-! ## The check -/

namespace Settings

theorem jobsFault?_eq_none_iff {ks : JobKinds} :
    jobsFault? ks = none ↔ ∀ p ∈ ks.entries, p.2.Named := by
  rw [jobsFault?, List.findSome?_eq_none_iff]
  refine forall₂_congr fun ⟨identifier, k⟩ _ => ?_
  rw [JobKind.Named]
  cases hqueue : Unicode.blankText k.queue <;> cases hclass : Unicode.blankText k.class_ <;>
    simp [hqueue, hclass]

/-- The kinds of settings that pass the check are named. -/
theorem named_of_fault? (h : s.fault? = none) : ∀ p ∈ s.jobs.entries, p.2.Named := by
  rw [fault?, Option.or_eq_none_iff, Option.or_eq_none_iff] at h
  exact jobsFault?_eq_none_iff.1 h.2.2

/-- Settings of which a kind is not named do not pass the check. -/
theorem fault?_ne_none (h : ¬∀ p ∈ s.jobs.entries, p.2.Named) : s.fault? ≠ none :=
  fun hfault => h (named_of_fault? hfault)

end Settings

/-! ## Registries -/

/-- A registry has exactly the kinds of the settings. Whatever the client, a job of such a kind is
handed over with the queue and the class of the settings, and no other job is. -/
structure JobKinds.Registered (ks : JobKinds) (r : JobRegistry) : Prop where
  kinds : ∀ identifier, r.get? identifier = ks.get? identifier
  size : r.size = ks.entries.length
  outbox : ∀ identifier args stamp o,
    r.perform identifier args stamp o = r.performBy Outbox.client identifier args stamp o
  configured : ∀ {σ : Type} (client : JobClient σ) identifier k, ks.get? identifier = some k →
    ∀ args stamp state, (r.performBy client identifier args stamp state).value =
      ((client ⟨stamp.id, k.queue, k.class_, args, stamp.time⟩ state).1.map fun _ => stamp.id,
        (client ⟨stamp.id, k.queue, k.class_, args, stamp.time⟩ state).2)
  unknown : ∀ {σ : Type} (client : JobClient σ) identifier, ks.get? identifier = none →
    ∀ args stamp state, (r.performBy client identifier args stamp state).value =
      (.error (.unknown identifier), state)

theorem JobKinds.registered {ks : JobKinds} {r : JobRegistry}
    (h : JobRegistry.empty.registerAll ks.entries = .ok r) : ks.Registered r := by
  have hentries : r.kinds = ks.entries := JobRegistry.kinds_of_registerAll_empty ks.sorted h
  have hkinds : ∀ identifier, r.get? identifier = ks.get? identifier := fun identifier => by
    rw [JobRegistry.get?, hentries, JobKinds.get?]
  exact {
    kinds := hkinds
    size := by rw [JobRegistry.size, hentries]
    outbox := fun _ _ _ _ => rfl
    configured := fun client identifier k hk args stamp state =>
      JobRegistry.value_performBy args stamp client ((hkinds identifier).trans hk) state
    unknown := fun client identifier hnone args stamp state => by
      rw [JobRegistry.performBy, hkinds, hnone]
      rfl }

/-! ## Binders -/

namespace Binder

theorem ofSettings_of_registerAll {jobs : JobRegistry}
    (h : JobRegistry.empty.registerAll s.jobs.entries = .ok jobs) (routes : RouteTable) :
    ofSettings s routes = .ok ⟨routes, s.api.mountPath, [], some jobs⟩ := by
  rw [ofSettings, h]
  rfl

/-- Settings give a binder if and only if all of their kinds are named. -/
theorem exists_ofSettings_iff :
    (∃ b, ofSettings s routes = .ok b) ↔ ∀ p ∈ s.jobs.entries, p.2.Named := by
  rw [← JobRegistry.exists_registerAll_iff (r := .empty), ofSettings]
  cases JobRegistry.empty.registerAll s.jobs.entries <;> simp

end Binder

namespace V3

/-- The error of settings that do not say where jobs go that create builds. -/
def noBuildRequest : RequestError :=
  .internal ("no '" ++ JobKinds.buildRequest ++ "' job configured")

theorem exists_routes : ∃ routes, (RouteTable.compile resources).value = .ok routes :=
  exists_of_isOk (by decide +kernel)

/-- With the table of the resources, a binder of the API is the one that the settings describe. -/
theorem value_binder (h : (RouteTable.compile resources).value = .ok routes) (s : Settings) :
    (binder s).value =
      if s.jobs.contains JobKinds.buildRequest then
        (Binder.ofSettings s routes).map fun b =>
          resultTypes.foldl (fun b t => b.withResultType t.1 t.2) b
      else .error noBuildRequest := by
  rw [binder]
  -- which table it is does not matter
  generalize RouteTable.compile resources = t at h ⊢
  obtain ⟨table, signals⟩ := t
  obtain rfl : table = .ok routes := h
  split <;> rfl

/-- Settings give a binder of the API if and only if they say where jobs go that create builds and
all of their kinds are named. -/
theorem exists_binder_iff : (∃ b, (binder s).value = .ok b) ↔
    s.jobs.contains JobKinds.buildRequest = true ∧ ∀ p ∈ s.jobs.entries, p.2.Named := by
  obtain ⟨routes, hroutes⟩ := exists_routes
  have hnamed : (∃ b, Binder.ofSettings s routes = .ok b) ↔ ∀ p ∈ s.jobs.entries, p.2.Named :=
    Binder.exists_ofSettings_iff
  rw [value_binder hroutes, ← hnamed]
  by_cases hcontains : s.jobs.contains JobKinds.buildRequest = true
  · rw [if_pos hcontains]
    cases Binder.ofSettings s routes <;> simp [hcontains, Except.map]
  · simp [hcontains]

/-- Settings that do not give a binder of the API either do not say where jobs go that create
builds, or have a kind that is not named. -/
theorem error_of_binder {e : RequestError} (h : (binder s).value = .error e) :
    s.jobs.contains JobKinds.buildRequest = false ∧ e = noBuildRequest ∨
      ¬∀ p ∈ s.jobs.entries, p.2.Named := by
  by_cases hcontains : s.jobs.contains JobKinds.buildRequest = true
  · refine .inr fun hnamed => ?_
    obtain ⟨b, hb⟩ := exists_binder_iff.2 ⟨hcontains, hnamed⟩
    rw [hb] at h
    cases h
  · obtain ⟨routes, hroutes⟩ := exists_routes
    rw [value_binder hroutes, if_neg hcontains] at h
    cases h
    exact .inl ⟨eq_false_of_ne_true hcontains, rfl⟩

end V3

/-! ## Starting -/

namespace Settings

/-- How the check of settings and the binders that they describe go together. -/
structure Starts (s : Settings) : Prop where
  /-- Settings that pass the check give a binder with any routes. -/
  binder : s.fault? = none → ∀ routes, ∃ jobs, s.jobs.Registered jobs ∧
    Binder.ofSettings s routes = .ok ⟨routes, s.api.mountPath, [], some jobs⟩
  /-- They give a binder of the API if and only if a kind of job that creates builds is there. -/
  api : s.fault? = none →
    ((∃ b, (V3.binder s).value = .ok b) ↔ s.jobs.contains JobKinds.buildRequest = true)
  /-- A binder of the API knows the same kinds. -/
  registered : ∀ b, (V3.binder s).value = .ok b → b.mountPath = s.api.mountPath ∧
    ∃ jobs, b.jobs = some jobs ∧ s.jobs.Registered jobs
  /-- Settings that give no binder do not pass the check. -/
  faulty : ∀ routes e, Binder.ofSettings s routes = .error e → s.fault? ≠ none
  /-- Settings that give no binder of the API for another reason than that no kind of job creates
  builds do not pass the check. -/
  faultyApi : ∀ e, (V3.binder s).value = .error e →
    s.jobs.contains JobKinds.buildRequest = true ∨ e ≠ V3.noBuildRequest → s.fault? ≠ none
  /-- It is the names of the kinds that decide on binders, and the check asks for them. -/
  named : ∀ routes, ((∃ b, Binder.ofSettings s routes = .ok b) ↔ ∀ p ∈ s.jobs.entries, p.2.Named)

/-- Settings that pass the check start. -/
theorem starts (s : Settings) : s.Starts where
  binder h routes := by
    obtain ⟨jobs, hjobs⟩ := JobRegistry.exists_registerAll_iff.2 (named_of_fault? h)
    exact ⟨jobs, JobKinds.registered hjobs, Binder.ofSettings_of_registerAll hjobs routes⟩
  api h := by
    rw [V3.exists_binder_iff]
    exact and_iff_left (named_of_fault? h)
  registered b hb := by
    obtain ⟨routes, jobs, _, hjobs, _, rfl⟩ := V3.exists_of_binder hb
    exact ⟨rfl, jobs, rfl, JobKinds.registered hjobs⟩
  faulty routes e he := by
    refine fault?_ne_none fun hnamed => ?_
    obtain ⟨b, hb⟩ := Binder.exists_ofSettings_iff.2 hnamed
    rw [hb] at he
    cases he
  faultyApi e he hother := by
    rcases V3.error_of_binder he with ⟨hcontains, hmissing⟩ | hnamed
    · rcases hother with hpresent | hne
      · rw [hcontains] at hpresent
        cases hpresent
      · exact absurd hmissing hne
    · exact fault?_ne_none hnamed
  named routes := Binder.exists_ofSettings_iff

/-- The settings if nothing is said, with a second kind of job. -/
def twoKinds : Settings := { default with jobs := JobKinds.default.insert "cron" ⟨"ticks", "Cron"⟩ }

theorem starts_twoKinds : twoKinds.fault? = none ∧
    (∃ jobs, twoKinds.jobs.Registered jobs ∧ jobs.get? "cron" = some ⟨"ticks", "Cron"⟩ ∧
      Binder.ofSettings twoKinds ⟨[]⟩ = .ok ⟨⟨[]⟩, "/v3", [], some jobs⟩) ∧
    ∃ b, (V3.binder twoKinds).value = .ok b := by
  have hvalid : twoKinds.fault? = none := by decide +kernel
  obtain ⟨jobs, hjobs, hbinder⟩ := (starts twoKinds).binder hvalid ⟨[]⟩
  refine ⟨hvalid, ⟨jobs, hjobs, (hjobs.kinds "cron").trans (by decide +kernel), hbinder⟩, ?_⟩
  exact ((starts twoKinds).api hvalid).2 (by decide +kernel)

end Settings

end RequestBinding
