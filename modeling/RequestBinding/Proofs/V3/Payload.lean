import RequestBinding.Proofs.Jobs.Registry
import RequestBinding.Proofs.Resolver.Runs
import RequestBinding.Proofs.V3.Repository

/-!
# The job of a build request

Of the parameters of a request to build, only eight entries of the bag matter for its job: those
where the message, the branch and the configuration are looked for, and the type hint. Neither the
repository in the path nor any other parameter gets into the job.

## Main definitions

* `BuildRequest.described`, `BuildRequest.declaredKeys` - the fields and the entries that matter
* `BuildRequest.Silent` - calls that set none of the fields
* `BuildRequest.filled`, `BuildRequest.jobOf` - the contents of a job, and the job
* `V3.Builds` - what becomes of a request to build

## Main statements

* `BuildRequest.lookup_eq_of_agree` - bags with the same entries that matter
* `BuildRequest.value_payload`, `BuildRequest.value_create_of_accepts`,
  `BuildRequest.value_create_of_refuses` - the contents of a job, and what becomes of it
* `V3.builds_of_binds` - every request to build leads to the job that its fields describe
* `V3.builds_of_agree` - requests that agree on the entries that matter lead to the same job
-/

namespace RequestBinding

namespace BuildRequest

open Resolver

/-! ## The fields -/

/-- The fields that describe a build. -/
def described : List Field := [message, branch, config]

/-- The keys of the entries where these fields are looked for, and the key of the type hint. -/
def declaredKeys : List String :=
  ["request", "request.branch", "request.message", "request.config", "branch", "message", "config",
    "@type"]

theorem typeKey_mem_declaredKeys : Params.typeKey ∈ declaredKeys := by decide

theorem mem_declaredKeys : ∀ f ∈ described,
    f.qualified ∈ declaredKeys ∧ f.owner ∈ declaredKeys ∧ f.name ∈ declaredKeys := by
  decide

variable {p q : Params} {mainType : String} {f : Field} {r : Resolver} {calls : List Call}

theorem lookup_eq_of_agree (h : ∀ k ∈ declaredKeys, p.get? k = q.get? k) (hf : f ∈ described) :
    lookup p mainType f = lookup q mainType f := by
  obtain ⟨hqualified, howner, hname⟩ := mem_declaredKeys f hf
  exact lookup_congr (h _ hqualified) (h _ howner) (h _ hname) (h _ typeKey_mem_declaredKeys)

/-- Calls that set none of the fields. -/
def Silent (calls : List Call) : Prop := ∀ f ∈ described, ∀ w, .set f w ∉ calls

/-- The contents of a job for the values of the message, the branch and the configuration: the
repository and the user as they are, and what stands for a value that is missing. -/
def filled (m b c : Option Json) (repository user : Json) : Json :=
  .obj [("branch", b.getD (.str "master")), ("config", c.getD (.obj [])),
    ("message", m.getD .null), ("repository", repository), ("user", user)]

/-- The job that a build request of a kind becomes: its only argument carries the text of the
contents. -/
def jobOf (k : JobKind) (m b c : Option Json) (repository user : Json) (stamp : Stamp) : Job where
  id := stamp.id
  queue := k.queue
  class_ := k.class_
  args := [.obj [("credentials", .obj []), ("payload", .str (filled m b c repository user).render),
    ("type", .str "api")]]
  enqueuedAt := stamp.time

/-! ## The job -/

variable (repository user : Json)

/-- The contents of a job are filled in from the bag, whatever was asked before. -/
theorem value_payload (h : Remembers p mainType calls r) (hcalls : Silent calls) :
    (payload r repository user).value.1 = filled (lookup p mainType message)
      (lookup p mainType branch) (lookup p mainType config) repository user := by
  have hmessage := h.value_resolve (hcalls message (by decide))
  have hasked := (h.resolve message).2
  have hbranch := hasked.value_resolve (hcalls branch (by decide))
  have hconfig := (hasked.resolve branch).2.value_resolve (hcalls config (by decide))
  rw [← hmessage, ← hbranch, ← hconfig]
  rfl

theorem jobs_payload (r : Resolver) : (payload r repository user).value.2.jobs = r.jobs := by
  have hlast : (payload r repository user).value.2 = ((((r.resolve message).value.2.resolve
      branch).value.2).resolve config).value.2 := rfl
  rw [hlast, jobs_resolve, jobs_resolve, jobs_resolve]

variable {jobs : JobRegistry} {k : JobKind} {o : Outbox} (stamp : Stamp)

/-- The job of a build joins the jobs that were handed over. -/
theorem value_create_of_accepts (hjobs : r.jobs = some jobs)
    (hk : jobs.get? JobKinds.buildRequest = some k) (ho : o.refusal = none) :
    (create r repository user stamp o).value =
      (.ok stamp.id, (payload r repository user).value.2, { o with jobs := o.jobs ++
        [.ofKind k [argument (payload r repository user).value.1] stamp] }) := by
  rw [← jobs_payload repository user] at hjobs
  simp only [create, Resolver.perform, Traced.value_bind, Traced.map, hjobs,
    JobRegistry.value_perform_of_accepts _ stamp hk ho]

/-- An outbox that refuses further jobs stays as it is. -/
theorem value_create_of_refuses {reason : String} (hjobs : r.jobs = some jobs)
    (hk : jobs.get? JobKinds.buildRequest = some k) (ho : o.refusal = some reason) :
    (create r repository user stamp o).value =
      (.error (.job (.pushFailed reason)), (payload r repository user).value.2, o) := by
  rw [← jobs_payload repository user] at hjobs
  simp only [create, Resolver.perform, Traced.value_bind, Traced.map, hjobs,
    JobRegistry.value_perform_of_refuses _ stamp hk ho]

end BuildRequest

namespace V3

open BuildRequest Resolver

/-! ## Requests to build -/

/-- What becomes of a request to build: its fields have some values, and whatever is asked of its
resolver before, its job is of the configured kind and says these values, the repository and the
user. The job is handed over unless the outbox refuses it. -/
structure Builds (r : Resolver) (k : JobKind) (m b c : Option Json) : Prop where
  message : Gives r.params "request" ⟨"request", "message"⟩ m
  branch : Gives r.params "request" ⟨"request", "branch"⟩ b
  config : Gives r.params "request" ⟨"request", "config"⟩ c
  payload : ∀ calls, Silent calls → ∀ repository user,
    (payload (r.run calls) repository user).value.1 = filled m b c repository user
  accepted : ∀ calls, Silent calls → ∀ repository user stamp o, o.refusal = none →
    ∃ r', (create (r.run calls) repository user stamp o).value =
      (.ok stamp.id, r', { o with jobs := o.jobs ++ [jobOf k m b c repository user stamp] })
  refused : ∀ calls, Silent calls → ∀ repository user stamp o reason, o.refusal = some reason →
    ∃ r', (create (r.run calls) repository user stamp o).value =
      (.error (.job (.pushFailed reason)), r', o)

/-- The results of the handler that creates requests are requests. -/
theorem typeOf_of_binder {s : Settings} {b : Binder} (hb : (binder s).value = .ok b) {r : Route}
    (hr : r.handler = "requests#create") : b.typeOf r = "request" := by
  obtain ⟨routes, jobs, _, _, _, rfl⟩ := exists_of_binder hb
  simp only [Binder.typeOf, resultTypes, hr]
  rfl

/-- The registry of a binder has the configured kind of the jobs that create builds. -/
theorem exists_kind_of_binder {s : Settings} {b : Binder} (hb : (binder s).value = .ok b) :
    ∃ jobs k, b.jobs = some jobs ∧ s.jobs.get? JobKinds.buildRequest = some k ∧
      jobs.get? JobKinds.buildRequest = some k := by
  obtain ⟨routes, jobs, _, hjobs, hcontains, rfl⟩ := exists_of_binder hb
  obtain ⟨k, hk⟩ := Option.isSome_iff_exists.1 hcontains
  refine ⟨jobs, k, rfl, hk, ?_⟩
  rw [JobRegistry.get?, JobRegistry.kinds_of_registerAll_empty s.jobs.sorted hjobs]
  exact hk

variable {s : Settings} {b : Binder} {method method' : Method} {uri uri' : Uri} {body body' : Body}
  {x x' : Binding}

theorem builds_of_binds (hb : (binder s).value = .ok b) (hx : b.Binds method uri body x)
    (hr : x.route.handler = "requests#create") {k : JobKind}
    (hk : s.jobs.get? JobKinds.buildRequest = some k) :
    Builds x.resolver k (lookup x.resolver.params "request" message)
      (lookup x.resolver.params "request" branch) (lookup x.resolver.params "request" config) := by
  obtain ⟨jobs, k', hjobs, hk', hregistered⟩ := exists_kind_of_binder hb
  obtain rfl : k' = k := Option.some.inj (hk'.symm.trans hk)
  obtain ⟨path, c, p, _, _, _, hresolver⟩ := Binder.exists_of_bindBody hx.value_eq
  rw [typeOf_of_binder hb hr, hjobs] at hresolver
  rw [hresolver]
  have hremembers := fun calls => remembers_run p "request" (some jobs) calls
  have hrun := fun calls => jobs_run (.new p "request" (some jobs)) calls
  have hpayload : ∀ calls, Silent calls → ∀ repository user,
      (BuildRequest.payload ((Resolver.new p "request" (some jobs)).run calls) repository
        user).value.1 = filled (lookup p "request" message) (lookup p "request" branch)
          (lookup p "request" config) repository user :=
    fun calls hcalls repository user => value_payload repository user (hremembers calls) hcalls
  exact {
    message := lookup_eq_iff.1 rfl
    branch := lookup_eq_iff.1 rfl
    config := lookup_eq_iff.1 rfl
    payload := hpayload
    accepted := by
      intro calls hcalls repository user stamp o ho
      have hcreate := value_create_of_accepts repository user stamp (hrun calls) hregistered ho
      rw [hpayload calls hcalls] at hcreate
      exact ⟨_, hcreate⟩
    refused := fun calls _ repository user stamp o reason ho =>
      ⟨_, value_create_of_refuses repository user stamp (hrun calls) hregistered ho⟩ }

/-- Requests to build that agree on the entries that matter lead to the same job, whatever else
differs between them. -/
theorem builds_of_agree (hb : (binder s).value = .ok b) (hx : b.Binds method uri body x)
    (hx' : b.Binds method' uri' body' x') (hr : x.route.handler = "requests#create")
    (hr' : x'.route.handler = "requests#create")
    (hagree : ∀ k ∈ declaredKeys, x.resolver.params.get? k = x'.resolver.params.get? k) :
    ∃ k m br c, s.jobs.get? JobKinds.buildRequest = some k ∧ Builds x.resolver k m br c ∧
      Builds x'.resolver k m br c := by
  obtain ⟨_, k, _, hk, _⟩ := exists_kind_of_binder hb
  have hbuilds := builds_of_binds hb hx hr hk
  rw [lookup_eq_of_agree hagree (by decide : message ∈ described),
    lookup_eq_of_agree hagree (by decide : branch ∈ described),
    lookup_eq_of_agree hagree (by decide : config ∈ described)] at hbuilds
  exact ⟨k, _, _, _, hk, hbuilds, builds_of_binds hb hx' hr' hk⟩

/-- A branch in the query and a message in the body, next to a repository. -/
def branchInQuery : Request :=
  ⟨.post, ⟨"/v3/repo/1/requests", some "branch=main"⟩, [],
    Utf8.encode "\x7b\"message\":\"go\",\"repository\":\"8\"\x7d"⟩

/-- The same message in the query and the same branch in the body, next to a user, for another
repository. -/
def messageInQuery : Request :=
  ⟨.post, ⟨"/v3/repo/2/requests", some "message=go"⟩,
    [("Content-Type", "application/x-www-form-urlencoded")], Utf8.encode "user.id=7&branch=main"⟩

/-- Texts are told by what they are. -/
theorem eq_of_map_str? {v w : Option Json} (h : v.map Json.str? = w.map Json.str?)
    (hv : v.map Json.str? ≠ some none) : v = w := by
  rcases v with _ | v <;> rcases w with _ | w
  · rfl
  · cases h
  · cases h
  · cases v <;> cases w <;> simp_all [Json.str?]

theorem builds_of_agree_main : ∃ b x x' k m br c, (binder .default).value = .ok b ∧
    (b.bindRequest branchInQuery).value = .ok x ∧ (b.bindRequest messageInQuery).value = .ok x' ∧
    x.route.handler = "requests#create" ∧ x'.route.handler = "requests#create" ∧
    (∀ k ∈ declaredKeys, x.resolver.params.get? k = x'.resolver.params.get? k) ∧
    x.resolver.params.get? "repository.id" ≠ x'.resolver.params.get? "repository.id" ∧
    Settings.default.jobs.get? JobKinds.buildRequest = some k ∧ Builds x.resolver k m br c ∧
    Builds x'.resolver k m br c := by
  have hrun : (binder .default).value.toOption.any (fun b =>
      (b.bindRequest branchInQuery).value.toOption.any fun x =>
        (b.bindRequest messageInQuery).value.toOption.any fun x' =>
          let text (x : Binding) (k : String) := (x.resolver.params.get? k).map Json.str?
          decide (x.route.handler = "requests#create" ∧ x'.route.handler = "requests#create" ∧
            (∀ k ∈ declaredKeys, text x k = text x' k ∧ text x k ≠ some none) ∧
            text x "repository.id" ≠ text x' "repository.id")) = true := by
    decide +kernel
  obtain ⟨b, hb, hrun⟩ := exists_of_any_toOption hrun
  obtain ⟨x, hx, hrun⟩ := exists_of_any_toOption hrun
  obtain ⟨x', hx', hrun⟩ := exists_of_any_toOption hrun
  obtain ⟨hr, hr', htexts, hne⟩ := of_decide_eq_true hrun
  have hagree : ∀ k ∈ declaredKeys, x.resolver.params.get? k = x'.resolver.params.get? k :=
    fun k hk => eq_of_map_str? (htexts k hk).1 (htexts k hk).2
  obtain ⟨k, m, br, c, hk, hbuilds, hbuilds'⟩ :=
    builds_of_agree hb (.request hx) (.request hx') hr hr' hagree
  exact ⟨b, x, x', k, m, br, c, hb, hx, hx', hr, hr', hagree,
    fun heq => hne (congrArg (Option.map Json.str?) heq), hk, hbuilds, hbuilds'⟩

end V3

end RequestBinding
