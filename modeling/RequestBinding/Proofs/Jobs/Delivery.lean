import RequestBinding.Proofs.Binder.Counters
import RequestBinding.Proofs.Jobs.Registry

/-!
# Delivered jobs

Jobs are handed over one by one, by way of a registry or directly, until the outbox is told to
refuse them; what it holds may be taken out at any time. No job is lost or handed over twice, and
the counters count the jobs that came by way of the registry.

## Main definitions

* `JobCall`, `JobAnswer`, `JobRegistry.run` - calls of a registry and its outbox, and their answers
* `latestReason` - the reason that was given last for refusing jobs
* `JobRegistry.handed`, `JobAnswer.out` - the jobs that went in and came out
* `JobRegistry.Does` - what a call does
* `JobRegistry.Delivers` - what the next call does after any calls, and where the jobs are

## Main statements

* `JobRegistry.does_step` - what a call does
* `JobRegistry.refusal_run` - an outbox refuses jobs for the reason that was given last
* `JobRegistry.out_append_run` - the jobs that came out and those that are left went in
* `JobRegistry.counters_run` - the counters step for the jobs that came by way of the registry
* `JobRegistry.delivers` - the delivery of jobs after any calls
-/

namespace RequestBinding

/-! ## Calls -/

/-- A call of a registry or of its outbox. -/
inductive JobCall where
  | perform (identifier : String) (args : List Json) (stamp : Stamp)
  | push (j : Job)
  | refuse (reason : String)
  | take

/-- The answer to a call. -/
inductive JobAnswer where
  | performed (result : Except JobError JobId)
  | pushed (result : Except JobError Unit)
  | refused
  | taken (jobs : List Job)

/-- The jobs that an answer hands out. -/
def JobAnswer.out : JobAnswer → List Job
  | .taken jobs => jobs
  | _ => []

/-- The reason that a call gives for refusing jobs. -/
def JobCall.reason? : JobCall → Option String
  | .refuse reason => some reason
  | _ => none

/-- The reason that was given last for refusing jobs. -/
def latestReason (calls : List JobCall) : Option String :=
  calls.reverse.findSome? JobCall.reason?

theorem latestReason_cons (call : JobCall) (calls : List JobCall) :
    latestReason (call :: calls) = (latestReason calls).or call.reason? := by
  rw [latestReason, List.reverse_cons, List.findSome?_append, List.findSome?_singleton,
    ← latestReason]

theorem latestReason_eq_none_iff {calls : List JobCall} :
    latestReason calls = none ↔ ∀ reason, .refuse reason ∉ calls := by
  rw [latestReason, List.findSome?_eq_none_iff]
  constructor
  · intro h reason hmem
    cases h _ (List.mem_reverse.2 hmem)
  · intro h call hcall
    cases call with
    | refuse reason => exact absurd (List.mem_reverse.1 hcall) (h reason)
    | _ => rfl

namespace JobRegistry

variable {r : JobRegistry} {o : Outbox}

/-- A call, and the outbox after it. -/
def step (r : JobRegistry) (o : Outbox) : JobCall → Traced (JobAnswer × Outbox)
  | .perform identifier args stamp =>
    (r.perform identifier args stamp o).map fun (result, o) => (.performed result, o)
  | .push j =>
    match o.push j with
    | .ok o => .pure (.pushed (.ok ()), o)
    | .error e => .pure (.pushed (.error e), o)
  | .refuse reason => .pure (.refused, o.refuse reason)
  | .take => .pure (.taken o.take.1, o.take.2)

/-- Several calls in order, and the outbox after them. -/
def run (r : JobRegistry) (o : Outbox) : List JobCall → Traced (List JobAnswer × Outbox)
  | [] => .pure ([], o)
  | call :: calls => (r.step o call).bind fun (answer, o) =>
      (r.run o calls).map fun (answers, o) => (answer :: answers, o)

/-- The job that a call hands over, if its answer says so. -/
def handed (r : JobRegistry) : JobCall × JobAnswer → Option Job
  | (.perform identifier args stamp, .performed (.ok id)) =>
    (r.get? identifier).map fun k => ⟨id, k.queue, k.class_, args, stamp.time⟩
  | (.push j, .pushed (.ok _)) => some j
  | _ => none

/-- The identifier of the kind of which a call hands a job over by way of the registry. -/
def performed? : JobCall × JobAnswer → Option String
  | (.perform identifier _ _, .performed (.ok _)) => some identifier
  | _ => none

/-! ## One call -/

/-- What a call does: its answer, the outbox after it and the counters that it steps. -/
inductive Does (r : JobRegistry) (o : Outbox) :
    JobCall → JobAnswer → Outbox → List Counter → Prop
  | unknown {identifier : String} {args : List Json} {stamp : Stamp}
      (hk : r.get? identifier = none) :
      Does r o (.perform identifier args stamp) (.performed (.error (.unknown identifier))) o []
  | unperformed {identifier reason : String} {args : List Json} {stamp : Stamp} {k : JobKind}
      (hk : r.get? identifier = some k) (ho : o.refusal = some reason) :
      Does r o (.perform identifier args stamp) (.performed (.error (.pushFailed reason))) o []
  | performed {identifier : String} {args : List Json} {stamp : Stamp} {k : JobKind}
      (hk : r.get? identifier = some k) (ho : o.refusal = none) :
      Does r o (.perform identifier args stamp) (.performed (.ok stamp.id))
        { o with jobs := o.jobs ++ [.ofKind k args stamp] } [.jobsEnqueued identifier]
  | unpushed {j : Job} {reason : String} (ho : o.refusal = some reason) :
      Does r o (.push j) (.pushed (.error (.pushFailed reason))) o []
  | pushed {j : Job} (ho : o.refusal = none) :
      Does r o (.push j) (.pushed (.ok ())) { o with jobs := o.jobs ++ [j] } []
  | refuse {reason : String} :
      Does r o (.refuse reason) .refused { o with refusal := some reason } []
  | take : Does r o .take (.taken o.jobs) { o with jobs := [] } []

/-- A job is handed over by way of the registry if it knows the kind and nothing is refused. -/
theorem does_perform (r : JobRegistry) (o : Outbox) (identifier : String) (args : List Json)
    (stamp : Stamp) :
    r.Does o (.perform identifier args stamp)
      (.performed (r.perform identifier args stamp o).value.1)
      (r.perform identifier args stamp o).value.2
      (counters (r.perform identifier args stamp o).signals) := by
  rw [perform, performBy]
  cases hk : r.get? identifier with
  | none => exact .unknown hk
  | some k =>
    simp only
    cases ho : o.refusal with
    | none =>
      rw [Outbox.client_of_accepts ho]
      exact .performed hk ho
    | some reason =>
      rw [Outbox.client_of_refuses ho]
      exact .unperformed hk ho

theorem does_step (r : JobRegistry) (o : Outbox) (call : JobCall) :
    r.Does o call (r.step o call).value.1 (r.step o call).value.2
      (counters (r.step o call).signals) := by
  cases call with
  | perform identifier args stamp => exact r.does_perform o identifier args stamp
  | push j =>
    rw [step]
    cases ho : o.refusal with
    | none =>
      rw [Outbox.push_of_accepts ho]
      exact .pushed ho
    | some reason =>
      rw [Outbox.push_of_refuses ho]
      exact .unpushed ho
  | refuse reason => exact .refuse
  | take => exact .take

namespace Does

variable {call : JobCall} {answer : JobAnswer} {o' : Outbox} {cs : List Counter}

/-- A call that gives a reason is the only one that makes an outbox refuse jobs. -/
theorem refusal (h : r.Does o call answer o' cs) : o'.refusal = call.reason?.or o.refusal := by
  cases h <;> rfl

/-- What comes out and what is left afterwards was there before or went in. -/
theorem out_append (h : r.Does o call answer o' cs) :
    answer.out ++ o'.jobs = o.jobs ++ (r.handed (call, answer)).toList := by
  cases h with
  | performed hk _ => rw [handed, hk]; rfl
  | pushed _ => rfl
  | take => rfl
  | _ => exact (List.append_nil _).symm

/-- A job by way of the registry steps the counter of its kind. -/
theorem counters_eq (h : r.Does o call answer o' cs) :
    cs = (performed? (call, answer)).toList.map .jobsEnqueued := by
  cases h <;> rfl

/-- A job that is handed over comes after all others, and is one of the kind that is registered. -/
theorem eq_of_ok {identifier : String} {args : List Json} {stamp : Stamp} {id : JobId}
    (h : r.Does o (.perform identifier args stamp) (.performed (.ok id)) o' cs) :
    ∃ k, r.get? identifier = some k ∧ o.refusal = none ∧
      o' = { o with jobs := o.jobs ++ [⟨id, k.queue, k.class_, args, stamp.time⟩] } ∧
      cs = [.jobsEnqueued identifier] := by
  cases h with
  | performed hk ho => exact ⟨_, hk, ho, rfl, rfl⟩

/-- A job that is not handed over leaves everything as it was. -/
theorem eq_of_error {identifier : String} {args : List Json} {stamp : Stamp} {e : JobError}
    (h : r.Does o (.perform identifier args stamp) (.performed (.error e)) o' cs) :
    o' = o ∧ cs = [] := by
  cases h with
  | unknown _ => exact ⟨rfl, rfl⟩
  | unperformed _ _ => exact ⟨rfl, rfl⟩

end Does

/-! ## Several calls -/

theorem filterMap_cons_eq {α β : Type} (f : α → Option β) (a : α) (l : List α) :
    (a :: l).filterMap f = (f a).toList ++ l.filterMap f := by
  rw [List.filterMap_cons]
  cases f a <;> rfl

theorem run_cons (r : JobRegistry) (o : Outbox) (call : JobCall) (calls : List JobCall) :
    (r.run o (call :: calls)).value =
      ((r.step o call).value.1 :: (r.run (r.step o call).value.2 calls).value.1,
        (r.run (r.step o call).value.2 calls).value.2) := rfl

theorem signals_run_cons (r : JobRegistry) (o : Outbox) (call : JobCall) (calls : List JobCall) :
    (r.run o (call :: calls)).signals =
      (r.step o call).signals ++ (r.run (r.step o call).value.2 calls).signals := rfl

/-- Each call is answered. -/
theorem length_run (r : JobRegistry) (o : Outbox) (calls : List JobCall) :
    (r.run o calls).value.1.length = calls.length := by
  induction calls generalizing o with
  | nil => rfl
  | cons call calls ih => rw [run_cons, List.length_cons, ih, List.length_cons]

/-- After any calls, an outbox refuses jobs for the reason that was given last, or else as it did
before. -/
theorem refusal_run (r : JobRegistry) (o : Outbox) (calls : List JobCall) :
    (r.run o calls).value.2.refusal = (latestReason calls).or o.refusal := by
  induction calls generalizing o with
  | nil => rfl
  | cons call calls ih =>
    rw [run_cons, ih, (r.does_step o call).refusal, latestReason_cons, Option.or_assoc]

/-- The jobs that came out, and then those that are left, are the ones that were there, and then
those that went in. -/
theorem out_append_run (r : JobRegistry) (o : Outbox) (calls : List JobCall) :
    (r.run o calls).value.1.flatMap JobAnswer.out ++ (r.run o calls).value.2.jobs =
      o.jobs ++ (calls.zip (r.run o calls).value.1).filterMap r.handed := by
  induction calls generalizing o with
  | nil => exact (List.append_nil _).symm
  | cons call calls ih =>
    rw [run_cons, List.flatMap_cons, List.append_assoc, ih, ← List.append_assoc,
      (r.does_step o call).out_append, List.append_assoc, List.zip_cons_cons, filterMap_cons_eq]

/-- The counters step for the jobs that came by way of the registry, one by one. -/
theorem counters_run (r : JobRegistry) (o : Outbox) (calls : List JobCall) :
    counters (r.run o calls).signals =
      ((calls.zip (r.run o calls).value.1).filterMap performed?).map .jobsEnqueued := by
  induction calls generalizing o with
  | nil => rfl
  | cons call calls ih =>
    rw [signals_run_cons, counters_append, ih, run_cons, (r.does_step o call).counters_eq,
      List.zip_cons_cons, filterMap_cons_eq, List.map_append]

/-! ## The next call -/

/-- The outbox after any calls, which was empty before. -/
def after (r : JobRegistry) (calls : List JobCall) : Outbox := (r.run .empty calls).value.2

theorem refusal_after (r : JobRegistry) (calls : List JobCall) :
    (r.after calls).refusal = latestReason calls :=
  (r.refusal_run .empty calls).trans (Option.or_none)

/-- The delivery of jobs after any calls. -/
structure Delivers (r : JobRegistry) (calls : List JobCall) : Prop where
  /-- A job of a registered kind is handed over as long as no reason was given. -/
  accepts : ∀ identifier args stamp,
    (∃ id, (r.perform identifier args stamp (r.after calls)).value.1 = .ok id) ↔
      r.contains identifier = true ∧ ∀ reason, .refuse reason ∉ calls
  /-- A kind that is not registered is unknown, whether a reason was given or not. -/
  unknown : ∀ identifier args stamp, r.contains identifier = false →
    (r.perform identifier args stamp (r.after calls)).value.1 = .error (.unknown identifier)
  /-- A job of a registered kind is refused for the reason that was given last. -/
  refused : ∀ identifier args stamp reason, r.contains identifier = true →
    latestReason calls = some reason →
    (r.perform identifier args stamp (r.after calls)).value.1 = .error (.pushFailed reason)
  /-- The job that is handed over has the queue and the class of its kind, the arguments, and the
  identity that is the answer; it comes after all others, and its kind is counted once. -/
  delivered : ∀ identifier args stamp id,
    (r.perform identifier args stamp (r.after calls)).value.1 = .ok id →
    ∃ k, r.get? identifier = some k ∧
      (r.perform identifier args stamp (r.after calls)).value.2 =
        { r.after calls with
          jobs := (r.after calls).jobs ++ [⟨id, k.queue, k.class_, args, stamp.time⟩] } ∧
      counters (r.perform identifier args stamp (r.after calls)).signals =
        [.jobsEnqueued identifier]
  /-- A job that is not handed over changes nothing and is not counted. -/
  failed : ∀ identifier args stamp e,
    (r.perform identifier args stamp (r.after calls)).value.1 = .error e →
    (r.perform identifier args stamp (r.after calls)).value.2 = r.after calls ∧
      counters (r.perform identifier args stamp (r.after calls)).signals = []
  /-- A job that is pushed directly is only refused for a reason, and is never counted. -/
  pushed : ∀ j, (r.step (r.after calls) (.push j)).value =
      (match latestReason calls with
      | none => (.pushed (.ok ()), { r.after calls with jobs := (r.after calls).jobs ++ [j] })
      | some reason => (.pushed (.error (.pushFailed reason)), r.after calls)) ∧
    counters (r.step (r.after calls) (.push j)).signals = []
  answered : (r.run .empty calls).value.1.length = calls.length
  /-- The jobs that came out, and then those that are left, are those that went in, in order. -/
  conserved : (r.run .empty calls).value.1.flatMap JobAnswer.out ++ (r.after calls).jobs =
    (calls.zip (r.run .empty calls).value.1).filterMap r.handed
  /-- The counters step for the jobs that came by way of the registry, and for nothing else. -/
  counted : counters (r.run .empty calls).signals =
    ((calls.zip (r.run .empty calls).value.1).filterMap performed?).map .jobsEnqueued

/-- Jobs are delivered after any calls. -/
theorem delivers (r : JobRegistry) (calls : List JobCall) : r.Delivers calls where
  accepts identifier args stamp := by
    rw [contains_iff, ← latestReason_eq_none_iff, ← r.refusal_after]
    constructor
    · rintro ⟨id, hok⟩
      have hdoes := r.does_perform (r.after calls) identifier args stamp
      rw [hok] at hdoes
      obtain ⟨k, hk, ho, _, _⟩ := hdoes.eq_of_ok
      exact ⟨⟨k, hk⟩, ho⟩
    · rintro ⟨⟨k, hk⟩, ho⟩
      exact ⟨stamp.id, by rw [value_perform_of_accepts args stamp hk ho]⟩
  unknown identifier args stamp hnone := by
    have hk : r.get? identifier = none :=
      Option.isNone_iff_eq_none.1 (Option.isSome_eq_false_iff.1 hnone)
    simp only [perform, performBy, hk, Traced.logged]
  refused identifier args stamp reason hsome hreason := by
    obtain ⟨k, hk⟩ := contains_iff.1 hsome
    rw [value_perform_of_refuses args stamp hk ((r.refusal_after calls).trans hreason)]
  delivered identifier args stamp id hok := by
    have hdoes := r.does_perform (r.after calls) identifier args stamp
    rw [hok] at hdoes
    obtain ⟨k, hk, _, hafter, hcount⟩ := hdoes.eq_of_ok
    exact ⟨k, hk, hafter, hcount⟩
  failed identifier args stamp e herror := by
    have hdoes := r.does_perform (r.after calls) identifier args stamp
    rw [herror] at hdoes
    exact hdoes.eq_of_error
  pushed j := by
    rw [← r.refusal_after, step]
    cases ho : (r.after calls).refusal with
    | none =>
      rw [Outbox.push_of_accepts ho]
      exact ⟨by simp only [ho, Traced.pure], rfl⟩
    | some reason =>
      rw [Outbox.push_of_refuses ho]
      exact ⟨rfl, rfl⟩
  answered := r.length_run .empty calls
  conserved := r.out_append_run .empty calls
  counted := r.counters_run .empty calls

end JobRegistry

end RequestBinding
