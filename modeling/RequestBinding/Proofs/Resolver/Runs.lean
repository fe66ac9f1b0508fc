import RequestBinding.Proofs.Resolver.Lookup

/-!
# Runs of a resolver

A resolver remembers its answers, and answers can be set between them. After any calls, the answer
for a field is the value that was set last for this field, if any was, and the value in the bag
otherwise.

## Main definitions

* `Resolver.Call`, `Resolver.run` - calls of a resolver, and what is left after them
* `Resolver.Answered` - the answer for a field after some calls
* `Resolver.Remembers` - what is remembered agrees with the calls so far

## Main statements

* `Resolver.Remembers.step`, `Resolver.Remembers.run` - every call keeps the invariant
* `Resolver.answered_run` - the answers after any calls
-/

namespace RequestBinding.Resolver

/-- A call of a resolver. -/
inductive Call where
  | resolve (f : Field)
  | set (f : Field) (v : Option Json)
  | required (f : Field)
  | includes (key : String)

/-- Whether a call sets a field. -/
def Call.sets (f : Field) : Call → Bool
  | .set g _ => g == f
  | _ => false

/-- The resolver after a call. -/
def step (r : Resolver) : Call → Resolver
  | .resolve f => (r.resolve f).value.2
  | .set f v => r.set f v
  | .required f => (r.required f).value.2
  | .includes _ => r

/-- The resolver after several calls. -/
def run (r : Resolver) (calls : List Call) : Resolver := calls.foldl step r

variable {p : Params} {mainType : String} {f g : Field} {calls : List Call} {r : Resolver}

/-! ## Answers -/

/-- The answer for a field after some calls: the value that was set last, or the one in the bag if
none was set. -/
inductive Answered (p : Params) (mainType : String) (f : Field) (calls : List Call) :
    Option Json → Prop
  | written {before after : List Call} {v : Option Json}
      (h : calls = before ++ .set f v :: after) (hlast : ∀ w, .set f w ∉ after) :
      Answered p mainType f calls v
  | unwritten {v : Option Json} (h : ∀ w, .set f w ∉ calls) (hv : Gives p mainType f v) :
      Answered p mainType f calls v

namespace Answered

/-- A field that is set answers what was set. -/
theorem of_set (p : Params) (mainType : String) (f : Field) (calls : List Call)
    (v : Option Json) : Answered p mainType f (calls ++ [.set f v]) v :=
  .written rfl fun _ h => (List.not_mem_nil h).elim

/-- A call that does not set a field leaves its answer alone. -/
theorem snoc {v : Option Json} (h : Answered p mainType f calls v) {call : Call}
    (hcall : ∀ w, call ≠ .set f w) : Answered p mainType f (calls ++ [call]) v := by
  cases h with
  | @written before after _ h hlast =>
    have hsplit : calls ++ [call] = before ++ .set f v :: (after ++ [call]) := by
      rw [h, List.append_assoc, List.cons_append]
    refine .written hsplit fun w hw => ?_
    rcases List.mem_append.1 hw with hw | hw
    · exact hlast w hw
    · exact hcall w (List.mem_singleton.1 hw).symm
  | unwritten h hv =>
    refine .unwritten (fun w hw => ?_) hv
    rcases List.mem_append.1 hw with hw | hw
    · exact h w hw
    · exact hcall w (List.mem_singleton.1 hw).symm

/-- Of all calls only those that set the field matter for its answer. -/
theorem filter {v : Option Json} (h : Answered p mainType f calls v) :
    Answered p mainType f (calls.filter (Call.sets f)) v := by
  have hsets : ∀ w, Call.sets f (.set f w) = true := fun w => beq_self_eq_true f
  cases h with
  | @written before after _ h hlast =>
    have hsplit : calls.filter (Call.sets f) =
        before.filter (Call.sets f) ++ .set f v :: after.filter (Call.sets f) := by
      rw [h, List.filter_append, List.filter_cons_of_pos (hsets v)]
    exact .written hsplit fun w hw => hlast w (List.mem_filter.1 hw).1
  | unwritten h hv => exact .unwritten (fun w hw => h w (List.mem_filter.1 hw).1) hv

/-- Two splits at the last call that sets a field have the same call there. -/
theorem eq_of_split {before after before' after' : List Call} {v w : Option Json}
    (h : before ++ .set f v :: after = before' ++ .set f w :: after')
    (hlast : ∀ u, .set f u ∉ after) (hlast' : ∀ u, .set f u ∉ after') : v = w := by
  rcases List.append_eq_append_iff.1 h with ⟨as, _, hsplit⟩ | ⟨as, _, hsplit⟩
  · cases as with
    | nil =>
      cases hsplit
      rfl
    | cons a as =>
      rw [List.cons_append, List.cons.injEq] at hsplit
      refine absurd ?_ (hlast w)
      rw [hsplit.2]
      exact List.mem_append_right as List.mem_cons_self
  · cases as with
    | nil =>
      cases hsplit
      rfl
    | cons a as =>
      rw [List.cons_append, List.cons.injEq] at hsplit
      refine absurd ?_ (hlast' v)
      rw [hsplit.2]
      exact List.mem_append_right as List.mem_cons_self

/-- There is one answer. -/
theorem unique {v w : Option Json} (hv : Answered p mainType f calls v)
    (hw : Answered p mainType f calls w) : v = w := by
  have hset : ∀ (before after : List Call) u, Call.set f u ∈ before ++ .set f u :: after :=
    fun before after u => List.mem_append_right before List.mem_cons_self
  cases hv with
  | written h hlast =>
    cases hw with
    | written h' hlast' => exact eq_of_split (h.symm.trans h') hlast hlast'
    | unwritten h' _ =>
      refine absurd ?_ (h' v)
      rw [h]
      exact hset _ _ v
  | unwritten h hv =>
    cases hw with
    | written h' hlast' =>
      refine absurd ?_ (h w)
      rw [h']
      exact hset _ _ w
    | unwritten _ hw => exact (lookup_eq_iff.2 hv).symm.trans (lookup_eq_iff.2 hw)

end Answered

/-! ## The invariant -/

/-- What a resolver has fixed for a field is the answer after the calls so far, and it has fixed
something for each field that was set. The bag and the main type are those of the start. -/
structure Remembers (p : Params) (mainType : String) (calls : List Call) (r : Resolver) : Prop where
  params_eq : r.params = p
  mainType_eq : r.mainType = mainType
  known : ∀ f v, r.known? f = some v → Answered p mainType f calls v
  unknown : ∀ f, r.known? f = none → ∀ w, .set f w ∉ calls

theorem known?_set_self (r : Resolver) (f : Field) (v : Option Json) :
    (r.set f v).known? f = some v := by
  simp [known?, set]

theorem known?_set_of_ne (r : Resolver) (h : f ≠ g) (v : Option Json) :
    (r.set f v).known? g = r.known? g := by
  simp [known?, set, h]

namespace Remembers

theorem new (p : Params) (mainType : String) (jobs : Option JobRegistry) :
    Remembers p mainType [] (.new p mainType jobs) := by
  refine ⟨rfl, rfl, fun f v h => ?_, fun f _ w hw => (List.not_mem_nil hw).elim⟩
  cases h

/-- An answer is fixed for a field while the answers for all other fields stay as they are. -/
theorem fix (h : Remembers p mainType calls r) {calls' : List Call} {v : Option Json}
    (hv : Answered p mainType f calls' v)
    (hkeep : ∀ g w, f ≠ g → Answered p mainType g calls w → Answered p mainType g calls' w)
    (hsets : ∀ g w, f ≠ g → .set g w ∈ calls' → .set g w ∈ calls) :
    Remembers p mainType calls' (r.set f v) := by
  refine ⟨h.params_eq, h.mainType_eq, fun g w hw => ?_, fun g hg w hw => ?_⟩
  · by_cases hfg : f = g
    · subst hfg
      rw [known?_set_self] at hw
      cases hw
      exact hv
    · rw [known?_set_of_ne r hfg] at hw
      exact hkeep g w hfg (h.known g w hw)
  · by_cases hfg : f = g
    · subst hfg
      rw [known?_set_self] at hg
      cases hg
    · rw [known?_set_of_ne r hfg] at hg
      exact h.unknown g hg w (hsets g w hfg hw)

/-- The answer of a resolver, and that it stays the answer if it is remembered. -/
theorem resolve (h : Remembers p mainType calls r) (f : Field) :
    Answered p mainType f calls (r.resolve f).value.1 ∧
      Remembers p mainType calls (r.resolve f).value.2 := by
  cases hknown : r.known? f with
  | some v =>
    -- what is remembered is answered again
    have hresolve : (r.resolve f).value = (v, r) := by
      rw [Resolver.resolve, hknown]
      rfl
    rw [hresolve]
    exact ⟨h.known f v hknown, h⟩
  | none =>
    -- the field was not set, so it is looked up in the bag of the start
    have hresolve : (r.resolve f).value =
        (lookup p mainType f, r.set f (lookup p mainType f)) := by
      rw [Resolver.resolve, hknown, h.params_eq, h.mainType_eq]
      rfl
    have hanswered : Answered p mainType f calls (lookup p mainType f) :=
      .unwritten (h.unknown f hknown) (lookup_eq_iff.1 rfl)
    rw [hresolve]
    exact ⟨hanswered, h.fix hanswered (fun _ _ _ hw => hw) fun _ _ _ hw => hw⟩

theorem set (h : Remembers p mainType calls r) (f : Field) (v : Option Json) :
    Remembers p mainType (calls ++ [.set f v]) (r.set f v) := by
  have hne : ∀ g w, f ≠ g → Call.set f v ≠ .set g w := by
    intro g w hfg heq
    cases heq
    exact hfg rfl
  refine h.fix (.of_set p mainType f calls v) (fun g w hfg hw => ?_) fun g w hfg hw => ?_
  · exact hw.snoc fun w' => hne g w' hfg
  · rcases List.mem_append.1 hw with hw | hw
    · exact hw
    · exact (hne g w hfg (List.mem_singleton.1 hw).symm).elim

/-- A call that sets no field. -/
theorem snoc (h : Remembers p mainType calls r) {call : Call} (hcall : ∀ f w, call ≠ .set f w) :
    Remembers p mainType (calls ++ [call]) r := by
  refine ⟨h.params_eq, h.mainType_eq, fun f v hv => ?_, fun f hf w hw => ?_⟩
  · exact (h.known f v hv).snoc (hcall f)
  · rcases List.mem_append.1 hw with hw | hw
    · exact h.unknown f hf w hw
    · exact hcall f w (List.mem_singleton.1 hw).symm

/-- Requiring a field remembers what resolving it does. -/
theorem required_eq_resolve (r : Resolver) (f : Field) :
    (r.required f).value.2 = (r.resolve f).value.2 := by
  unfold Resolver.required Traced.bind
  simp only
  split <;> rfl

/-- Every call keeps the invariant. -/
theorem step (h : Remembers p mainType calls r) (call : Call) :
    Remembers p mainType (calls ++ [call]) (r.step call) := by
  cases call with
  | resolve f => exact (h.resolve f).2.snoc fun _ _ heq => by cases heq
  | set f v => exact h.set f v
  | required f =>
    show Remembers p mainType _ (r.required f).value.2
    rw [required_eq_resolve]
    exact (h.resolve f).2.snoc fun _ _ heq => by cases heq
  | includes key => exact h.snoc fun _ _ heq => by cases heq

/-- So do several calls. -/
theorem run (h : Remembers p mainType calls r) (more : List Call) :
    Remembers p mainType (calls ++ more) (r.run more) := by
  induction more generalizing calls r with
  | nil =>
    rw [List.append_nil]
    exact h
  | cons call more ih =>
    have hstep := ih (h.step call)
    rw [List.append_assoc] at hstep
    exact hstep

end Remembers

/-- A field that was never set has its value in the bag. -/
theorem Remembers.value_resolve (h : Remembers p mainType calls r) (hf : ∀ w, .set f w ∉ calls) :
    (r.resolve f).value.1 = lookup p mainType f :=
  (h.resolve f).1.unique (.unwritten hf (lookup_eq_iff.1 rfl))

/-! ## Runs -/

@[simp] theorem jobs_resolve (r : Resolver) (f : Field) :
    (r.resolve f).value.2.jobs = r.jobs := by
  rw [Resolver.resolve]
  split <;> rfl

theorem jobs_step (r : Resolver) (call : Call) : (r.step call).jobs = r.jobs := by
  cases call with
  | resolve f => exact r.jobs_resolve f
  | set f v => rfl
  | required f =>
    show (r.required f).value.2.jobs = _
    rw [Remembers.required_eq_resolve, jobs_resolve]
  | includes key => rfl

/-- No call changes the registry of jobs. -/
theorem jobs_run (r : Resolver) (calls : List Call) : (r.run calls).jobs = r.jobs := by
  induction calls generalizing r with
  | nil => rfl
  | cons call calls ih => exact (ih (r.step call)).trans (r.jobs_step call)

theorem remembers_run (p : Params) (mainType : String) (jobs : Option JobRegistry)
    (calls : List Call) : Remembers p mainType calls ((new p mainType jobs).run calls) :=
  (Remembers.new p mainType jobs).run calls

/-- After any calls of a fresh resolver, a field answers what was set for it last, or else its value
in the bag. Calls about other fields and earlier questions do not matter, and the bag and the type of
the request stay as they are. -/
theorem answered_run (p : Params) (mainType : String) (jobs : Option JobRegistry)
    (calls : List Call) (f : Field) :
    Answered p mainType f calls (((new p mainType jobs).run calls).resolve f).value.1 ∧
      (((new p mainType jobs).run calls).resolve f).value.1 =
        (((new p mainType jobs).run (calls.filter (Call.sets f))).resolve f).value.1 ∧
      ((new p mainType jobs).run calls).params = p ∧
      ((new p mainType jobs).run calls).effectiveType = (new p mainType jobs).effectiveType := by
  have h := remembers_run p mainType jobs calls
  have hanswer := (h.resolve f).1
  have hfiltered := ((remembers_run p mainType jobs (calls.filter (Call.sets f))).resolve f).1
  refine ⟨hanswer, hanswer.filter.unique hfiltered, h.params_eq, ?_⟩
  rw [effectiveType, effectiveType, h.params_eq, h.mainType_eq]
  rfl

end RequestBinding.Resolver
