import RequestBinding.Jobs.Registry
import RequestBinding.Proofs.Params.Additions

/-!
# Registered kinds of jobs

Of several kinds that are registered under an identifier the last one counts, so a sorted list of
kinds makes up the registry that it is registered in. A job of a registered kind is handed over to
whatever client there is, whose answer decides. An outbox takes it unless it refuses further jobs.

## Main definitions

* `JobKind.Named` - kinds that can be registered

## Main statements

* `JobRegistry.get?_of_registerAll` - the kinds of a list that is registered
* `JobRegistry.kinds_of_registerAll_empty` - the registry of a sorted list
* `JobRegistry.exists_registerAll_iff` - which lists can be registered
* `JobRegistry.value_performBy` - handing over to any client
* `JobRegistry.value_perform_of_accepts`, `JobRegistry.value_perform_of_refuses` - handing over
-/

namespace RequestBinding

/-! ## Kinds -/

/-- A kind of job has a queue and a class with more than blanks. -/
def JobKind.Named (k : JobKind) : Prop :=
  Unicode.blankText k.queue = false ∧ Unicode.blankText k.class_ = false

theorem JobKind.fault?_eq_none_iff {k : JobKind} : k.fault? = none ↔ k.Named := by
  rw [fault?, Named]
  cases Unicode.blankText k.queue <;> cases Unicode.blankText k.class_ <;> simp

/-! ## Outboxes -/

namespace Outbox

variable {o : Outbox} {j : Job}

theorem push_of_accepts (ho : o.refusal = none) :
    o.push j = .ok { o with jobs := o.jobs ++ [j] } := by
  rw [push, ho]

theorem push_of_refuses {reason : String} (ho : o.refusal = some reason) :
    o.push j = .error (.pushFailed reason) := by
  rw [push, ho]

theorem client_of_accepts (ho : o.refusal = none) :
    client j o = (.ok (), { o with jobs := o.jobs ++ [j] }) := by
  rw [client, push_of_accepts ho]

theorem client_of_refuses {reason : String} (ho : o.refusal = some reason) :
    client j o = (.error (.pushFailed reason), o) := by
  rw [client, push_of_refuses ho]

end Outbox

namespace JobRegistry

variable {r r' : JobRegistry} {identifier : String} {k : JobKind}

/-! ## Registering -/

theorem kinds_of_register (h : r.register identifier k = .ok r') :
    r'.kinds = Members.put identifier k r.kinds := by
  rw [register] at h
  split at h
  · cases h
  · cases h
    rfl

/-- The kinds of a list are put in one after the other. -/
theorem kinds_of_registerAll {ps : List (String × JobKind)} (h : r.registerAll ps = .ok r') :
    r'.kinds = ps.foldl (fun ms p => Members.put p.1 p.2 ms) r.kinds := by
  induction ps generalizing r with
  | nil =>
    cases h
    rfl
  | cons p ps ih =>
    rw [registerAll] at h
    split at h
    · next r₁ hfirst => rw [List.foldl_cons, ← kinds_of_register hfirst, ih h]
    · cases h

/-- The kind under an identifier is the last one of the list that is registered, or else the one
from before. -/
theorem get?_of_registerAll {ps : List (String × JobKind)} (h : r.registerAll ps = .ok r')
    (identifier : String) : r'.get? identifier =
      ((ps.reverse.find? (·.1 == identifier)).map (·.2)).or (r.get? identifier) := by
  rw [get?, kinds_of_registerAll h, Members.get?_foldl_put, get?]

theorem contains_iff : r.contains identifier = true ↔ ∃ k, r.get? identifier = some k :=
  Option.isSome_iff_exists

/-- A sorted list makes up the registry that it is registered in. -/
theorem kinds_of_registerAll_empty {ps : List (String × JobKind)} (hsorted : Members.Sorted ps)
    (h : empty.registerAll ps = .ok r) : r.kinds = ps :=
  (kinds_of_registerAll h).trans (Members.ofList_of_sorted hsorted)

/-- A list can be registered if and only if all of its kinds can. -/
theorem exists_registerAll_iff {ps : List (String × JobKind)} :
    (∃ r', r.registerAll ps = .ok r') ↔ ∀ p ∈ ps, p.2.Named := by
  induction ps generalizing r with
  | nil => exact ⟨fun _ _ hp => (List.not_mem_nil hp).elim, fun _ => ⟨r, rfl⟩⟩
  | cons p ps ih =>
    rw [registerAll, register, List.forall_mem_cons, ← JobKind.fault?_eq_none_iff]
    cases p.2.fault? with
    | some fault => simp
    | none => simpa using ih

/-! ## Handing over -/

variable {o : Outbox} (args : List Json) (stamp : Stamp)

/-- A client gets a job of a registered kind with the queue and the class of this kind, and its
answer decides. -/
theorem value_performBy {σ : Type} (client : JobClient σ) (hk : r.get? identifier = some k)
    (state : σ) : (r.performBy client identifier args stamp state).value =
      ((client (.ofKind k args stamp) state).1.map fun _ => stamp.id,
        (client (.ofKind k args stamp) state).2) := by
  rw [performBy, hk]
  simp only
  split
  · next e state' h => rw [h]; rfl
  · next state' h => rw [h]; rfl

/-- A job of a registered kind joins the jobs that were handed over. -/
theorem value_perform_of_accepts (hk : r.get? identifier = some k) (ho : o.refusal = none) :
    (r.perform identifier args stamp o).value =
      (.ok stamp.id, { o with jobs := o.jobs ++ [.ofKind k args stamp] }) := by
  rw [perform, value_performBy args stamp _ hk, Outbox.client_of_accepts ho]
  rfl

/-- An outbox that refuses further jobs stays as it is, and its reason is the error. -/
theorem value_perform_of_refuses {reason : String} (hk : r.get? identifier = some k)
    (ho : o.refusal = some reason) :
    (r.perform identifier args stamp o).value = (.error (.pushFailed reason), o) := by
  rw [perform, value_performBy args stamp _ hk, Outbox.client_of_refuses ho]
  rfl

end JobRegistry

end RequestBinding
