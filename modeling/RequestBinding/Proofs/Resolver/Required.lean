import RequestBinding.Proofs.Resolver.Runs

/-!
# Required fields

A field that is required answers with its value, unless it has none or the value is false. A bag
never gives null for a field: a null there is no value. A null that was set is a value, though, and
is handed out.

## Main statements

* `Resolver.required_eq_ok_iff`, `Resolver.required_eq_error_iff` - requiring a field, told by
  resolving it
* `Resolver.Answered.null_iff` - null is an answer only where it was set
* `Resolver.required_run` - required fields after any calls
-/

namespace RequestBinding.Resolver

variable {p : Params} {mainType : String} {f : Field} {calls : List Call}

/-! ## One call -/

theorem required_of_none {r : Resolver} (h : (r.resolve f).value.1 = none) :
    (r.required f).value.1 = .error (.missing f.qualified) := by
  unfold required Traced.bind
  simp only [h]

theorem required_of_false {r : Resolver} (h : (r.resolve f).value.1 = some (.bool false)) :
    (r.required f).value.1 = .error (.missing f.qualified) := by
  unfold required Traced.bind
  simp only [h]

theorem required_of_some {r : Resolver} {v : Json} (h : (r.resolve f).value.1 = some v)
    (hv : v ≠ .bool false) : (r.required f).value.1 = .ok v := by
  unfold required Traced.bind
  simp only [h, Traced.pure]

/-- A required field has the value that resolving it gives, and this is not false. -/
theorem required_eq_ok_iff {r : Resolver} {v : Json} :
    (r.required f).value.1 = .ok v ↔ (r.resolve f).value.1 = some v ∧ v ≠ .bool false := by
  constructor
  · intro h
    cases hresolve : (r.resolve f).value.1 with
    | none =>
      rw [required_of_none hresolve] at h
      cases h
    | some w =>
      by_cases hw : w = .bool false
      · subst hw
        rw [required_of_false hresolve] at h
        cases h
      · rw [required_of_some hresolve hw] at h
        cases h
        exact ⟨rfl, hw⟩
  · rintro ⟨hresolve, hv⟩
    exact required_of_some hresolve hv

/-- A required field is missing if resolving it gives nothing or false, and the error names it in
full. -/
theorem required_eq_error_iff {r : Resolver} {e : ParamsError} :
    (r.required f).value.1 = .error e ↔ e = .missing f.qualified ∧
      ((r.resolve f).value.1 = none ∨ (r.resolve f).value.1 = some (.bool false)) := by
  constructor
  · intro h
    cases hresolve : (r.resolve f).value.1 with
    | none =>
      rw [required_of_none hresolve] at h
      cases h
      exact ⟨rfl, .inl rfl⟩
    | some w =>
      by_cases hw : w = .bool false
      · subst hw
        rw [required_of_false hresolve] at h
        cases h
        exact ⟨rfl, .inr rfl⟩
      · rw [required_of_some hresolve hw] at h
        cases h
  · rintro ⟨rfl, hresolve | hresolve⟩
    · exact required_of_none hresolve
    · exact required_of_false hresolve

/-! ## Null -/

/-- A bag does not give null. -/
theorem Gives.ne_null {v : Json} (h : Gives p mainType f (some v)) : v ≠ .null := by
  cases h with
  | value _ hv => exact hv

/-- Null is the answer for a field exactly if it was set, and nothing else after it. -/
theorem Answered.null_iff : Answered p mainType f calls (some .null) ↔
    ∃ before after, calls = before ++ .set f (some .null) :: after ∧ ∀ w, .set f w ∉ after := by
  constructor
  · intro h
    cases h with
    | written h hlast => exact ⟨_, _, h, hlast⟩
    | unwritten _ hv => exact absurd rfl hv.ne_null
  · rintro ⟨before, after, h, hlast⟩
    exact .written h hlast

/-! ## Runs -/

/-- After any calls, requiring a field gives its answer, unless there is none or it is false; then
the field is missing. It gives null exactly if null was set for the field and nothing after it. -/
theorem required_run (p : Params) (mainType : String) (jobs : Option JobRegistry)
    (calls : List Call) (f : Field) :
    (∀ v, (((new p mainType jobs).run calls).required f).value.1 = .ok v ↔
      Answered p mainType f calls (some v) ∧ v ≠ .bool false) ∧
    (∀ e, (((new p mainType jobs).run calls).required f).value.1 = .error e ↔
      e = .missing f.qualified ∧
        (Answered p mainType f calls none ∨ Answered p mainType f calls (some (.bool false)))) ∧
    ((((new p mainType jobs).run calls).required f).value.1 = .ok .null ↔
      ∃ before after, calls = before ++ .set f (some .null) :: after ∧
        ∀ w, .set f w ∉ after) := by
  have hanswer := ((remembers_run p mainType jobs calls).resolve f).1
  have hiff : ∀ v, (((new p mainType jobs).run calls).resolve f).value.1 = v ↔
      Answered p mainType f calls v := by
    intro v
    constructor
    · rintro rfl
      exact hanswer
    · exact hanswer.unique
  refine ⟨fun v => ?_, fun e => ?_, ?_⟩
  · rw [required_eq_ok_iff, hiff]
  · rw [required_eq_error_iff, hiff, hiff]
  · rw [required_eq_ok_iff, hiff, Answered.null_iff]
    exact and_iff_left (by simp)

/-- A null that was set is handed out as the value of a required field. -/
theorem required_null_of_set :
    (((new Params.empty "request" none).run [.set ⟨"request", "branch"⟩ (some .null)]).required
      ⟨"request", "branch"⟩).value.1 = .ok .null := rfl

end RequestBinding.Resolver
