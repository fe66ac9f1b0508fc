import Mathlib.Data.Set.Card
import RequestBinding.Proofs.Jobs.Registry
import RequestBinding.Proofs.Text.Cutting

/-!
# Registering several kinds at once

A list of kinds is registered as a whole or not at all. It can be registered if every kind in it has
a queue and a class that are not blank; of several kinds under one identifier the last one counts.
Otherwise the first kind with a fault is reported. A registry that was built by registering has no
kinds with a fault.

## Main definitions

* `JobKind.HasFault` - why a kind cannot be registered
* `JobRegistry.Holds` - what is registered under an identifier after a list
* `JobRegistry.FirstFault` - the error of a list that cannot be registered
* `JobRegistry.Reachable` - the registries that are built by registering
* `JobRegistry.RegistersAll` - a list is registered as a whole or not at all

## Main statements

* `JobRegistry.registerAll_eq_error_iff` - which error a list gives
* `JobRegistry.ncard_contains` - the size of a registry
* `JobRegistry.Reachable.named` - the kinds of a registry that is built by registering
* `JobRegistry.all_or_nothing` - registering lists
-/

namespace RequestBinding

/-! ## Faults -/

namespace Unicode

/-- A text is blank if nothing is left of it without the blanks around it. -/
def Blank (s : String) : Prop := trimBlank s.toList = []

theorem blank_iff {s : String} : Blank s ↔ blankText s = true := by
  rw [Blank, trimBlank_eq_iff, blankText, List.all_eq_true]
  constructor
  · rintro ⟨left, right, hs, hleft, hright, -⟩ c hc
    rw [hs, List.nil_append] at hc
    exact (List.mem_append.1 hc).elim (hleft c) (hright c)
  · intro h
    exact ⟨s.toList, [], by simp, h, nofun, nofun, nofun⟩

end Unicode

namespace JobKind

variable {k : JobKind}

/-- The fault of a kind: the queue is looked at before the class. -/
inductive HasFault (k : JobKind) : KindFault → Prop
  | queue (h : Unicode.Blank k.queue) : HasFault k .emptyQueue
  | class_ (hqueue : ¬Unicode.Blank k.queue) (h : Unicode.Blank k.class_) : HasFault k .emptyClass

theorem named_iff : k.Named ↔ ¬Unicode.Blank k.queue ∧ ¬Unicode.Blank k.class_ := by
  rw [Named, Unicode.blank_iff, Unicode.blank_iff, Bool.not_eq_true, Bool.not_eq_true]

theorem fault?_eq_some_iff {fault : KindFault} : k.fault? = some fault ↔ k.HasFault fault := by
  rw [fault?]
  constructor
  · intro h
    split at h
    · next hqueue =>
      cases h
      exact .queue (Unicode.blank_iff.2 hqueue)
    · next hqueue =>
      split at h
      · next hclass =>
        cases h
        exact .class_ (mt Unicode.blank_iff.1 hqueue) (Unicode.blank_iff.2 hclass)
      · cases h
  · intro h
    cases h with
    | queue h => rw [if_pos (Unicode.blank_iff.1 h)]
    | class_ hqueue h => rw [if_neg (mt Unicode.blank_iff.2 hqueue), if_pos (Unicode.blank_iff.1 h)]

theorem fault?_eq_none_iff_not_hasFault : k.fault? = none ↔ ∀ fault, ¬k.HasFault fault := by
  simp only [Option.eq_none_iff_forall_ne_some, ne_eq, fault?_eq_some_iff]

/-- A kind has at most one fault. -/
theorem HasFault.unique {fault fault' : KindFault} (h : k.HasFault fault)
    (h' : k.HasFault fault') : fault = fault' :=
  Option.some.inj ((fault?_eq_some_iff.2 h).symm.trans (fault?_eq_some_iff.2 h'))

end JobKind

namespace JobRegistry

variable {r r' : JobRegistry} {identifier : String} {k : JobKind} {ps : List (String × JobKind)}

/-! ## Errors -/

/-- The error of a list that cannot be registered: the kinds before some kind have no fault, and this
kind has the fault that is reported under its identifier. -/
def FirstFault (ps : List (String × JobKind)) (e : JobError) : Prop :=
  ∃ before identifier k after fault, ps = before ++ (identifier, k) :: after ∧
    (∀ p ∈ before, ∀ fault, ¬p.2.HasFault fault) ∧ k.HasFault fault ∧
    e = .invalidKind identifier fault

theorem firstFault_cons_of_hasFault {fault : KindFault} (h : k.HasFault fault) {e : JobError} :
    FirstFault ((identifier, k) :: ps) e ↔ e = .invalidKind identifier fault := by
  constructor
  · rintro ⟨before, identifier', k', after, fault', hps, hbefore, hk', rfl⟩
    cases before with
    | nil =>
      cases hps
      rw [hk'.unique h]
    | cons p before =>
      -- the first kind has a fault, so none stands before it
      cases hps
      exact absurd h (hbefore _ List.mem_cons_self fault)
  · rintro rfl
    exact ⟨[], identifier, k, ps, fault, rfl, nofun, h, rfl⟩

theorem firstFault_cons_of_sound (h : ∀ fault, ¬k.HasFault fault) {e : JobError} :
    FirstFault ((identifier, k) :: ps) e ↔ FirstFault ps e := by
  constructor
  · rintro ⟨before, identifier', k', after, fault, hps, hbefore, hk', rfl⟩
    cases before with
    | nil =>
      cases hps
      exact absurd hk' (h fault)
    | cons p before =>
      cases hps
      exact ⟨before, identifier', k', after, fault, rfl, (List.forall_mem_cons.1 hbefore).2, hk',
        rfl⟩
  · rintro ⟨before, identifier', k', after, fault, rfl, hbefore, hk', rfl⟩
    exact ⟨(identifier, k) :: before, identifier', k', after, fault, rfl,
      List.forall_mem_cons.2 ⟨h, hbefore⟩, hk', rfl⟩

/-- A list that cannot be registered gives the error of its first kind with a fault. -/
theorem registerAll_eq_error_iff {e : JobError} :
    r.registerAll ps = .error e ↔ FirstFault ps e := by
  induction ps generalizing r with
  | nil =>
    refine iff_of_false nofun ?_
    rintro ⟨before, _, _, _, _, hps, _⟩
    exact absurd hps (by simp)
  | cons p ps ih =>
    obtain ⟨identifier, k⟩ := p
    rw [registerAll, register]
    cases hfault : k.fault? with
    | some fault =>
      rw [firstFault_cons_of_hasFault (JobKind.fault?_eq_some_iff.1 hfault)]
      simp [eq_comm]
    | none =>
      rw [firstFault_cons_of_sound (JobKind.fault?_eq_none_iff_not_hasFault.1 hfault)]
      exact ih

/-! ## Kinds -/

/-- What is registered under an identifier after a list: the last kind that is listed under it, or
what was registered before if none is. -/
inductive Holds (r : JobRegistry) (ps : List (String × JobKind)) (identifier : String) :
    Option JobKind → Prop
  | listed {before after : List (String × JobKind)} {k : JobKind}
      (h : ps = before ++ (identifier, k) :: after) (hlast : ∀ p ∈ after, p.1 ≠ identifier) :
      Holds r ps identifier (some k)
  | kept (h : ∀ p ∈ ps, p.1 ≠ identifier) : Holds r ps identifier (r.get? identifier)

theorem holds_of_registerAll (h : r.registerAll ps = .ok r') (identifier : String) :
    Holds r ps identifier (r'.get? identifier) := by
  rw [get?_of_registerAll h]
  cases hfind : ps.reverse.find? (·.1 == identifier) with
  | none =>
    refine .kept fun p hp heq => ?_
    exact List.find?_eq_none.1 hfind p (List.mem_reverse.2 hp) (beq_iff_eq.2 heq)
  | some p =>
    -- the list is searched backwards, so what was passed by stands behind
    obtain ⟨hp, after, before, hps, hafter⟩ := List.find?_eq_some_iff_append.1 hfind
    have hsplit : ps = before.reverse ++ p :: after.reverse := by
      rw [← List.reverse_inj, hps]
      simp
    have hlast : ∀ q ∈ after.reverse, q.1 ≠ identifier := fun q hq => by
      simpa using hafter q (List.mem_reverse.1 hq)
    obtain ⟨_, k⟩ := p
    cases beq_iff_eq.1 hp
    exact .listed hsplit hlast

/-- A list adds the identifiers in it to those of the registry. -/
theorem contains_registerAll_iff (h : r.registerAll ps = .ok r') (identifier : String) :
    r'.contains identifier = true ↔
      r.contains identifier = true ∨ ∃ k, (identifier, k) ∈ ps := by
  rw [contains_iff, contains_iff]
  have hholds := holds_of_registerAll h identifier
  generalize r'.get? identifier = found at hholds
  cases hholds with
  | @listed before after k h hlast =>
    refine ⟨fun _ => .inr ⟨k, ?_⟩, fun _ => ⟨k, rfl⟩⟩
    rw [h]
    exact List.mem_append_right before List.mem_cons_self
  | kept h =>
    refine ⟨.inl, fun hor => hor.resolve_right ?_⟩
    rintro ⟨k, hk⟩
    exact h _ hk rfl

/-- The size of a registry is the number of its identifiers. -/
theorem ncard_contains (r : JobRegistry) :
    Set.ncard {identifier | r.contains identifier = true} = r.size := by
  have hkeys : {identifier | r.contains identifier = true} =
      ↑(r.kinds.map (·.1)).toFinset := by
    ext identifier
    rw [List.coe_toFinset]
    show r.contains identifier = true ↔ identifier ∈ r.kinds.map (·.1)
    rw [contains_iff, List.mem_map]
    constructor
    · rintro ⟨k, hk⟩
      exact ⟨_, Members.mem_of_get? hk, rfl⟩
    · rintro ⟨p, hp, rfl⟩
      exact ⟨p.2, Members.get?_of_mem r.sorted hp⟩
  rw [hkeys, Set.ncard_coe_finset, List.toFinset_card_of_nodup (Members.nodup_of_sorted r.sorted),
    List.length_map, size]

/-! ## Reachable registries -/

/-- The registries that are built by registering kinds, one by one or several at once. -/
inductive Reachable : JobRegistry → Prop
  | empty : Reachable .empty
  | register {r r' : JobRegistry} {identifier : String} {k : JobKind} (hr : Reachable r)
      (h : r.register identifier k = .ok r') : Reachable r'
  | registerAll {r r' : JobRegistry} {ps : List (String × JobKind)} (hr : Reachable r)
      (h : r.registerAll ps = .ok r') : Reachable r'

/-- To register one kind is to register a list with this kind alone. -/
theorem registerAll_singleton (r : JobRegistry) (identifier : String) (k : JobKind) :
    r.registerAll [(identifier, k)] = r.register identifier k := by
  rw [registerAll]
  cases r.register identifier k <;> rfl

/-- Registering a list keeps the kinds of a registry without faults. -/
theorem named_of_registerAll (hr : ∀ identifier k, r.get? identifier = some k → k.Named)
    (h : r.registerAll ps = .ok r') (hk : r'.get? identifier = some k) : k.Named := by
  have hholds := holds_of_registerAll h identifier
  rw [hk] at hholds
  generalize hfound : some k = found at hholds
  cases hholds with
  | @listed before after k' hps hlast =>
    cases hfound
    refine exists_registerAll_iff.1 ⟨r', h⟩ (identifier, k) ?_
    rw [hps]
    exact List.mem_append_right before List.mem_cons_self
  | kept hps => exact hr identifier k hfound.symm

theorem Reachable.named (hr : Reachable r) :
    ∀ identifier k, r.get? identifier = some k → k.Named := by
  induction hr with
  | empty => exact fun _ _ hk => by cases hk
  | register _ h ih =>
    rw [← registerAll_singleton] at h
    exact fun _ _ hk => named_of_registerAll ih h hk
  | registerAll _ h ih => exact fun _ _ hk => named_of_registerAll ih h hk

/-! ## Whole lists -/

/-- A list of kinds is registered in a registry as a whole, or the first kind with a fault is
reported. -/
structure RegistersAll (r : JobRegistry) (ps : List (String × JobKind)) : Prop where
  succeeds_iff : (∃ r', r.registerAll ps = .ok r') ↔
    ∀ p ∈ ps, ¬Unicode.Blank p.2.queue ∧ ¬Unicode.Blank p.2.class_
  holds : ∀ r', r.registerAll ps = .ok r' →
    ∀ identifier, Holds r ps identifier (r'.get? identifier)
  size_eq : ∀ r', r.registerAll ps = .ok r' → r'.size =
    Set.ncard {identifier | r.contains identifier = true ∨ ∃ k, (identifier, k) ∈ ps}
  fails_iff : ∀ e, r.registerAll ps = .error e ↔ FirstFault ps e

theorem registersAll (r : JobRegistry) (ps : List (String × JobKind)) : RegistersAll r ps where
  succeeds_iff := by
    rw [exists_registerAll_iff]
    exact forall₂_congr fun p _ => JobKind.named_iff
  holds _ h := holds_of_registerAll h
  size_eq r' h := by
    rw [← r'.ncard_contains]
    simp only [contains_registerAll_iff h]
  fails_iff _ := registerAll_eq_error_iff

/-- Registering is all or nothing: a list of kinds is registered as a whole, or nothing but an error
comes out. So no registry that is built by registering has a kind with a blank queue or class. -/
theorem all_or_nothing : (∀ r ps, RegistersAll r ps) ∧
    ∀ r, Reachable r → ∀ identifier k, r.get? identifier = some k →
      ¬Unicode.Blank k.queue ∧ ¬Unicode.Blank k.class_ :=
  ⟨registersAll, fun _ hr identifier k hk => JobKind.named_iff.1 (hr.named identifier k hk)⟩

end JobRegistry

end RequestBinding
