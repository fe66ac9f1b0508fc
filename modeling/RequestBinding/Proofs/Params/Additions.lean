import RequestBinding.Params.Update
import RequestBinding.Proofs.Params.Brackets
import RequestBinding.Proofs.Params.Merge

/-!
# Additions in place

A bag is extended entry by entry, and an addition that fails leaves behind whatever it has put in
until then. As every source is read to its end before the first entry is put in, a failure leaves
the bag as it was. No addition replaces an entry, and one that succeeded has nothing left to add.

## Main definitions

* `Params.Addition` - the ways to extend a bag, as values by `extend` and in place by `update`
* `Params.Conservative` - what an addition keeps

## Main statements

* `Params.Addition.run_update` - in place, an addition does what it does to bags as values
* `Params.Addition.exists_extend_eq_map` - an addition merges the same members into every bag, or
  fails for every bag
* `Params.conservative_after` - additions are conservative, whatever was added before
-/

namespace RequestBinding.Members

/-- Sorted members have one place for each key, so nothing is replaced when they are put in. -/
theorem ofList_of_sorted {α : Type} {ms : List (String × α)} (h : Sorted ms) : ofList ms = ms := by
  refine ext (sorted_ofList ms) h fun k => ?_
  rw [get?_ofList]
  cases hfind : ms.reverse.find? (·.1 == k) with
  | none =>
    refine (get?_eq_none fun m hm heq => ?_).symm
    exact List.find?_eq_none.1 hfind m (List.mem_reverse.2 hm) (beq_iff_eq.2 heq)
  | some m =>
    have hmem : m ∈ ms := List.mem_reverse.1 (List.mem_of_find?_eq_some hfind)
    have hkey : m.1 = k := by simpa using List.find?_some hfind
    rw [← hkey, get?_of_mem h hmem, Option.map_some]

end RequestBinding.Members

namespace RequestBinding.Params

/-- Bags are told by their entries. -/
theorem eq_of_entries {p q : Params} (h : p.entries = q.entries) : p = q := by
  obtain ⟨entries, _⟩ := p
  obtain ⟨entries', _⟩ := q
  obtain rfl : entries = entries' := h
  rfl

/-- Bags are told by looking keys up. -/
theorem eq_of_get? {p q : Params} (h : ∀ k, p.get? k = q.get? k) : p = q :=
  eq_of_entries (Members.ext p.sorted q.sorted h)

theorem insertMissing_eq (p : Params) (k : String) (v : Json) :
    p.insertMissing k v = if p.contains k then p else p.insert k v := by
  split
  · next h => exact eq_of_entries (if_pos h)
  · next h => exact eq_of_entries (if_neg h)

/-- Merging the same members again adds nothing. -/
theorem mergeMissing_mergeMissing (p : Params) (ms : List (String × Json)) :
    (p.mergeMissing ms).mergeMissing ms = p.mergeMissing ms := by
  refine eq_of_get? fun k => ?_
  rw [get?_mergeMissing, get?_mergeMissing, Option.or_assoc, Option.or_self]

/-- An entry that is there stays when members are merged. -/
theorem get?_mergeMissing_of_some {p : Params} {k : String} {v : Json} (h : p.get? k = some v)
    (ms : List (String × Json)) : (p.mergeMissing ms).get? k = some v := by
  rw [get?_mergeMissing, h, Option.some_or]

/-! ## Changes in place -/

namespace Update

theorem run_insert (k : String) (v : Json) (p : Params) :
    (insert k v).run p = .ok (p.get? k) (p.insert k v) := rfl

theorem run_insertMissing (k : String) (v : Json) (p : Params) :
    (insertMissing k v).run p = .ok (!p.contains k) (p.insertMissing k v) := by
  rw [insertMissing, EStateM.run_bind, EStateM.run_get, insertMissing_eq]
  cases h : p.contains k with
  | true =>
    simp only [h]
    rfl
  | false =>
    simp only [h, Bool.false_eq_true, if_false, EStateM.run_bind, run_insert]
    rfl

theorem run_mergeMissing (ms : List (String × Json)) (p : Params) :
    (mergeMissing ms).run p = .ok () (p.mergeMissing ms) := by
  induction ms generalizing p with
  | nil => rfl
  | cons m ms ih =>
    rw [mergeMissing, EStateM.run_bind, run_insertMissing]
    exact ih _

/-- What an operation on bags as values leaves in place: the bag that it gives, or the bag of before
if it fails. -/
def ofExcept (p : Params) : Except BodyFault Params → EStateM.Result BodyFault Params Unit
  | .ok q => .ok () q
  | .error fault => .error fault p

theorem run_extendForm (body : List UInt8) (p : Params) :
    (extendForm body).run p = ofExcept p (p.extendForm body) := by
  rw [extendForm, Params.extendForm]
  cases Utf8.decode body with
  | ok _ => exact run_mergeMissing _ p
  | error fault => rfl

theorem run_extendJson (body : List UInt8) (p : Params) :
    (extendJson body).run p = ofExcept p (p.extendJson body) := by
  rw [extendJson, Params.extendJson]
  split
  · rfl
  · cases Json.readBytes body with
    | none => rfl
    | some v =>
      cases v with
      | obj members => exact run_mergeMissing members p
      | _ => rfl

end Update

/-! ## Additions -/

/-- An addition to a bag. -/
inductive Addition where
  | entry (k : String) (v : Json)
  | entries (ms : List (String × Json))
  | query (text : String)
  | form (body : List UInt8)
  | json (body : List UInt8)

namespace Addition

/-- The bag with an addition. -/
def extend (a : Addition) (p : Params) : Except BodyFault Params :=
  match a with
  | .entry k v => .ok (p.insertMissing k v)
  | .entries ms => .ok (p.mergeMissing ms)
  | .query text => .ok (p.extendQuery text)
  | .form body => p.extendForm body
  | .json body => p.extendJson body

/-- The addition in place. -/
def update : Addition → Update Unit
  | .entry k v => do
    let _ ← Update.insertMissing k v
  | .entries ms => Update.mergeMissing ms
  | .query text => Update.extendQuery text
  | .form body => Update.extendForm body
  | .json body => Update.extendJson body

/-- The bag that an addition leaves in place. -/
def after (a : Addition) (p : Params) : Params :=
  match a.update.run p with
  | .ok _ q => q
  | .error _ q => q

/-- In place, an addition leaves the bag that it gives as a value, or the bag of before. -/
theorem run_update (a : Addition) (p : Params) :
    a.update.run p = Update.ofExcept p (a.extend p) := by
  cases a with
  | entry k v =>
    rw [update, EStateM.run_bind, Update.run_insertMissing]
    rfl
  | entries ms => exact Update.run_mergeMissing ms p
  | query text => exact Update.run_mergeMissing _ p
  | form body => exact Update.run_extendForm body p
  | json body => exact Update.run_extendJson body p

/-- An addition merges the same members into every bag, or fails for every bag. -/
theorem exists_extend_eq_map (a : Addition) : ∃ ms : Except BodyFault (List (String × Json)),
    ∀ p, a.extend p = ms.map p.mergeMissing := by
  cases a with
  | entry k v => exact ⟨.ok [(k, v)], fun _ => rfl⟩
  | entries ms => exact ⟨.ok ms, fun _ => rfl⟩
  | query text => exact ⟨.ok (Brackets.members (Form.pairs (Utf8.encode text))), fun _ => rfl⟩
  | form body => exact Body.extend_eq_map (.form body)
  | json body => exact Body.extend_eq_map (.json body)

end Addition

/-- What an addition to a bag keeps. In place it does what it does to the bag as a value. -/
structure Conservative (a : Addition) (p : Params) : Prop where
  agrees : a.update.run p = Update.ofExcept p (a.extend p)
  /-- The entries that are there stay. -/
  kept : ∀ k v, p.get? k = some v → (a.after p).get? k = some v
  /-- Only gaps are filled, with the entries that the addition gives to the empty bag. -/
  filled : ∀ q, a.update.run p = .ok () q →
    ∃ alone, a.extend .empty = .ok alone ∧ ∀ k, q.get? k = (p.get? k).or (alone.get? k)
  /-- A failure leaves the bag as it was. -/
  failed : ∀ fault q, a.update.run p = .error fault q → q = p
  /-- After a success, the addition succeeds again and changes nothing. -/
  repeated : ∀ q, a.update.run p = .ok () q → a.update.run q = .ok () q

theorem conservative (a : Addition) (p : Params) : Conservative a p := by
  obtain ⟨ms, hms⟩ := a.exists_extend_eq_map
  have hrun : ∀ q, a.update.run q = Update.ofExcept q (ms.map q.mergeMissing) := fun q => by
    rw [a.run_update, hms]
  cases ms with
  | ok ms =>
    refine ⟨a.run_update p, fun k v h => ?_, fun q h => ?_, fun fault q h => ?_, fun q h => ?_⟩
    · rw [Addition.after, hrun]
      exact get?_mergeMissing_of_some h ms
    · rw [hrun] at h
      cases h
      refine ⟨_, hms .empty, fun k => ?_⟩
      rw [get?_mergeMissing, get?_empty_mergeMissing]
    · rw [hrun] at h
      cases h
    · rw [hrun] at h
      cases h
      rw [hrun, Except.map, mergeMissing_mergeMissing]
      rfl
  | error fault =>
    refine ⟨a.run_update p, fun k v h => ?_, fun q h => ?_, fun fault q h => ?_, fun q h => ?_⟩
    · rw [Addition.after, hrun]
      exact h
    · rw [hrun] at h
      cases h
    · rw [hrun] at h
      cases h
      rfl
    · rw [hrun] at h
      cases h

/-! ## Several additions -/

/-- The bag after several additions in place, each of which may have failed. -/
def extended (p : Params) (as : List Addition) : Params := as.foldl (fun p a => a.after p) p

theorem get?_extended {p : Params} {k : String} {v : Json} (h : p.get? k = some v)
    (as : List Addition) : (p.extended as).get? k = some v := by
  induction as generalizing p with
  | nil => exact h
  | cons a as ih => exact ih ((conservative a p).kept k v h)

/-- After any additions to a bag, a further one keeps what is there, leaves the bag as it was if it
fails, and adds nothing the second time. So every entry stays to the end. -/
theorem conservative_after (p : Params) (before : List Addition) (a : Addition)
    (later : List Addition) : Conservative a (p.extended before) ∧
      ∀ k v, (p.extended before).get? k = some v →
        (p.extended (before ++ a :: later)).get? k = some v := by
  refine ⟨conservative a _, fun k v h => ?_⟩
  rw [extended, List.foldl_append]
  exact get?_extended h (a :: later)

end RequestBinding.Params
