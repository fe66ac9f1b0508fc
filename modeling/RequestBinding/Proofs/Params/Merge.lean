import RequestBinding.Binder.Body

/-!
# Merging sources into a bag

A source fills the gaps of a bag: an entry that is there stays whole, and any other entry is the one
that the source gives to the empty bag. Whether a source can be read does not depend on the bag.

## Main statements

* `Members.get?_ofList` - the last pair of a list counts
* `Params.get?_mergeMissing` - a merge fills gaps
* `Body.extend_eq_map` - a body is read by itself and then merged
* `Body.get?_extend` - the entries after a body has been added
-/

namespace RequestBinding

namespace Members

variable {α : Type}

theorem get?_foldl_put (k : String) (ps ms : List (String × α)) :
    get? k (ps.foldl (fun ms p => put p.1 p.2 ms) ms) =
      ((ps.reverse.find? (·.1 == k)).map (·.2)).or (get? k ms) := by
  induction ps generalizing ms with
  | nil => rfl
  | cons p ps ih =>
    -- the first pair is put first, so all others replace it
    rw [List.foldl_cons, ih, get?_put, List.reverse_cons, List.find?_append, Option.map_or,
      Option.or_assoc]
    by_cases hk : p.1 = k
    · simp [hk]
    · simp [hk]

/-- Of several pairs with a key, the last one is found. -/
theorem get?_ofList (k : String) (ps : List (String × α)) :
    get? k (ofList ps) = (ps.reverse.find? (·.1 == k)).map (·.2) := by
  rw [ofList, get?_foldl_put, get?, Option.or_none]

theorem get?_eq_find? (k : String) (ms : List (String × α)) :
    get? k ms = (ms.find? (·.1 == k)).map (·.2) := by
  induction ms with
  | nil => rfl
  | cons m ms ih =>
    rw [get?, List.find?_cons, ih]
    by_cases hk : m.1 = k
    · simp [hk]
    · rw [if_neg hk, beq_false_of_ne hk]

theorem get?_ofList_eq_get?_reverse (k : String) (ps : List (String × α)) :
    get? k (ofList ps) = get? k ps.reverse := by
  rw [get?_ofList, get?_eq_find?]

end Members

namespace Params

@[simp] theorem get?_empty (k : String) : empty.get? k = none := rfl

theorem get?_insertMissing (p : Params) (k k' : String) (v : Json) :
    (p.insertMissing k v).get? k' = (p.get? k').or (if k = k' then some v else none) := by
  show Members.get? k' (Members.putMissing k v p.entries) = _
  rw [Members.get?_putMissing]
  cases h : p.get? k' with
  | none =>
    have hnone : Members.get? k' p.entries = none := h
    rw [hnone, Option.none_or]
  | some w =>
    have hsome : Members.get? k' p.entries = some w := h
    rw [hsome, Option.some_or]

/-- What is in a bag stays; of the pairs that are merged, the first one with a key counts. -/
theorem get?_mergeMissing (p : Params) (ms : List (String × Json)) (k : String) :
    (p.mergeMissing ms).get? k = (p.get? k).or (Members.get? k ms) := by
  induction ms generalizing p with
  | nil => exact (Option.or_none).symm
  | cons m ms ih =>
    have hstep : p.mergeMissing (m :: ms) = (p.insertMissing m.1 m.2).mergeMissing ms := rfl
    rw [hstep, ih, get?_insertMissing, Option.or_assoc, Members.get?]
    by_cases hk : m.1 = k
    · rw [if_pos hk, if_pos hk, Option.some_or]
    · rw [if_neg hk, if_neg hk, Option.none_or]

theorem get?_empty_mergeMissing (ms : List (String × Json)) (k : String) :
    (empty.mergeMissing ms).get? k = Members.get? k ms := by
  rw [get?_mergeMissing, get?_empty, Option.none_or]

/-- A query string fills the gaps of a bag with what it gives to the empty bag. -/
theorem get?_extendQuery (p : Params) (query k : String) :
    (p.extendQuery query).get? k = (p.get? k).or ((empty.extendQuery query).get? k) := by
  rw [extendQuery, extendQuery, extendPairs, extendPairs, get?_mergeMissing,
    get?_empty_mergeMissing]

end Params

namespace Body

/-- A body either fails whatever the bag, or merges the same members into every bag. -/
theorem extend_eq_map (b : Body) : ∃ ms : Except BodyFault (List (String × Json)),
    ∀ p : Params, b.extend p = ms.map p.mergeMissing := by
  cases b with
  | json bytes =>
    show ∃ ms : Except BodyFault (List (String × Json)),
      ∀ p : Params, p.extendJson bytes = ms.map p.mergeMissing
    unfold Params.extendJson
    split
    · exact ⟨.ok [], fun p => rfl⟩
    · split
      · next members _ => exact ⟨.ok members, fun p => rfl⟩
      · next v _ _ => exact ⟨.error (.notObject v.kind), fun p => rfl⟩
      · exact ⟨.error .notJson, fun p => rfl⟩
  | form bytes =>
    show ∃ ms : Except BodyFault (List (String × Json)),
      ∀ p : Params, p.extendForm bytes = ms.map p.mergeMissing
    unfold Params.extendForm
    split
    · exact ⟨.ok (Brackets.members (Form.pairs bytes)), fun p => rfl⟩
    · next fault _ => exact ⟨.error (.notUtf8 fault), fun p => rfl⟩
  | ignored => exact ⟨.ok [], fun p => rfl⟩

/-- A body that can be added to one bag can be added to every bag, and fills its gaps with what it
gives to the empty bag. -/
theorem get?_extend {b : Body} {p p' : Params} (h : b.extend p = .ok p') :
    ∃ alone, b.extend .empty = .ok alone ∧
      ∀ q, ∃ q', b.extend q = .ok q' ∧ ∀ k, q'.get? k = (q.get? k).or (alone.get? k) := by
  obtain ⟨ms, hms⟩ := extend_eq_map b
  rw [hms] at h
  cases ms with
  | error fault => cases h
  | ok ms =>
    refine ⟨Params.empty.mergeMissing ms, hms .empty, fun q => ⟨_, hms q, fun k => ?_⟩⟩
    rw [Params.get?_mergeMissing, Params.get?_empty_mergeMissing]

end Body

end RequestBinding
