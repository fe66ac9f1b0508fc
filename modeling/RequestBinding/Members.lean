/-!
# Lists of pairs sorted by key

Objects, bags of parameters and other maps from texts are lists of pairs in strictly increasing
order of their keys. Putting a pair keeps the order and is seen by looking the key up.

## Main definitions

* `Members.get?`, `Members.put`, `Members.putMissing`, `Members.ofList` - operations
* `Members.Sorted` - strictly increasing keys

## Main statements

* `Members.sorted_put`, `Members.sorted_putMissing`, `Members.sorted_ofList` - the order is kept
* `Members.get?_put`, `Members.get?_putMissing` - what is found afterwards
-/

namespace RequestBinding.Members

variable {α : Type}

/-- The value of the first pair with a key. -/
def get? (k : String) : List (String × α) → Option α
  | [] => none
  | (k', v) :: rest => if k' = k then some v else get? k rest

/-- Whether some pair has a key. -/
def contains (k : String) (ms : List (String × α)) : Bool := (get? k ms).isSome

/-- Puts a pair in its place; a pair with the same key is replaced. -/
def put (k : String) (v : α) : List (String × α) → List (String × α)
  | [] => [(k, v)]
  | (k', v') :: rest =>
    if k' = k then (k, v) :: rest
    else if k < k' then (k, v) :: (k', v') :: rest
    else (k', v') :: put k v rest

/-- Puts a pair in its place unless its key is there already. -/
def putMissing (k : String) (v : α) (ms : List (String × α)) : List (String × α) :=
  if contains k ms then ms else put k v ms

/-- Puts all pairs of a list, a later one replacing an earlier one with the same key. -/
def ofList (ps : List (String × α)) : List (String × α) :=
  ps.foldl (fun ms p => put p.1 p.2 ms) []

/-- The keys stand in strictly increasing order. -/
def Sorted (ms : List (String × α)) : Prop := ms.Pairwise fun a b => a.1 < b.1

/-! ## The order -/

theorem sorted_nil : Sorted ([] : List (String × α)) := List.Pairwise.nil

/-- A pair of the result is the one that was put or one that was there. -/
theorem mem_put {k : String} {v : α} {ms : List (String × α)} {p : String × α}
    (h : p ∈ put k v ms) : p = (k, v) ∨ p ∈ ms := by
  induction ms with
  | nil => simp [put] at h; exact Or.inl h
  | cons m rest ih =>
    obtain ⟨k', v'⟩ := m
    simp only [put] at h
    split at h
    · rcases List.mem_cons.1 h with h | h
      · exact Or.inl h
      · exact Or.inr (List.mem_cons_of_mem _ h)
    · split at h
      · rcases List.mem_cons.1 h with h | h
        · exact Or.inl h
        · exact Or.inr h
      · rcases List.mem_cons.1 h with h | h
        · exact Or.inr (h ▸ List.mem_cons_self ..)
        · exact (ih h).imp id (List.mem_cons_of_mem _)

/-- Whatever is in the result of putting several pairs is one of them or was there. -/
theorem mem_foldl_put {ps ms : List (String × α)} {p : String × α}
    (h : p ∈ ps.foldl (fun ms p => put p.1 p.2 ms) ms) : p ∈ ps ∨ p ∈ ms := by
  induction ps generalizing ms with
  | nil => exact Or.inr h
  | cons q rest ih =>
    rcases ih h with h | h
    · exact Or.inl (List.mem_cons_of_mem _ h)
    · rcases mem_put h with rfl | h
      · exact Or.inl (List.mem_cons_self ..)
      · exact Or.inr h

theorem mem_of_mem_ofList {ps : List (String × α)} {p : String × α} (h : p ∈ ofList ps) :
    p ∈ ps :=
  (mem_foldl_put h).resolve_right nofun

/-- Of two different texts that do not stand in order, the other order holds. -/
theorem lt_of_ne_of_not_lt {a b : String} (hne : a ≠ b) (h : ¬ b < a) : a < b := by
  by_cases hlt : a < b
  · exact hlt
  · exact absurd (String.le_antisymm h hlt) hne

theorem sorted_put {k : String} {v : α} {ms : List (String × α)} (h : Sorted ms) :
    Sorted (put k v ms) := by
  induction ms with
  | nil => simp [put, Sorted]
  | cons m rest ih =>
    obtain ⟨k', v'⟩ := m
    obtain ⟨hfirst, hrest⟩ := List.pairwise_cons.1 h
    simp only [put]
    split
    · next heq => exact List.pairwise_cons.2 ⟨fun p hp => heq ▸ hfirst p hp, hrest⟩
    · next hne =>
      split
      · next hlt =>
        refine List.pairwise_cons.2 ⟨fun p hp => ?_, h⟩
        rcases List.mem_cons.1 hp with rfl | hp
        · exact hlt
        · exact String.lt_trans hlt (hfirst p hp)
      · next hnlt =>
        refine List.pairwise_cons.2 ⟨fun p hp => ?_, ih hrest⟩
        rcases mem_put hp with rfl | hp
        · exact lt_of_ne_of_not_lt hne hnlt
        · exact hfirst p hp

theorem sorted_putMissing {k : String} {v : α} {ms : List (String × α)} (h : Sorted ms) :
    Sorted (putMissing k v ms) := by
  unfold putMissing
  split
  · exact h
  · exact sorted_put h

theorem sorted_foldl_put {ps : List (String × α)} {ms : List (String × α)} (h : Sorted ms) :
    Sorted (ps.foldl (fun ms p => put p.1 p.2 ms) ms) := by
  induction ps generalizing ms with
  | nil => exact h
  | cons p rest ih => exact ih (sorted_put h)

theorem sorted_ofList (ps : List (String × α)) : Sorted (ofList ps) :=
  sorted_foldl_put sorted_nil

/-! ## Looking up -/

theorem get?_put {k k' : String} {v : α} {ms : List (String × α)} :
    get? k' (put k v ms) = if k = k' then some v else get? k' ms := by
  induction ms with
  | nil => simp [put, get?]
  | cons m rest ih =>
    obtain ⟨k₁, v₁⟩ := m
    simp only [put]
    split
    · next heq => subst heq; simp only [get?]; split <;> rfl
    · split
      · simp only [get?]
      · next hne _ =>
        simp only [get?, ih]
        split
        · next h => subst h; simp [Ne.symm hne]
        · rfl

theorem get?_putMissing {k k' : String} {v : α} {ms : List (String × α)} :
    get? k' (putMissing k v ms) =
      match get? k' ms with
      | some w => some w
      | none => if k = k' then some v else none := by
  unfold putMissing contains
  by_cases hkk : k = k'
  · subst hkk
    cases h : get? k ms with
    | none => simp [get?_put]
    | some w => simp [h]
  · split
    · cases get? k' ms <;> simp
    · rw [get?_put, if_neg hkk]
      cases get? k' ms <;> simp

end RequestBinding.Members
