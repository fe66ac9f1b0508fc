import RequestBinding.Proofs.Json.Doubles

/-!
# What is read

A value that is read has no more containers within each other than are allowed, its integers have 64
bits, and its doubles are proper. So its text can be read again.

## Main definitions

* `Json.Received` - such values

## Main statements

* `Json.Received.numbersAre` - the numbers of received values are legible
* `Json.received_of_value`, `Json.received_of_readBytes` - what is read is received
-/

namespace RequestBinding.Json

/-! ## Received values -/

/-- What may be received: integers of 64 bits, proper doubles, and at most some containers within
each other. -/
inductive Received : Nat → Json → Prop
  | null (n : Nat) : Received n .null
  | bool (n : Nat) (b : Bool) : Received n (.bool b)
  | int (n : Nat) {i : Int} (h : IsInt64 i) : Received n (.int i)
  | float (n : Nat) {x : Binary64} (h : x.Proper) : Received n (.float x)
  | str (n : Nat) (s : String) : Received n (.str s)
  | arr {n : Nat} {items : List Json} (h : ∀ v ∈ items, Received n v) :
      Received (n + 1) (.arr items)
  | obj {n : Nat} {members : List (String × Json)} (h : ∀ m ∈ members, Received n m.2) :
      Received (n + 1) (.obj members)

namespace Received

variable {n : Nat} {v : Json}

theorem mono {n' : Nat} (h : Received n v) (hle : n ≤ n') : Received n' v := by
  induction h generalizing n' with
  | null => exact .null n'
  | bool _ b => exact .bool n' b
  | int _ h => exact .int n' h
  | float _ h => exact .float n' h
  | str _ s => exact .str n' s
  | arr _ ih =>
    obtain ⟨k, rfl⟩ := Nat.exists_eq_add_of_le' (Nat.le_of_add_left_le hle)
    exact .arr fun v hv => ih v hv (by omega)
  | obj _ ih =>
    obtain ⟨k, rfl⟩ := Nat.exists_eq_add_of_le' (Nat.le_of_add_left_le hle)
    exact .obj fun m hm => ih m hm (by omega)

theorem depth_le (h : Received n v) : v.depth ≤ n := by
  induction h with
  | arr _ ih => exact Nat.succ_le_succ (depthItems_le_iff.2 ih)
  | obj _ ih => exact Nat.succ_le_succ (depthMembers_le_iff.2 ih)
  | _ => exact Nat.zero_le _

theorem numbersAre (h : Received n v) : v.NumbersAre IsInt64 Legible := by
  induction h with
  | null => exact .null
  | bool _ b => exact .bool b
  | int _ h => exact .int h
  | float _ h => exact .float (legible_of_proper h)
  | str _ s => exact .str s
  | arr _ ih => exact .arr ih
  | obj _ ih => exact .obj ih

theorem of_mem_arr {items : List Json} (h : Received (n + 1) (.arr items)) :
    ∀ v ∈ items, Received n v := by
  cases h with
  | arr h => exact h

theorem of_mem_obj {members : List (String × Json)} (h : Received (n + 1) (.obj members)) :
    ∀ m ∈ members, Received n m.2 := by
  cases h with
  | obj h => exact h

end Received

/-! ## Reading -/

section Items

variable {α : Type} {item : List Char → Read α} {P : α → Prop} {close : Char}
  {cs rest : List Char} {vs : List α}

/-- What holds of each entry that is read holds of the entries behind the first one. -/
theorem forall_of_itemsTail (hitem : ∀ {cs v rest}, item cs = some (v, rest) → P v)
    (h : itemsTail item close cs = some (vs, rest)) : ∀ v ∈ vs, P v := by
  induction hlength : cs.length using Nat.strongRecOn generalizing cs vs with
  | _ length ih =>
    obtain ⟨_, -, ⟨rfl, -⟩ | ⟨_, v, after, vs', rfl, -, hv, hlt, htail⟩⟩ := exists_of_itemsTail h
    · nofun
    · exact List.forall_mem_cons.2 ⟨hitem hv, ih _ (hlength ▸ hlt) htail rfl⟩

/-- What holds of each entry that is read holds of the items of a container. -/
theorem forall_of_items (hitem : ∀ {cs v rest}, item cs = some (v, rest) → P v)
    (h : items item close cs = some (vs, rest)) : ∀ v ∈ vs, P v := by
  obtain ⟨rfl, -⟩ | ⟨v, after, vs', rfl, hv, htail⟩ := exists_of_items h
  · nofun
  · exact List.forall_mem_cons.2 ⟨hitem hv, forall_of_itemsTail hitem htail⟩

theorem exists_value_of_member {value : List Char → Read Json} {m : String × Json}
    (h : member value cs = some (m, rest)) : ∃ cs', value cs' = some (m.2, rest) := by
  unfold member at h
  split at h
  · split at h
    · cases h
    · split at h
      · split at h
        · next hvalue =>
          cases h
          exact ⟨_, hvalue⟩
        · cases h
      · cases h
  · cases h

end Items

/-! ## Numbers -/

theorem received_wholeNumber (n : Nat) (negative : Bool) {m : Nat} (hm : m ≤ significandMax) :
    Received n (wholeNumber negative m) := by
  rw [significandMax] at hm
  rw [wholeNumber]
  split
  · refine .int n ⟨?_, ?_⟩
    · rw [int64Min]
      omega
    · rw [uint64Max]
      omega
  · split
    · cases hx : Binary64.ofRatio true m 1 with
      | none => exact .float n (Binary64.proper_zero true)
      | some x => exact .float n (Binary64.proper_ofRatio Nat.one_pos hx)
    · next hsmall =>
      simp only [Bool.or_eq_true, decide_eq_true_eq, not_or] at hsmall
      refine .int n ⟨?_, ?_⟩
      · rw [int64Min]
        omega
      · rw [uint64Max]
        omega

/-- Numbers that are read from digits are received. -/
theorem FromDigits.received {negative : Bool} {v : Json} (h : FromDigits negative v) (n : Nat) :
    Received n v := by
  cases h with
  | whole hm => exact received_wholeNumber n negative hm
  | zero => exact .float n (Binary64.proper_zero negative)
  | decimal hm hx => exact .float n (Binary64.proper_ofDecimal (Nat.lt_succ_of_le hm) hx)

/-- What is read as a value is received if the values within it are. -/
theorem received_of_value_succ {levels : Nat}
    (ih : ∀ n, levels = n + 1 → ∀ {cs v rest}, value n cs = some (v, rest) → Received n v)
    {cs rest : List Char} {v : Json} (h : value levels cs = some (v, rest)) :
    Received levels v := by
  unfold value at h
  split at h
  · rw [(exists_of_word h).1]
    exact .null levels
  · rw [(exists_of_word h).1]
    exact .bool levels true
  · rw [(exists_of_word h).1]
    exact .bool levels false
  · obtain ⟨_, -, heq⟩ := Option.map_eq_some_iff.1 h
    cases heq
    exact .str levels _
  · exact (exists_literal_of_number h).1.received levels
  · split at h
    · cases h
    · next n =>
      obtain ⟨_, hitems, heq⟩ := Option.map_eq_some_iff.1 h
      cases heq
      exact .arr (forall_of_items (ih n rfl) hitems)
  · split at h
    · cases h
    · next n =>
      obtain ⟨_, hitems, heq⟩ := Option.map_eq_some_iff.1 h
      cases heq
      refine .obj (forall_of_items (fun hmember => ?_) hitems)
      obtain ⟨_, hvalue⟩ := exists_value_of_member hmember
      exact ih n rfl hvalue
  · exact (exists_literal_of_number h).1.received levels

/-- What is read as a value is received. -/
theorem received_of_value {levels : Nat} {cs rest : List Char} {v : Json}
    (h : value levels cs = some (v, rest)) : Received levels v := by
  induction levels generalizing cs rest v with
  | zero => exact received_of_value_succ (fun n hn => absurd hn (Nat.zero_ne_add_one n)) h
  | succ n ih =>
    refine received_of_value_succ (fun k hk => ?_) h
    obtain rfl := Nat.succ.inj hk
    exact ih

theorem canonicalItems_eq (items : List Json) : canonicalItems items = items.map canonical := by
  induction items with
  | nil => rw [canonicalItems, List.map_nil]
  | cons v rest ih => rw [canonicalItems, ih, List.map_cons]

theorem canonicalMembers_eq (members : List (String × Json)) :
    canonicalMembers members = members.map fun m => (m.1, m.2.canonical) := by
  induction members with
  | nil => rw [canonicalMembers, List.map_nil]
  | cons m rest ih => rw [canonicalMembers, ih, List.map_cons]

/-- Sorting members by key keeps what is received. -/
theorem Received.canonical {n : Nat} {v : Json} (h : Received n v) : Received n v.canonical := by
  induction h with
  | null n => exact .null n
  | bool n b => exact .bool n b
  | int n h => exact .int n h
  | float n h => exact .float n h
  | str n s => exact .str n s
  | arr _ ih =>
    rw [Json.canonical, canonicalItems_eq]
    exact .arr (List.forall_mem_map.2 ih)
  | obj _ ih =>
    rw [Json.canonical, canonicalMembers_eq]
    refine .obj fun m hm => ?_
    obtain ⟨m, hmem, rfl⟩ := List.mem_map.1 (Members.mem_of_mem_ofList hm)
    exact ih m hmem

/-- What is read from bytes is received. -/
theorem received_of_readBytes {bs : List UInt8} {v : Json} (h : readBytes bs = some v) :
    Received maxDepth v := by
  rw [readBytes] at h
  split at h
  · rw [read, readRaw] at h
    split at h
    · next hvalue =>
      split at h
      · cases h
        exact (received_of_value hvalue).canonical
      · cases h
    · cases h
  · cases h

end RequestBinding.Json
