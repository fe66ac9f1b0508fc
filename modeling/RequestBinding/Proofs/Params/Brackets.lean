import Mathlib.Data.List.Basic
import RequestBinding.Params.Brackets
import RequestBinding.Proofs.Text.Cutting

/-!
# Trees as keys with brackets

A tree of texts, lists of texts and objects has one leaf for each text in it. The path of a leaf is
written as a key with brackets. Putting the leaves of a tree in gives the tree back, in whatever
order they come as long as those of each list stay in order.

## Main definitions

* `Brackets.IsTree`, `Brackets.IsForest` - the trees that can be written with brackets
* `Brackets.leavesOf`, `Brackets.leavesOfMembers` - their leaves
* `Brackets.Reorders` - other orders of leaves
* `Brackets.fill` - what a leaf does to the place where it is put

## Main statements

* `Members.ext` - sorted members are told by looking them up
* `Brackets.split_spell` - keys with brackets are read as they are spelled
* `Brackets.get?_insert` - putting a leaf in only changes one place
* `Brackets.members_map_pairOf` - the leaves of a forest build it
-/

namespace RequestBinding

/-! ## Sorted members -/

namespace Members

variable {α : Type} {ms ns : List (String × α)}

theorem mem_of_get? {k : String} {v : α} (h : get? k ms = some v) : (k, v) ∈ ms := by
  induction ms with
  | nil => cases h
  | cons m ms ih =>
    rw [get?] at h
    split at h
    · next heq =>
      cases h
      rw [← heq]
      exact List.mem_cons_self
    · exact List.mem_cons_of_mem m (ih h)

theorem get?_eq_none {k : String} (h : ∀ m ∈ ms, m.1 ≠ k) : get? k ms = none := by
  cases hget : get? k ms with
  | none => rfl
  | some v => exact absurd rfl (h _ (mem_of_get? hget))

theorem ne_of_sorted_cons {m n : String × α} (h : Sorted (m :: ms)) (hn : n ∈ ms) : n.1 ≠ m.1 :=
  fun heq => String.lt_irrefl m.1 (heq ▸ (List.pairwise_cons.1 h).1 n hn)

/-- If no two members have one key, looking a key up finds the member that has it. -/
theorem get?_eq_some_iff (h : (ms.map (·.1)).Nodup) {k : String} {v : α} :
    get? k ms = some v ↔ (k, v) ∈ ms := by
  refine ⟨mem_of_get?, fun hmem => ?_⟩
  induction ms with
  | nil => cases hmem
  | cons m ms ih =>
    obtain ⟨hfirst, hrest⟩ := List.nodup_cons.1 h
    rw [get?]
    rcases List.mem_cons.1 hmem with rfl | hin
    · rw [if_pos rfl]
    · rw [if_neg, ih hrest hin]
      rintro rfl
      exact hfirst (List.mem_map.2 ⟨_, hin, rfl⟩)

theorem nodup_of_sorted (h : Sorted ms) : (ms.map (·.1)).Nodup :=
  List.pairwise_map.2 (List.Pairwise.imp (fun hlt => String.ne_of_lt hlt) h)

theorem get?_of_mem (h : Sorted ms) {k : String} {v : α} (hmem : (k, v) ∈ ms) :
    get? k ms = some v := (get?_eq_some_iff (nodup_of_sorted h)).2 hmem

/-- Sorted members are told by what is found in them. -/
theorem ext (hm : Sorted ms) (hn : Sorted ns) (h : ∀ k, get? k ms = get? k ns) : ms = ns := by
  induction ms generalizing ns with
  | nil =>
    cases ns with
    | nil => rfl
    | cons n ns =>
      have hget := h n.1
      rw [get?_of_mem hn List.mem_cons_self] at hget
      cases hget
  | cons m ms ih =>
    have hfirst : m ∈ ns := mem_of_get? (h m.1 ▸ get?_of_mem hm List.mem_cons_self)
    cases ns with
    | nil => cases hfirst
    | cons n ns =>
      have hfirst' : n ∈ m :: ms := mem_of_get? (h n.1 ▸ get?_of_mem hn List.mem_cons_self)
      -- each of the two first members is the other one, as neither can stand behind it
      obtain rfl : m = n := by
        rcases List.mem_cons.1 hfirst with heq | hin
        · exact heq
        rcases List.mem_cons.1 hfirst' with heq | hin'
        · exact heq.symm
        exact absurd ((List.pairwise_cons.1 hn).1 m hin)
          (String.lt_asymm ((List.pairwise_cons.1 hm).1 n hin'))
      refine congrArg (m :: ·) (ih (List.pairwise_cons.1 hm).2 (List.pairwise_cons.1 hn).2 ?_)
      intro k
      by_cases hk : m.1 = k
      · rw [get?_eq_none fun p hp => hk ▸ ne_of_sorted_cons hm hp,
          get?_eq_none fun p hp => hk ▸ ne_of_sorted_cons hn hp]
      · have hget := h k
        rw [get?, if_neg hk, get?, if_neg hk] at hget
        exact hget

end Members

namespace Brackets

/-! ## Keys -/

theorem components_inner (inner : List Char) {c : List Char} (h : ']' ∉ c) (rest : List Char) :
    components (some inner) (c ++ ']' :: rest) =
      (components none rest).map ((inner.reverse ++ c) :: ·) := by
  induction c generalizing inner with
  | nil => simp [components]
  | cons x c ih =>
    obtain ⟨hx, hc⟩ := not_or.1 (mt List.mem_cons.2 h)
    rw [List.cons_append, components, if_neg (by simpa using Ne.symm hx), ih _ hc]
    simp

theorem components_flatMap {path : List (List Char)} (h : ∀ c ∈ path, ']' ∉ c) :
    components none (path.flatMap fun c => '[' :: (c ++ [']'])) = some path := by
  induction path with
  | nil => rfl
  | cons c path ih =>
    obtain ⟨hc, hpath⟩ := List.forall_mem_cons.1 h
    rw [List.flatMap_cons, List.cons_append, components, if_pos (by rfl), List.append_assoc,
      List.singleton_append, components_inner [] hc, ih hpath]
    rfl

theorem splitChars_spellChars {base : List Char} {path : List (List Char)} (hne : base ≠ [])
    (hbase : '[' ∉ base) (hpath : ∀ c ∈ path, ']' ∉ c) :
    splitChars (spellChars base path) = (base, path) := by
  -- the first bracket ends the base
  have hstop : ∀ c ∈ (path.flatMap fun c => '[' :: (c ++ [']'])).head?, c = '[' := by
    cases path <;> simp
  obtain ⟨htake, hdrop⟩ := takeWhile_bne_append hbase hstop
  rw [splitChars, spellChars, htake, hdrop, components_flatMap hpath]
  cases base with
  | nil => exact absurd rfl hne
  | cons c base => rfl

/-- A key is read as it is spelled, if its base has no opening bracket and its components no closing
one. -/
theorem split_spell {base : String} {path : List String} (hne : base ≠ "")
    (hbase : '[' ∉ base.toList) (hpath : ∀ c ∈ path, ']' ∉ c.toList) :
    split (spell base path) = (base, path) := by
  have hchars : splitChars (spellChars base.toList (path.map String.toList)) =
      (base.toList, path.map String.toList) := by
    refine splitChars_spellChars ?_ hbase ?_
    · simpa using hne
    · simpa using hpath
  rw [split, spell, String.toList_ofList, hchars]
  simp [Function.comp_def]

/-! ## Places -/

/-- What a text does to the place under a key, by way of the components behind the key. -/
def fill (place : Option Json) (path : List String) (value : String) : Option Json :=
  match path with
  | [] => some (.str value)
  | next :: rest =>
    if next = "" then
      match place with
      | none => some (.arr [.str value])
      | some (.arr items) => some (.arr (items ++ [.str value]))
      | some v => some v
    else
      match place with
      | none => some (.obj (insert [] next rest value))
      | some (.obj child) => some (.obj (insert child next rest value))
      | some v => some v

/-- Putting a text in changes the place under its key alone. -/
theorem get?_insert (ms : List (String × Json)) (key : String) (path : List String)
    (value k : String) : Members.get? k (insert ms key path value) =
      if key = k then fill (Members.get? key ms) path value else Members.get? k ms := by
  cases path with
  | nil =>
    rw [insert, Members.get?_put]
    rfl
  | cons next rest =>
    rw [insert, fill.eq_def]
    simp only
    -- where nothing is put, the place keeps what it has
    have hsame : ∀ v, Members.get? key ms = some v →
        Members.get? k ms = if key = k then some v else Members.get? k ms := by
      intro v hv
      split
      · next heq => rw [← heq, hv]
      · rfl
    split
    · cases hget : Members.get? key ms with
      | none => exact Members.get?_put
      | some v =>
        cases v with
        | arr items => exact Members.get?_put
        | _ => exact hsame _ hget
    · cases hget : Members.get? key ms with
      | none => exact Members.get?_put
      | some v =>
        cases v with
        | obj child => exact Members.get?_put
        | _ => exact hsame _ hget

theorem sorted_insert {ms : List (String × Json)} (h : Members.Sorted ms) (key : String)
    (path : List String) (value : String) : Members.Sorted (insert ms key path value) := by
  cases path with
  | nil => exact Members.sorted_put h
  | cons next rest =>
    rw [insert]
    split
    · split
      · exact Members.sorted_put h
      · exact Members.sorted_put h
      · exact h
    · split
      · exact Members.sorted_put h
      · exact Members.sorted_put h
      · exact h

/-! ## Leaves -/

/-- A text with the keys that lead to it, the outermost first; the last one is empty in a list. -/
abbrev Leaf := List String × String

/-- Puts a leaf in. -/
def insertLeaf (ms : List (String × Json)) (leaf : Leaf) : List (String × Json) :=
  match leaf.1 with
  | [] => ms
  | base :: path => insert ms base path leaf.2

/-- The leaves below a key. -/
def below (k : String) (leaves : List Leaf) : List Leaf :=
  leaves.filterMap fun leaf =>
    match leaf.1 with
    | [] => none
    | base :: path => if base = k then some (path, leaf.2) else none

/-- What several leaves do to a place one after the other. -/
def fillAll (place : Option Json) (leaves : List Leaf) : Option Json :=
  leaves.foldl (fun place leaf => fill place leaf.1 leaf.2) place

theorem sorted_foldl_insertLeaf {ms : List (String × Json)} (h : Members.Sorted ms)
    (leaves : List Leaf) : Members.Sorted (leaves.foldl insertLeaf ms) := by
  induction leaves generalizing ms with
  | nil => exact h
  | cons leaf leaves ih =>
    refine ih ?_
    unfold insertLeaf
    split
    · exact h
    · exact sorted_insert h _ _ _

/-- The leaves below a key decide on the place under it. -/
theorem get?_foldl_insertLeaf (k : String) (ms : List (String × Json)) (leaves : List Leaf) :
    Members.get? k (leaves.foldl insertLeaf ms) = fillAll (Members.get? k ms) (below k leaves) := by
  induction leaves generalizing ms with
  | nil => rfl
  | cons leaf leaves ih =>
    obtain ⟨path, value⟩ := leaf
    rw [List.foldl_cons, ih]
    cases path with
    | nil => rfl
    | cons base path =>
      rw [insertLeaf, get?_insert]
      by_cases hk : base = k
      · subst hk
        simp [below, fillAll]
      · simp [below, hk]

theorem mem_below {k : String} {leaves : List Leaf} {path : List String} {value : String} :
    (path, value) ∈ below k leaves ↔ (k :: path, value) ∈ leaves := by
  rw [below, List.mem_filterMap]
  constructor
  · rintro ⟨⟨full, v⟩, hmem, h⟩
    cases full with
    | nil => cases h
    | cons base rest =>
      simp only [Option.ite_none_right_eq_some] at h
      obtain ⟨rfl, h⟩ := h
      cases h
      exact hmem
  · intro hmem
    exact ⟨_, hmem, if_pos rfl⟩

/-! ## Orders -/

/-- The same leaves in another order, where those with the same path keep theirs. -/
def Reorders (qs leaves : List Leaf) : Prop :=
  ∀ path, qs.filter (·.1 == path) = leaves.filter (·.1 == path)

theorem Reorders.mem_iff {qs leaves : List Leaf} (h : Reorders qs leaves) (leaf : Leaf) :
    leaf ∈ qs ↔ leaf ∈ leaves := by
  have hfilter : ∀ ls : List Leaf, leaf ∈ ls.filter (·.1 == leaf.1) ↔ leaf ∈ ls := by
    simp [List.mem_filter]
  rw [← hfilter qs, h, hfilter]

/-- Only the paths that occur matter. -/
theorem reorders_iff {qs leaves : List Leaf} : Reorders qs leaves ↔
    ∀ leaf ∈ qs ++ leaves, qs.filter (·.1 == leaf.1) = leaves.filter (·.1 == leaf.1) := by
  refine ⟨fun h leaf _ => h leaf.1, fun h path => ?_⟩
  by_cases hpath : ∃ leaf ∈ qs ++ leaves, leaf.1 = path
  · obtain ⟨leaf, hleaf, rfl⟩ := hpath
    exact h leaf hleaf
  · have hnone : ∀ ls : List Leaf, (∀ leaf ∈ ls, leaf ∈ qs ++ leaves) →
        ls.filter (·.1 == path) = [] := by
      intro ls hls
      rw [List.filter_eq_nil_iff]
      exact fun leaf hleaf heq => hpath ⟨leaf, hls leaf hleaf, beq_iff_eq.1 heq⟩
    rw [hnone qs fun leaf => List.mem_append_left leaves,
      hnone leaves fun leaf => List.mem_append_right qs]

instance (qs leaves : List Leaf) : Decidable (Reorders qs leaves) :=
  decidable_of_iff _ reorders_iff.symm

theorem filter_below (k : String) (path : List String) (leaves : List Leaf) :
    (below k leaves).filter (·.1 == path) =
      (leaves.filter (·.1 == k :: path)).map fun leaf => (leaf.1.tail, leaf.2) := by
  induction leaves with
  | nil => rfl
  | cons leaf leaves ih =>
    obtain ⟨full, value⟩ := leaf
    have hbelow : below k ((full, value) :: leaves) =
        (match full with
          | [] => []
          | base :: rest => if base = k then [(rest, value)] else []) ++ below k leaves := by
      cases full with
      | nil => rfl
      | cons base rest =>
        simp only [below, List.filterMap_cons]
        split <;> simp_all
    rw [hbelow, List.filter_append, ih]
    cases full with
    | nil => simp
    | cons base rest =>
      by_cases hbase : base = k
      · subst hbase
        by_cases hrest : rest = path
        · subst hrest
          simp
        · simp [hrest]
      · simp [hbase]

theorem Reorders.below {qs leaves : List Leaf} (h : Reorders qs leaves) (k : String) :
    Reorders (Brackets.below k qs) (Brackets.below k leaves) := by
  intro path
  rw [filter_below, filter_below, h]

/-- Leaves that all have one path cannot be reordered. -/
theorem Reorders.eq_of_path {qs leaves : List Leaf} (h : Reorders qs leaves) {path : List String}
    (hpath : ∀ leaf ∈ leaves, leaf.1 = path) : qs = leaves := by
  have hqs : qs.filter (·.1 == path) = qs := by
    rw [List.filter_eq_self]
    intro leaf hleaf
    exact beq_iff_eq.2 (hpath leaf ((h.mem_iff leaf).1 hleaf))
  have hleaves : leaves.filter (·.1 == path) = leaves := by
    rw [List.filter_eq_self]
    intro leaf hleaf
    exact beq_iff_eq.2 (hpath leaf hleaf)
  rw [← hqs, h, hleaves]

/-! ## Trees -/

mutual

/-- A tree is a text, a list of texts, or an object of trees. Lists and objects are not empty, and
neither are the keys of objects, which have no closing bracket. -/
def IsTree : Json → Prop
  | .str _ => True
  | .arr items => items ≠ [] ∧ ∀ v ∈ items, ∃ s, v = .str s
  | .obj members => members ≠ [] ∧ Members.Sorted members ∧ AreTrees members
  | _ => False

def AreTrees : List (String × Json) → Prop
  | [] => True
  | (k, v) :: rest => (k ≠ "" ∧ ']' ∉ k.toList) ∧ IsTree v ∧ AreTrees rest

end

mutual

/-- The leaves of a tree. -/
def leavesOf : Json → List Leaf
  | .str s => [([], s)]
  | .arr items => items.filterMap fun v => v.str?.map fun s => ([""], s)
  | .obj members => leavesOfMembers members
  | _ => []

def leavesOfMembers : List (String × Json) → List Leaf
  | [] => []
  | (k, v) :: rest => (leavesOf v).map (fun leaf => (k :: leaf.1, leaf.2)) ++ leavesOfMembers rest

end

theorem leavesOf_ne_nil (v : Json) (h : IsTree v) : leavesOf v ≠ [] := by
  match v with
  | .str s =>
    rw [leavesOf]
    exact List.cons_ne_nil _ _
  | .arr items =>
    rw [IsTree] at h
    rw [leavesOf]
    obtain ⟨hne, hall⟩ := h
    cases items with
    | nil => exact absurd rfl hne
    | cons v items =>
      obtain ⟨s, rfl⟩ := hall v List.mem_cons_self
      exact List.cons_ne_nil _ _
  | .obj ((k, v) :: rest) =>
    rw [IsTree, AreTrees] at h
    rw [leavesOf, leavesOfMembers]
    have hv := leavesOf_ne_nil v h.2.2.2.1
    simp [hv]
  | .obj [] =>
    rw [IsTree] at h
    exact absurd rfl h.1

/-- The leaves of members begin with their keys. -/
theorem exists_of_mem_leavesOfMembers {ms : List (String × Json)} {leaf : Leaf}
    (h : leaf ∈ leavesOfMembers ms) :
    ∃ m ∈ ms, ∃ path, leaf = (m.1 :: path, leaf.2) ∧ (path, leaf.2) ∈ leavesOf m.2 := by
  induction ms with
  | nil =>
    rw [leavesOfMembers] at h
    cases h
  | cons m ms ih =>
    rw [leavesOfMembers] at h
    rcases List.mem_append.1 h with h | h
    · obtain ⟨⟨path, value⟩, hmem, rfl⟩ := List.mem_map.1 h
      exact ⟨m, List.mem_cons_self, path, rfl, hmem⟩
    · obtain ⟨m', hm', hleaf⟩ := ih h
      exact ⟨m', List.mem_cons_of_mem m hm', hleaf⟩

theorem below_map_cons (k k' : String) (leaves : List Leaf) :
    below k' (leaves.map fun leaf => (k :: leaf.1, leaf.2)) = if k = k' then leaves else [] := by
  rw [below, List.filterMap_map]
  by_cases hk : k = k'
  · simp [hk]
  · simp [hk]

theorem below_leavesOfMembers_of_ne {ms : List (String × Json)} {k : String}
    (h : ∀ m ∈ ms, m.1 ≠ k) : below k (leavesOfMembers ms) = [] := by
  rw [List.eq_nil_iff_forall_not_mem]
  rintro ⟨path, value⟩ hmem
  obtain ⟨m, hm, _, hleaf, _⟩ := exists_of_mem_leavesOfMembers (mem_below.1 hmem)
  cases hleaf
  exact h m hm rfl

/-- Below the key of a member are the leaves of its value. -/
theorem below_leavesOfMembers {ms : List (String × Json)} (hs : Members.Sorted ms) {k : String}
    {v : Json} (h : (k, v) ∈ ms) : below k (leavesOfMembers ms) = leavesOf v := by
  induction ms with
  | nil => cases h
  | cons m ms ih =>
    have happend : below k (leavesOfMembers (m :: ms)) =
        (if m.1 = k then leavesOf m.2 else []) ++ below k (leavesOfMembers ms) := by
      rw [leavesOfMembers, ← below_map_cons, below, List.filterMap_append]
      rfl
    rw [happend]
    rcases List.mem_cons.1 h with rfl | hin
    · rw [if_pos rfl, below_leavesOfMembers_of_ne fun p hp => Members.ne_of_sorted_cons hs hp,
        List.append_nil]
    · rw [if_neg fun heq => Members.ne_of_sorted_cons hs hin heq.symm, List.nil_append,
        ih (List.pairwise_cons.1 hs).2 hin]

/-! ## Building -/

/-- If the leaves of each member fill its place with its value, then the leaves of all members, in
whatever order, build the members. -/
theorem foldl_insertLeaf_of_members {ms : List (String × Json)} (hs : Members.Sorted ms)
    (hfill : ∀ m ∈ ms, ∀ qs, Reorders qs (leavesOf m.2) → fillAll none qs = some m.2)
    {qs : List Leaf} (h : Reorders qs (leavesOfMembers ms)) : qs.foldl insertLeaf [] = ms := by
  refine Members.ext (sorted_foldl_insertLeaf Members.sorted_nil qs) hs fun k => ?_
  rw [get?_foldl_insertLeaf, Members.get?]
  have hbelow := h.below k
  cases hget : Members.get? k ms with
  | some v =>
    have hmem := Members.mem_of_get? hget
    rw [below_leavesOfMembers hs hmem] at hbelow
    exact hfill _ hmem _ hbelow
  | none =>
    have hne : ∀ m ∈ ms, m.1 ≠ k := by
      rintro ⟨k', v⟩ hm rfl
      rw [Members.get?_of_mem hs hm] at hget
      cases hget
    rw [below_leavesOfMembers_of_ne hne] at hbelow
    have hempty : below k qs = [] := by
      rw [List.eq_nil_iff_forall_not_mem]
      intro leaf hleaf
      exact List.not_mem_nil ((hbelow.mem_iff leaf).1 hleaf)
    rw [hempty]
    rfl

/-- Leaves in an object put it together as if it were a bag. -/
theorem fillAll_object {qs : List Leaf} (hne : qs ≠ [])
    (hkeys : ∀ leaf ∈ qs, ∃ k path, k ≠ "" ∧ leaf.1 = k :: path) :
    fillAll none qs = some (.obj (qs.foldl insertLeaf [])) := by
  -- once there is an object, each leaf goes into it
  have hobject : ∀ qs : List Leaf, (∀ leaf ∈ qs, ∃ k path, k ≠ "" ∧ leaf.1 = k :: path) →
      ∀ child, fillAll (some (.obj child)) qs = some (.obj (qs.foldl insertLeaf child)) := by
    intro qs hkeys
    induction qs with
    | nil => exact fun child => rfl
    | cons leaf qs ih =>
      intro child
      obtain ⟨hleaf, hqs⟩ := List.forall_mem_cons.1 hkeys
      obtain ⟨k, path, hk, hpath⟩ := hleaf
      have hstep : fill (some (.obj child)) leaf.1 leaf.2 =
          some (.obj (insertLeaf child leaf)) := by
        rw [insertLeaf, hpath, fill.eq_def]
        simp only [if_neg hk]
      rw [List.foldl_cons, ← ih hqs, ← hstep]
      rfl
  cases qs with
  | nil => exact absurd rfl hne
  | cons leaf qs =>
    obtain ⟨hleaf, hqs⟩ := List.forall_mem_cons.1 hkeys
    obtain ⟨k, path, hk, hpath⟩ := hleaf
    have hstep : fill none leaf.1 leaf.2 = some (.obj (insertLeaf [] leaf)) := by
      rw [insertLeaf, hpath, fill.eq_def]
      simp only [if_neg hk]
    rw [List.foldl_cons, ← hobject qs hqs, ← hstep]
    rfl

/-- Leaves in a list put it together in their order. -/
theorem fillAll_list {items : List Json} (hne : items ≠ []) (h : ∀ v ∈ items, ∃ s, v = .str s) :
    fillAll none (leavesOf (.arr items)) = some (.arr items) := by
  have hlist : ∀ items : List Json, (∀ v ∈ items, ∃ s, v = .str s) → ∀ front,
      fillAll (some (.arr front)) (leavesOf (.arr items)) = some (.arr (front ++ items)) := by
    intro items h
    induction items with
    | nil =>
      intro front
      rw [leavesOf, List.append_nil]
      rfl
    | cons v items ih =>
      intro front
      obtain ⟨hv, hitems⟩ := List.forall_mem_cons.1 h
      obtain ⟨s, rfl⟩ := hv
      have hrest := ih hitems (front ++ [.str s])
      rw [List.append_assoc, List.singleton_append, leavesOf] at hrest
      rw [leavesOf]
      exact hrest
  cases items with
  | nil => exact absurd rfl hne
  | cons v items =>
    obtain ⟨hv, hitems⟩ := List.forall_mem_cons.1 h
    obtain ⟨s, rfl⟩ := hv
    have hrest := hlist items hitems [.str s]
    rw [leavesOf] at hrest
    rw [leavesOf]
    exact hrest

theorem ne_of_areTrees {ms : List (String × Json)} (h : AreTrees ms) :
    ∀ m ∈ ms, m.1 ≠ "" ∧ ']' ∉ m.1.toList := by
  induction ms with
  | nil => exact fun m hm => (List.not_mem_nil hm).elim
  | cons m ms ih =>
    rw [AreTrees] at h
    exact List.forall_mem_cons.2 ⟨h.1, ih h.2.2⟩

mutual

/-- The leaves of a tree, in whatever order, build the tree. -/
theorem fillAll_leavesOf (v : Json) (hv : IsTree v) {qs : List Leaf}
    (h : Reorders qs (leavesOf v)) : fillAll none qs = some v := by
  match v with
  | .str s =>
    have hleaves : leavesOf (.str s) = [([], s)] := by rw [leavesOf]
    have hpath : ∀ leaf ∈ leavesOf (.str s), leaf.1 = [] := by
      rw [hleaves]
      exact fun leaf hleaf => congrArg Prod.fst (List.mem_singleton.1 hleaf)
    rw [h.eq_of_path hpath, hleaves]
    rfl
  | .arr items =>
    rw [IsTree] at hv
    have hpath : ∀ leaf ∈ leavesOf (.arr items), leaf.1 = [""] := by
      rw [leavesOf]
      intro leaf hleaf
      obtain ⟨v, _, hv⟩ := List.mem_filterMap.1 hleaf
      obtain ⟨s, _, rfl⟩ := Option.map_eq_some_iff.1 hv
      rfl
    rw [h.eq_of_path hpath]
    exact fillAll_list hv.1 hv.2
  | .obj ms =>
    have htree := hv
    rw [IsTree] at hv
    obtain ⟨_, hs, htrees⟩ := hv
    have hbuilt : qs.foldl insertLeaf [] = ms := by
      rw [leavesOf] at h
      exact foldl_insertLeaf_of_members hs (fillAll_leavesOfMembers ms htrees) h
    have hne : qs ≠ [] := by
      rintro rfl
      refine leavesOf_ne_nil _ htree (List.eq_nil_iff_forall_not_mem.2 fun leaf hleaf => ?_)
      exact List.not_mem_nil ((h.mem_iff leaf).2 hleaf)
    rw [fillAll_object hne, hbuilt]
    intro leaf hleaf
    have hmem := (h.mem_iff leaf).1 hleaf
    rw [leavesOf] at hmem
    obtain ⟨m, hm, path, heq, _⟩ := exists_of_mem_leavesOfMembers hmem
    rw [heq]
    exact ⟨m.1, path, (ne_of_areTrees htrees m hm).1, rfl⟩

theorem fillAll_leavesOfMembers (ms : List (String × Json)) (h : AreTrees ms) :
    ∀ m ∈ ms, ∀ qs, Reorders qs (leavesOf m.2) → fillAll none qs = some m.2 := by
  match ms with
  | [] => exact fun m hm => (List.not_mem_nil hm).elim
  | (k, v) :: rest =>
    rw [AreTrees] at h
    intro m hm qs hqs
    rcases List.mem_cons.1 hm with heq | hm
    · subst heq
      exact fillAll_leavesOf v h.2.1 hqs
    · exact fillAll_leavesOfMembers rest h.2.2 m hm qs hqs

end

/-! ## Forests -/

/-- The contents of a bag that can be written with brackets: trees under keys that are not empty and
have no opening bracket. -/
structure IsForest (ms : List (String × Json)) : Prop where
  sorted : Members.Sorted ms
  keys : ∀ m ∈ ms, m.1 ≠ "" ∧ '[' ∉ m.1.toList
  trees : ∀ m ∈ ms, IsTree m.2

/-- The pair of a leaf: its path as a key with brackets. -/
def pairOf (leaf : Leaf) : String × String := (spell (leaf.1.headD "") leaf.1.tail, leaf.2)

mutual

/-- The components in the path of a leaf have no closing bracket. -/
theorem not_mem_of_mem_leavesOf (v : Json) (hv : IsTree v) {leaf : Leaf} (h : leaf ∈ leavesOf v) :
    ∀ c ∈ leaf.1, ']' ∉ c.toList := by
  match v with
  | .str s =>
    rw [leavesOf] at h
    rw [List.mem_singleton.1 h]
    exact fun c hc => (List.not_mem_nil hc).elim
  | .arr items =>
    rw [leavesOf] at h
    obtain ⟨v, _, hv⟩ := List.mem_filterMap.1 h
    obtain ⟨s, _, rfl⟩ := Option.map_eq_some_iff.1 hv
    intro c hc
    rw [List.mem_singleton.1 hc]
    exact List.not_mem_nil
  | .obj ms =>
    rw [IsTree] at hv
    rw [leavesOf] at h
    exact not_mem_of_mem_leavesOfMembers ms hv.2.2 h

theorem not_mem_of_mem_leavesOfMembers (ms : List (String × Json)) (hms : AreTrees ms) {leaf : Leaf}
    (h : leaf ∈ leavesOfMembers ms) : ∀ c ∈ leaf.1, ']' ∉ c.toList := by
  match ms with
  | [] =>
    rw [leavesOfMembers] at h
    cases h
  | (k, v) :: rest =>
    rw [AreTrees] at hms
    rw [leavesOfMembers] at h
    rcases List.mem_append.1 h with h | h
    · obtain ⟨inner, hinner, rfl⟩ := List.mem_map.1 h
      exact List.forall_mem_cons.2 ⟨hms.1.2, not_mem_of_mem_leavesOf v hms.2.1 hinner⟩
    · exact not_mem_of_mem_leavesOfMembers rest hms.2.2 h

end

/-- The pair of a leaf of a forest is put in as the leaf. -/
theorem insertPair_pairOf {ms : List (String × Json)} (hms : IsForest ms) {leaf : Leaf}
    (h : leaf ∈ leavesOfMembers ms) (target : List (String × Json)) :
    insertPair target (pairOf leaf) = insertLeaf target leaf := by
  obtain ⟨m, hm, path, heq, hpath⟩ := exists_of_mem_leavesOfMembers h
  have hsplit : split (spell m.1 path) = (m.1, path) :=
    split_spell (hms.keys m hm).1 (hms.keys m hm).2
      (not_mem_of_mem_leavesOf m.2 (hms.trees m hm) hpath)
  rw [heq, pairOf, insertPair, List.headD_cons, List.tail_cons, hsplit]
  rfl

/-- The leaves of a forest, in whatever order, are read back from their pairs. -/
theorem members_map_pairOf {ms : List (String × Json)} (hms : IsForest ms) {qs : List Leaf}
    (h : Reorders qs (leavesOfMembers ms)) : members (qs.map pairOf) = ms := by
  have hleaves : ∀ qs : List Leaf, (∀ leaf ∈ qs, leaf ∈ leavesOfMembers ms) → ∀ target,
      (qs.map pairOf).foldl insertPair target = qs.foldl insertLeaf target := by
    intro qs hqs
    induction qs with
    | nil => exact fun _ => rfl
    | cons leaf qs ih =>
      intro target
      obtain ⟨hleaf, hrest⟩ := List.forall_mem_cons.1 hqs
      rw [List.map_cons, List.foldl_cons, List.foldl_cons, insertPair_pairOf hms hleaf, ih hrest]
  rw [members, hleaves qs fun leaf => (h.mem_iff leaf).1]
  exact foldl_insertLeaf_of_members hms.sorted
    (fun m hm _ hqs => fillAll_leavesOf m.2 (hms.trees m hm) hqs) h

end Brackets

end RequestBinding
