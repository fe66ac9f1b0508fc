import RequestBinding.Proofs.Params.Brackets
import RequestBinding.Proofs.Params.Merge
import RequestBinding.Proofs.Text.Form

/-!
# What pairs describe

The pairs of a query are put in one by one, and a pair that does not fit what is there by then is
dropped. What comes out can be told at once: under each key stands the value that the pairs with
this key as their base describe. A text without components overrules all others, and the last one
counts. Otherwise the first pair decides whether the value is a list or an object, and pairs of the
other form do not matter.

## Main definitions

* `Brackets.described` - the value that leaves describe
* `Brackets.based` - the pairs with a base, as leaves
* `Brackets.describedUnder?` - what pairs describe under a key

## Main statements

* `Brackets.fillAll_none` - putting leaves in one by one gives the value that they describe
* `Brackets.get?_members` - the members of pairs
* `Params.get?_extendQuery_eq_described` - a bag after a query
-/

namespace RequestBinding

namespace Members

variable {α : Type}

/-- The members with a list of keys, each with a value of its own. -/
theorem get?_ofList_map (k : String) (ks : List String) (f : String → α) :
    get? k (ofList (ks.map fun c => (c, f c))) = if k ∈ ks then some (f k) else none := by
  have hfold : ∀ ms, get? k ((ks.map fun c => (c, f c)).foldl (fun ms p => put p.1 p.2 ms) ms) =
      if k ∈ ks then some (f k) else get? k ms := by
    induction ks with
    | nil => exact fun ms => rfl
    | cons c ks ih =>
      intro ms
      rw [List.map_cons, List.foldl_cons, ih, get?_put]
      by_cases hk : k ∈ ks
      · rw [if_pos hk, if_pos (List.mem_cons_of_mem c hk)]
      · by_cases hc : c = k
        · subst hc
          simp
        · rw [if_neg hk, if_neg hc, if_neg]
          rintro (_ | ⟨_, hmem⟩)
          · exact hc rfl
          · exact hk hmem
  exact hfold []

end Members

namespace Brackets

variable {leaves : List Leaf} {c : String}

/-! ## Values -/

/-- The last text without components. -/
def lastText? (leaves : List Leaf) : Option String :=
  (leaves.reverse.find? (·.1.isEmpty)).map (·.2)

/-- The texts whose first component is empty. -/
def listed (leaves : List Leaf) : List Json :=
  (leaves.filter (·.1.head? == some "")).map fun leaf => .str leaf.2

/-- The first components that are not empty. -/
def heads (leaves : List Leaf) : List String :=
  (leaves.filterMap (·.1.head?)).filter (· ≠ "")

/-- The number of components. -/
def extent (leaves : List Leaf) : Nat := (leaves.flatMap (·.1)).length

/-- What is below a component has lost this component. -/
theorem extent_below_add_le (c : String) (leaves : List Leaf) :
    extent (below c leaves) + (below c leaves).length ≤ extent leaves := by
  induction leaves with
  | nil => exact Nat.le_refl 0
  | cons leaf leaves ih =>
    obtain ⟨path, value⟩ := leaf
    cases path with
    | nil => simpa [extent, below] using ih
    | cons base path =>
      by_cases hbase : base = c
      · simp only [extent, below] at ih
        simp only [extent, below, hbase, if_true, List.filterMap_cons, List.flatMap_cons,
          List.length_append, List.length_cons]
        omega
      · simp only [extent, below] at ih
        simp only [extent, below, hbase, if_false, List.filterMap_cons, List.flatMap_cons,
          List.length_append, List.length_cons]
        omega

theorem mem_heads : c ∈ heads leaves ↔ below c leaves ≠ [] ∧ c ≠ "" := by
  rw [heads, List.mem_filter, decide_eq_true_iff, List.mem_filterMap]
  refine and_congr_left fun _ => ⟨?_, fun hne => ?_⟩
  · rintro ⟨⟨path, value⟩, hmem, hhead⟩
    obtain ⟨rest, rfl⟩ := List.head?_eq_some_iff.1 hhead
    exact List.ne_nil_of_mem (mem_below.2 hmem)
  · obtain ⟨⟨rest, value⟩, hmem⟩ := List.exists_mem_of_ne_nil _ hne
    exact ⟨_, mem_below.1 hmem, rfl⟩

theorem extent_below_lt (h : c ∈ heads leaves) : extent (below c leaves) < extent leaves := by
  have hlength : 0 < (below c leaves).length := List.length_pos_iff.2 (mem_heads.1 h).1
  have hextent := extent_below_add_le c leaves
  omega

/-- The value that leaves describe: the last text without components, if there is one; else, if the
first component of the first leaf is empty, the list of all texts of which this is so; else the
object of what is described below each of the other first components. -/
def described (leaves : List Leaf) : Json :=
  match lastText? leaves with
  | some s => .str s
  | none =>
    if leaves.head?.bind (·.1.head?) = some "" then .arr (listed leaves)
    else .obj (Members.ofList ((heads leaves).attach.map fun c =>
      (c.1, described (below c.1 leaves))))
termination_by extent leaves
decreasing_by exact extent_below_lt c.2

/-- The members of the object that is described below first components. -/
def describedMembers (leaves : List Leaf) : List (String × Json) :=
  Members.ofList ((heads leaves).map fun c => (c, described (below c leaves)))

theorem described_eq (leaves : List Leaf) : described leaves =
    match lastText? leaves with
    | some s => .str s
    | none =>
      if leaves.head?.bind (·.1.head?) = some "" then .arr (listed leaves)
      else .obj (describedMembers leaves) := by
  rw [described, describedMembers]
  simp only [List.map_attach_eq_pmap, List.pmap_eq_map]

theorem get?_describedMembers (c : String) (leaves : List Leaf) :
    Members.get? c (describedMembers leaves) =
      if c ∈ heads leaves then some (described (below c leaves)) else none :=
  Members.get?_ofList_map c (heads leaves) fun c => described (below c leaves)

/-! ## Filling -/

/-- Every leaf has a component. -/
def Deep (leaves : List Leaf) : Prop := ∀ leaf ∈ leaves, ∃ c path, leaf.1 = c :: path

theorem lastText?_eq_none : lastText? leaves = none ↔ Deep leaves := by
  rw [lastText?, Option.map_eq_none_iff, List.find?_eq_none]
  refine forall_congr' fun leaf => ?_
  rw [List.mem_reverse, List.isEmpty_iff]
  exact imp_congr_right fun _ => List.ne_nil_iff_exists_cons

/-- After the last text without components, all leaves have some. -/
theorem exists_of_lastText? {s : String} (h : lastText? leaves = some s) :
    ∃ before after, leaves = before ++ ([], s) :: after ∧ Deep after := by
  obtain ⟨⟨path, value⟩, hfind, rfl⟩ := Option.map_eq_some_iff.1 h
  obtain ⟨hempty, later, earlier, hleaves, hlater⟩ := List.find?_eq_some_iff_append.1 hfind
  obtain rfl : path = [] := List.isEmpty_iff.1 hempty
  refine ⟨earlier.reverse, later.reverse, ?_, fun leaf hleaf => ?_⟩
  · rw [← List.reverse_reverse leaves, hleaves]
    simp
  · have hne : leaf.1 ≠ [] := by simpa using hlater leaf (List.mem_reverse.1 hleaf)
    exact List.ne_nil_iff_exists_cons.1 hne

theorem fillAll_cons (place : Option Json) (leaf : Leaf) (leaves : List Leaf) :
    fillAll place (leaf :: leaves) = fillAll (fill place leaf.1 leaf.2) leaves := rfl

/-- Components lead nowhere in a text. -/
theorem fill_text (s c : String) (path : List String) (value : String) :
    fill (some (.str s)) (c :: path) value = some (.str s) := by
  rw [fill.eq_def]
  by_cases hc : c = "" <;> simp [hc]

/-- A list only takes leaves whose first component is empty. -/
theorem fill_items (items : List Json) (c : String) (path : List String) (value : String) :
    fill (some (.arr items)) (c :: path) value =
      some (.arr (items ++ if c = "" then [.str value] else [])) := by
  rw [fill.eq_def]
  by_cases hc : c = "" <;> simp [hc]

/-- An object only takes leaves whose first component is not empty. -/
theorem fill_members (ms : List (String × Json)) (c : String) (path : List String)
    (value : String) : fill (some (.obj ms)) (c :: path) value =
      some (.obj (if c = "" then ms else insert ms c path value)) := by
  rw [fill.eq_def]
  by_cases hc : c = "" <;> simp [hc]

/-- The first leaf makes the list or the object that it goes into. -/
theorem fill_none (c : String) (path : List String) (value : String) :
    fill none (c :: path) value =
      fill (some (if c = "" then .arr [] else .obj [])) (c :: path) value := by
  by_cases hc : c = ""
  · rw [if_pos hc, fill_items, fill.eq_def]
    simp [hc]
  · rw [if_neg hc, fill_members, fill.eq_def]
    simp [hc]

theorem fillAll_text (s : String) (h : Deep leaves) :
    fillAll (some (.str s)) leaves = some (.str s) := by
  induction leaves with
  | nil => rfl
  | cons leaf leaves ih =>
    obtain ⟨⟨c, path, hpath⟩, hrest⟩ := List.forall_mem_cons.1 h
    rw [fillAll_cons, hpath, fill_text, ih hrest]

theorem listed_cons {leaf : Leaf} {path : List String} (h : leaf.1 = c :: path) :
    listed (leaf :: leaves) = (if c = "" then [.str leaf.2] else []) ++ listed leaves := by
  by_cases hc : c = "" <;> simp [listed, h, hc]

theorem fillAll_items (items : List Json) (h : Deep leaves) :
    fillAll (some (.arr items)) leaves = some (.arr (items ++ listed leaves)) := by
  induction leaves generalizing items with
  | nil => simp [fillAll, listed]
  | cons leaf leaves ih =>
    obtain ⟨⟨c, path, hpath⟩, hrest⟩ := List.forall_mem_cons.1 h
    rw [fillAll_cons, hpath, fill_items, ih _ hrest, listed_cons hpath, List.append_assoc]

/-- The leaves that go into an object. -/
def keyed (leaves : List Leaf) : List Leaf := leaves.filter (·.1.head? != some "")

theorem fillAll_members (ms : List (String × Json)) (h : Deep leaves) :
    fillAll (some (.obj ms)) leaves = some (.obj ((keyed leaves).foldl insertLeaf ms)) := by
  induction leaves generalizing ms with
  | nil => rfl
  | cons leaf leaves ih =>
    obtain ⟨⟨c, path, hpath⟩, hrest⟩ := List.forall_mem_cons.1 h
    rw [fillAll_cons, hpath, fill_members, ih _ hrest, keyed, keyed, List.filter_cons]
    by_cases hc : c = ""
    · simp [hpath, hc]
    · simp [hpath, hc, insertLeaf]

/-- Below a component there are the same leaves, whether those of lists are left out or not. -/
theorem below_keyed (hc : c ≠ "") (leaves : List Leaf) :
    below c (keyed leaves) = below c leaves := by
  rw [below, keyed, List.filterMap_filter, below]
  refine List.filterMap_congr fun leaf _ => ?_
  obtain ⟨path, value⟩ := leaf
  cases path with
  | nil => simp
  | cons base path =>
    by_cases hbase : base = c
    · simp [hbase, hc]
    · simp [hbase]

theorem below_empty_keyed (leaves : List Leaf) : below "" (keyed leaves) = [] := by
  rw [List.eq_nil_iff_forall_not_mem]
  rintro ⟨path, value⟩ hmem
  have hkeyed := (List.mem_filter.1 (mem_below.1 hmem)).2
  simp at hkeyed

/-- Leaves that go into an object put together the members that they describe, if the leaves below
each component do so. -/
theorem foldl_insertLeaf_keyed (hbelow : ∀ c ∈ heads leaves,
    fillAll none (below c leaves) = some (described (below c leaves))) :
    (keyed leaves).foldl insertLeaf [] = describedMembers leaves := by
  refine Members.ext (sorted_foldl_insertLeaf Members.sorted_nil _) (Members.sorted_ofList _)
    fun c => ?_
  rw [get?_foldl_insertLeaf, get?_describedMembers]
  by_cases hmem : c ∈ heads leaves
  · rw [if_pos hmem, below_keyed (mem_heads.1 hmem).2]
    exact hbelow c hmem
  · have hnone : below c (keyed leaves) = [] := by
      by_cases hc : c = ""
      · rw [hc, below_empty_keyed]
      · rw [below_keyed hc]
        by_contra hne
        exact hmem (mem_heads.2 ⟨hne, hc⟩)
    rw [if_neg hmem, hnone]
    rfl

/-- The first leaf makes a list or an object, into which it goes itself. -/
theorem fillAll_none_cons {leaf : Leaf} {path : List String} (h : leaf.1 = c :: path) :
    fillAll none (leaf :: leaves) =
      fillAll (some (if c = "" then .arr [] else .obj [])) (leaf :: leaves) := by
  rw [fillAll_cons, fillAll_cons, h, fill_none]

/-- Putting leaves in one by one gives the value that they describe. -/
theorem fillAll_none (leaves : List Leaf) (hne : leaves ≠ []) :
    fillAll none leaves = some (described leaves) := by
  rw [described_eq]
  induction leaves using described.induct with
  | case1 leaves s htext =>
    obtain ⟨before, after, hleaves, hafter⟩ := exists_of_lastText? htext
    rw [htext, hleaves, fillAll, List.foldl_append, List.foldl_cons]
    exact fillAll_text s hafter
  | case2 leaves htext hhead =>
    obtain ⟨leaf, rest, rfl⟩ := List.ne_nil_iff_exists_cons.1 hne
    have hdeep := lastText?_eq_none.1 htext
    obtain ⟨c, path, hpath⟩ := hdeep leaf List.mem_cons_self
    obtain rfl : c = "" := by simpa [hpath] using hhead
    rw [htext, if_pos hhead, fillAll_none_cons hpath, if_pos rfl]
    exact fillAll_items [] hdeep
  | case3 leaves htext hhead ih =>
    obtain ⟨leaf, rest, rfl⟩ := List.ne_nil_iff_exists_cons.1 hne
    have hdeep := lastText?_eq_none.1 htext
    obtain ⟨c, path, hpath⟩ := hdeep leaf List.mem_cons_self
    have hc : c ≠ "" := by simpa [hpath] using hhead
    rw [htext, if_neg hhead, fillAll_none_cons hpath, if_neg hc, fillAll_members [] hdeep,
      foldl_insertLeaf_keyed]
    intro c' hc'
    rw [described_eq]
    exact ih ⟨c', hc'⟩ (mem_heads.1 hc').1

/-! ## Pairs -/

/-- The pairs with a base, as leaves with the components behind it. -/
def based (k : String) (pairs : List (String × String)) : List Leaf :=
  pairs.filterMap fun pair =>
    if (split pair.1).1 = k then some ((split pair.1).2, pair.2) else none

/-- The leaf of a pair: its base and components. -/
def leafOf (pair : String × String) : Leaf := ((split pair.1).1 :: (split pair.1).2, pair.2)

theorem below_map_leafOf (k : String) (pairs : List (String × String)) :
    below k (pairs.map leafOf) = based k pairs := by
  rw [below, List.filterMap_map]
  rfl

theorem members_eq (pairs : List (String × String)) :
    members pairs = (pairs.map leafOf).foldl insertLeaf [] := by
  rw [List.foldl_map]
  rfl

/-- What pairs describe under a key, which is nothing if none of them has it as its base. -/
def describedUnder? (k : String) (pairs : List (String × String)) : Option Json :=
  if based k pairs = [] then none else some (described (based k pairs))

/-- Under each key stands what the pairs with this base describe. -/
theorem get?_members (k : String) (pairs : List (String × String)) :
    Members.get? k (members pairs) = describedUnder? k pairs := by
  rw [members_eq, get?_foldl_insertLeaf, below_map_leafOf, describedUnder?]
  split
  · next hnone =>
    rw [hnone]
    rfl
  · next hne => exact fillAll_none _ hne

/-- Only the pairs with a base matter for what is described under it. -/
theorem describedUnder?_filter (k : String) (pairs : List (String × String)) :
    describedUnder? k (pairs.filter fun pair => (split pair.1).1 = k) =
      describedUnder? k pairs := by
  have hbased : based k (pairs.filter fun pair => (split pair.1).1 = k) = based k pairs := by
    rw [based, List.filterMap_filter, based]
    refine List.filterMap_congr fun pair _ => ?_
    by_cases hbase : (split pair.1).1 = k <;> simp [hbase]
  rw [describedUnder?, hbased, describedUnder?]

end Brackets

namespace Params

open Brackets

theorem pairs_encode_render (pairs : List (String × String)) :
    Form.pairs (Utf8.encode (Form.render pairs)) = pairs :=
  Form.pairs_of_writes (Form.writes_render pairs)

theorem get?_extendPairs (p : Params) (bs : List UInt8) (k : String) :
    (p.extendPairs bs).get? k = (p.get? k).or (describedUnder? k (Form.pairs bs)) := by
  rw [extendPairs, get?_mergeMissing, get?_members]

/-- Any list of pairs can be sent as a query, and a query fills each gap of a bag with what its
pairs describe under the key. So pairs with other bases could as well be left out. -/
theorem get?_extendQuery_eq_described :
    (∀ pairs, ∃ query, Form.pairs (Utf8.encode query) = pairs) ∧
      ∀ (p : Params) (query k : String),
        (p.extendQuery query).get? k =
            (p.get? k).or (describedUnder? k (Form.pairs (Utf8.encode query))) ∧
          (p.extendQuery query).get? k = (p.extendQuery (Form.render
            ((Form.pairs (Utf8.encode query)).filter fun pair =>
              (split pair.1).1 = k))).get? k := by
  refine ⟨fun pairs => ⟨_, pairs_encode_render pairs⟩, fun p query k => ⟨?_, ?_⟩⟩
  · exact get?_extendPairs p (Utf8.encode query) k
  · rw [extendQuery, get?_extendPairs, extendQuery, get?_extendPairs, pairs_encode_render,
      describedUnder?_filter]

/-- The first pair makes a list under `a` and an object under `b`, and a text without components
overrules all under `d`. -/
example : members [("a[]", "1"), ("b[c]", "2"), ("a[c]", "3"), ("b[]", "4"), ("d[e]", "5"),
    ("d", "6"), ("d[]", "7"), ("b[c][d]", "8"), ("a[][c]", "9")] =
      [("a", .arr [.str "1", .str "9"]), ("b", .obj [("c", .str "2")]), ("d", .str "6")] := by
  rfl

end Params

end RequestBinding
