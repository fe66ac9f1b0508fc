import RequestBinding.Proofs.Regex.Reading
import RequestBinding.Template.Pattern

/-!
# Groups of patterns

The pattern of a chain of templates has one group for each placeholder, numbered from left to right,
whatever the constraints are. Groups with different numbers have different names.

## Main definitions

* `numbered` - groups for keys, numbered in order

## Main statements

* `name_ne_of_mem_numbered` - names of groups are different
* `Draft.groups_segments`, `Pattern.groups_of_ofTemplates` - the groups of a pattern
* `Segment.exists_of_mem_keys` - the keys of placeholders are qualified names
-/

namespace RequestBinding

open Regex

/-! ## Numbered groups -/

/-- Groups for a list of keys, numbered from `n` on. -/
def numbered (n : Nat) : List String → List CaptureGroup
  | [] => []
  | k :: ks => ⟨groupName n, k⟩ :: numbered (n + 1) ks

@[simp] theorem numbered_length (n : Nat) (ks : List String) :
    (numbered n ks).length = ks.length := by
  induction ks generalizing n with
  | nil => rfl
  | cons k ks ih => rw [numbered, List.length_cons, ih, List.length_cons]

theorem numbered_append (n : Nat) (ks ls : List String) :
    numbered n (ks ++ ls) = numbered n ks ++ numbered (n + ks.length) ls := by
  induction ks generalizing n with
  | nil => rfl
  | cons k ks ih =>
    rw [List.cons_append, numbered, ih, numbered, List.cons_append, List.length_cons,
      Nat.add_right_comm, Nat.add_assoc]

theorem name_of_mem_numbered {n : Nat} {ks : List String} {g : CaptureGroup}
    (h : g ∈ numbered n ks) : ∃ i, n ≤ i ∧ i < n + ks.length ∧ g.name = groupName i := by
  induction ks generalizing n with
  | nil => cases h
  | cons k ks ih =>
    rcases List.mem_cons.1 h with rfl | h
    · exact ⟨n, Nat.le_refl n, by rw [List.length_cons]; omega, rfl⟩
    · obtain ⟨i, hlow, hhigh, hname⟩ := ih h
      exact ⟨i, by omega, by rw [List.length_cons]; omega, hname⟩

/-- Groups with different numbers have different names. -/
theorem name_ne_of_mem_numbered {m n : Nat} {ks ls : List String} (hle : m + ks.length ≤ n)
    {g h : CaptureGroup} (hg : g ∈ numbered m ks) (hh : h ∈ numbered n ls) : g.name ≠ h.name := by
  obtain ⟨i, _, hi, hgi⟩ := name_of_mem_numbered hg
  obtain ⟨j, hj, _, hhj⟩ := name_of_mem_numbered hh
  rw [hgi, hhj]
  intro heq
  have := groupName_injective heq
  omega

theorem numbered_keys (n : Nat) (ks : List String) : (numbered n ks).map (·.key) = ks := by
  induction ks generalizing n with
  | nil => rfl
  | cons k ks ih => rw [numbered, List.map_cons, ih]

/-! ## Keys of placeholders -/

namespace Segment

theorem keys_append (ss ts : List Segment) : keys (ss ++ ts) = keys ss ++ keys ts := by
  induction ss with
  | nil => rfl
  | cons s ss ih => rw [List.cons_append, keys, keys, ih, List.append_assoc]

mutual

theorem exists_of_mem_keysOne (s : Segment) {k : String} (h : k ∈ keysOne s) :
    ∃ resource field, k = key resource field := by
  match s with
  | .literal _ =>
    rw [keysOne] at h
    cases h
  | .placeholder resource field =>
    rw [keysOne] at h
    exact ⟨resource, field, List.mem_singleton.1 h⟩
  | .alternation as =>
    rw [keysOne] at h
    exact exists_of_mem_keysAlternatives as h

/-- The keys of placeholders are qualified names. -/
theorem exists_of_mem_keys (ss : List Segment) {k : String} (h : k ∈ keys ss) :
    ∃ resource field, k = key resource field := by
  match ss with
  | [] =>
    rw [keys] at h
    cases h
  | s :: rest =>
    rw [keys] at h
    rcases List.mem_append.1 h with h | h
    · exact exists_of_mem_keysOne s h
    · exact exists_of_mem_keys rest h

theorem exists_of_mem_keysAlternatives (as : List (List Segment)) {k : String}
    (h : k ∈ keysAlternatives as) : ∃ resource field, k = key resource field := by
  match as with
  | [] =>
    rw [keysAlternatives] at h
    cases h
  | a :: rest =>
    rw [keysAlternatives] at h
    rcases List.mem_append.1 h with h | h
    · exact exists_of_mem_keys a h
    · exact exists_of_mem_keysAlternatives rest h

end

end Segment

/-! ## Groups of drafts -/

namespace Draft

variable (cs : Constraints)

@[simp] theorem groups_put (d : Draft) (text : List Char) : (d.put text).groups = d.groups := rfl

@[simp] theorem text_put (d : Draft) (text : List Char) : (d.put text).text = d.text ++ text := rfl

mutual

theorem groups_segment (d : Draft) (s : Segment) : (Draft.segment cs d s).groups =
    d.groups ++ numbered d.groups.length (Segment.keysOne s) := by
  rw [Draft.segment.eq_def]
  match s with
  | .literal text => simp [numbered, Segment.keysOne]
  | .placeholder resource field => simp [numbered, Segment.keysOne, nextName, groupName]
  | .alternation as =>
    have h := groups_alternatives true (d.put ['(', '?', ':']) as
    simp only [groups_put] at h ⊢
    rw [h, Segment.keysOne]

theorem groups_segments (d : Draft) (ss : List Segment) : (Draft.segments cs d ss).groups =
    d.groups ++ numbered d.groups.length (Segment.keys ss) := by
  rw [Draft.segments.eq_def]
  match ss with
  | [] => simp [numbered, Segment.keys]
  | s :: rest =>
    simp only
    rw [groups_segments, groups_segment, List.length_append, numbered_length, List.append_assoc,
      ← numbered_append, Segment.keys]

theorem groups_alternatives (first : Bool) (d : Draft) (as : List (List Segment)) :
    (Draft.alternatives cs first d as).groups =
      d.groups ++ numbered d.groups.length (Segment.keysAlternatives as) := by
  rw [Draft.alternatives.eq_def]
  match as with
  | [] => simp [numbered, Segment.keysAlternatives]
  | a :: rest =>
    simp only
    have hbar : (if first then d else d.put ['|']).groups = d.groups := by
      cases first <;> rfl
    rw [groups_alternatives, groups_segments, hbar, List.length_append, numbered_length,
      List.append_assoc, ← numbered_append, Segment.keysAlternatives]

end

end Draft

/-- The groups of a chain of templates are those of all placeholders. -/
theorem Draft.groups_templates (cs : Constraints) (ts : List Template) :
    (Draft.templates cs ts).groups = numbered 0 (Segment.keys (ts.flatMap (·.segments))) := by
  -- the fold is followed from any draft
  have h : ∀ d : Draft, (ts.foldl (fun d t => d.segments cs t.segments) d).groups =
      d.groups ++ numbered d.groups.length (Segment.keys (ts.flatMap (·.segments))) := by
    induction ts with
    | nil => exact fun d => (List.append_nil d.groups).symm
    | cons t ts ih =>
      intro d
      rw [List.foldl_cons, ih, Draft.groups_segments, List.length_append, numbered_length,
        List.append_assoc, ← numbered_append, List.flatMap_cons, Segment.keys_append]
  exact h .empty

/-- The groups of the pattern of a chain of templates are those of all placeholders. -/
theorem Pattern.groups_of_ofTemplates {cs : Constraints} {ts : List Template} {p : Pattern}
    (h : Pattern.ofTemplates cs ts = some p) :
    p.groups = numbered 0 (Segment.keys (ts.flatMap (·.segments))) := by
  rw [Pattern.ofTemplates, Option.map_eq_some_iff] at h
  obtain ⟨r, _, rfl⟩ := h
  exact Draft.groups_templates cs ts

end RequestBinding
