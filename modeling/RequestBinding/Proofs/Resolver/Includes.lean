import RequestBinding.Proofs.Resolver.Runs
import RequestBinding.Proofs.Text.Form

/-!
# Names to include

A name is to be included in the answer if the bag lists it: as a part of a text between commas, or
of a text in an array. No call of a resolver changes that, so the names may as well be listed once,
when the first one is asked for.

## Main definitions

* `Json.PartOf`, `Json.Lists` - the names that a text and a value list
* `Resolver.Listing` - a resolver that lists the names once
* `Resolver.IncludesExactly` - answers that agree with what a bag lists

## Main statements

* `Json.mem_names_iff` - the names of a value are those that it lists
* `Resolver.Listing.Keeps.step`, `Resolver.Listing.keeps_run` - a list that was made stays right
* `Resolver.includes_run` - the names to include after any calls
-/

namespace RequestBinding

/-! ## Lists of names -/

namespace Json

/-- A name is part of a text: it is not empty and has no comma in it, and on either side of it there
is a comma or an end of the text. -/
def PartOf (name s : String) : Prop :=
  name ≠ "" ∧ ',' ∉ name.toList ∧ ∃ before after : String, s = before ++ name ++ after ∧
    (∀ c ∈ before.toList.getLast?, c = ',') ∧ ∀ c ∈ after.toList.head?, c = ','

/-- A value lists a name: it is a text that the name is part of, or an array with such a text. -/
inductive Lists (name : String) : Option Json → Prop
  | text {s : String} (h : PartOf name s) : Lists name (some (.str s))
  | item {items : List Json} {s : String} (hs : .str s ∈ items) (h : PartOf name s) :
      Lists name (some (.arr items))

theorem mem_commaNames_iff {name s : String} : name ∈ commaNames s ↔ PartOf name s := by
  rw [commaNames, List.mem_map]
  constructor
  · rintro ⟨piece, hmem, rfl⟩
    obtain ⟨hpiece, hne⟩ := List.mem_filter.1 hmem
    obtain ⟨hcomma, before, after, hs, hbefore, hafter⟩ := Form.mem_splitAll_iff.1 hpiece
    refine ⟨by simpa using hne, by simpa using hcomma, .ofList before, .ofList after, ?_, ?_, ?_⟩
    · exact String.toList_inj.1 (by simpa using hs)
    · simpa using hbefore
    · simpa using hafter
  · rintro ⟨hne, hcomma, before, after, rfl, hbefore, hafter⟩
    refine ⟨name.toList, List.mem_filter.2 ⟨?_, by simpa using hne⟩, String.ofList_toList⟩
    refine Form.mem_splitAll_iff.2 ⟨hcomma, before.toList, after.toList, ?_, hbefore, hafter⟩
    simp

theorem str?_eq_some_iff {v : Json} {s : String} : v.str? = some s ↔ v = .str s := by
  cases v <;> simp [str?]

/-- The names of a value are those that it lists. -/
theorem mem_names_iff {name : String} {v : Option Json} : name ∈ names v ↔ Lists name v := by
  constructor
  · intro h
    unfold names at h
    split at h
    · exact .text (mem_commaNames_iff.1 h)
    · obtain ⟨s, hs, hname⟩ := List.mem_flatMap.1 h
      obtain ⟨item, hitem, htext⟩ := List.mem_filterMap.1 hs
      obtain rfl : item = .str s := str?_eq_some_iff.1 htext
      exact .item hitem (mem_commaNames_iff.1 hname)
    · cases h
  · intro h
    cases h with
    | text h => exact mem_commaNames_iff.2 h
    | item hs h =>
      have htext := List.mem_filterMap.2 ⟨_, hs, str?_eq_some_iff.2 rfl⟩
      exact List.mem_flatMap.2 ⟨_, htext, mem_commaNames_iff.2 h⟩

/-- Names that are joined by commas are read back. -/
theorem commaNames_intercalate {ns : List String} (h : ∀ n ∈ ns, n ≠ "" ∧ ',' ∉ n.toList) :
    commaNames (",".intercalate ns) = ns := by
  by_cases hns : ns = []
  · subst hns
    rfl
  · have hsplit : Form.splitAll ',' (",".intercalate ns).toList = ns.map String.toList := by
      rw [String.toList_intercalate]
      refine Form.splitAll_intercalate (by simpa using hns) ?_
      simpa using fun n hn => (h n hn).2
    have hkeep : (ns.map String.toList).filter (!·.isEmpty) = ns.map String.toList := by
      rw [List.filter_eq_self]
      simpa using fun n hn => (h n hn).1
    rw [commaNames, hsplit, hkeep, List.map_map]
    simp [Function.comp_def]

end Json

namespace Resolver

/-! ## Listing once -/

/-- A resolver that lists the names to include when it is first asked for one, and keeps the
list. -/
structure Listing where
  resolver : Resolver
  names : Option (List String)

namespace Listing

/-- A resolver that has not been asked for a name yet. -/
def new (params : Params) (mainType : String) (jobs : Option JobRegistry) : Listing :=
  ⟨.new params mainType jobs, none⟩

/-- The names to include: those that are kept, or else those that the bag lists. -/
def listed (l : Listing) : List String :=
  l.names.getD (Json.names (l.resolver.params.get? Params.includeKey))

/-- Whether a name is to be included in the answer, and the resolver that keeps the list. -/
def includes (l : Listing) (key : String) : Bool × Listing :=
  (l.listed.contains key, { l with names := some l.listed })

/-- The resolver after a call. -/
def step (l : Listing) : Call → Listing
  | .includes key => (l.includes key).2
  | call => { l with resolver := l.resolver.step call }

/-- The resolver after several calls. -/
def run (l : Listing) (calls : List Call) : Listing := calls.foldl step l

/-- After some calls, all but the list is as it would be without it, and a list that was made has the
names of the bag of the start. -/
structure Keeps (p : Params) (mainType : String) (jobs : Option JobRegistry) (calls : List Call)
    (l : Listing) : Prop where
  resolver_eq : l.resolver = (Resolver.new p mainType jobs).run calls
  names_eq : ∀ ns, l.names = some ns → ns = Json.names (p.get? Params.includeKey)

variable {p : Params} {mainType : String} {jobs : Option JobRegistry} {calls : List Call}
  {l : Listing}

namespace Keeps

theorem new (p : Params) (mainType : String) (jobs : Option JobRegistry) :
    Keeps p mainType jobs [] (.new p mainType jobs) := by
  refine ⟨rfl, fun ns hns => ?_⟩
  cases hns

theorem listed_eq (h : Keeps p mainType jobs calls l) :
    l.listed = Json.names (p.get? Params.includeKey) := by
  rw [listed]
  cases hnames : l.names with
  | none => rw [h.resolver_eq, (remembers_run p mainType jobs calls).params_eq, Option.getD_none]
  | some ns => rw [Option.getD_some, h.names_eq ns hnames]

/-- Every call keeps the list right. -/
theorem step (h : Keeps p mainType jobs calls l) (call : Call) :
    Keeps p mainType jobs (calls ++ [call]) (l.step call) := by
  have hrun : (Resolver.new p mainType jobs).run (calls ++ [call]) = l.resolver.step call := by
    rw [h.resolver_eq, Resolver.run, List.foldl_append]
    rfl
  cases call with
  | includes key =>
    -- the only call that makes a list, from the bag that no call changes
    refine ⟨hrun.symm, fun ns hns => ?_⟩
    rw [← h.listed_eq]
    exact (Option.some.inj hns).symm
  | _ => exact ⟨hrun.symm, h.names_eq⟩

/-- So do several calls. -/
theorem run (h : Keeps p mainType jobs calls l) (more : List Call) :
    Keeps p mainType jobs (calls ++ more) (l.run more) := by
  induction more generalizing calls l with
  | nil =>
    rw [List.append_nil]
    exact h
  | cons call more ih =>
    have hstep := ih (h.step call)
    rw [List.append_assoc] at hstep
    exact hstep

end Keeps

theorem keeps_run (p : Params) (mainType : String) (jobs : Option JobRegistry)
    (calls : List Call) : Keeps p mainType jobs calls ((new p mainType jobs).run calls) :=
  (Keeps.new p mainType jobs).run calls

end Listing

/-! ## Answers -/

/-- An answer to the question whether a name is to be included agrees with what a bag lists. -/
structure IncludesExactly (p : Params) (key : String) (answer : Bool) : Prop where
  iff_lists : answer = true ↔ Json.Lists key (p.get? Params.includeKey)
  eq_false : (∀ s, p.get? Params.includeKey ≠ some (.str s)) →
    (∀ items, p.get? Params.includeKey ≠ some (.arr items)) → answer = false
  iff_mem : ∀ ns : List String, (∀ n ∈ ns, n ≠ "" ∧ ',' ∉ n.toList) →
    p.get? Params.includeKey = some (.str (",".intercalate ns)) → (answer = true ↔ key ∈ ns)

theorem includesExactly_contains (p : Params) (key : String) :
    IncludesExactly p key ((Json.names (p.get? Params.includeKey)).contains key) where
  iff_lists := List.contains_iff_mem.trans Json.mem_names_iff
  eq_false htext hitems := by
    refine Bool.eq_false_iff.2 fun h => ?_
    have hlists := Json.mem_names_iff.1 (List.contains_iff_mem.1 h)
    generalize p.get? Params.includeKey = v at *
    cases hlists with
    | text => exact htext _ rfl
    | item => exact hitems _ rfl
  iff_mem ns hns h := by
    rw [h, List.contains_iff_mem, Json.names, Json.commaNames_intercalate hns]

/-- After any calls of a fresh resolver, a name is to be included exactly if the bag lists it, and
whether the list is made anew for each question or once for all makes no difference. -/
theorem includes_run (p : Params) (mainType : String) (jobs : Option JobRegistry)
    (calls : List Call) (key : String) :
    IncludesExactly p key (((new p mainType jobs).run calls).includes key) ∧
      IncludesExactly p key (((Listing.new p mainType jobs).run calls).includes key).1 := by
  have hlisted : (((Listing.new p mainType jobs).run calls).includes key).1 =
      (Json.names (p.get? Params.includeKey)).contains key := by
    rw [Listing.includes, (Listing.keeps_run p mainType jobs calls).listed_eq]
  rw [includes, (remembers_run p mainType jobs calls).params_eq, hlisted]
  exact ⟨includesExactly_contains p key, includesExactly_contains p key⟩

end Resolver

end RequestBinding
