import RequestBinding.Proofs.Binder.Precedence
import RequestBinding.Proofs.Json.Nesting
import RequestBinding.Proofs.Params.Brackets
import RequestBinding.Proofs.Resolver.Lookup

/-!
# How deeply parameters are nested

What is captured from a path is a text, and a JSON body is nested as deeply as the reader allows.
The brackets of a key in a query or a form are nested as deeply as they are written: nothing but the
key itself is a bound there.

## Main definitions

* `Params.Received` - bags of received values
* `Binder.sentPairs` - the pairs that a request sends

## Main statements

* `Brackets.received_members` - a key with brackets nests as many containers as it has components
* `Binder.received_of_gather` - the parameters of a request are received values
* `Params.Received.lookup` - so are the values of fields
-/

namespace RequestBinding

open Json (Received maxDepth)

/-! ## Keys with brackets -/

namespace Brackets

variable {n : Nat} {ms : List (String × Json)}

theorem received_put {key : String} {v : Json} (hv : Received n v)
    (hms : ∀ m ∈ ms, Received n m.2) : ∀ m ∈ Members.put key v ms, Received n m.2 := by
  intro m hm
  rcases Members.mem_put hm with rfl | hm
  · exact hv
  · exact hms m hm

/-- A text that is put in nests at most as many containers as there are components. -/
theorem received_insert (key : String) {path : List String} (hpath : path.length ≤ n)
    (value : String) (hms : ∀ m ∈ ms, Received n m.2) :
    ∀ m ∈ insert ms key path value, Received n m.2 := by
  induction path generalizing n ms key with
  | nil =>
    rw [insert]
    exact received_put (.str n value) hms
  | cons next rest ih =>
    obtain ⟨n, rfl⟩ := Nat.exists_eq_add_of_le' (Nat.le_of_add_left_le hpath)
    have hrest : rest.length ≤ n := Nat.le_of_succ_le_succ hpath
    rw [insert]
    split
    · split
      · exact received_put (.arr (List.forall_mem_singleton.2 (.str n value))) hms
      · next items hget =>
        have hitems := (hms _ (Members.mem_of_get? hget)).of_mem_arr
        exact received_put (.arr (List.forall_mem_append.2
          ⟨hitems, List.forall_mem_singleton.2 (.str n value)⟩)) hms
      · exact hms
    · split
      · exact received_put (.obj (ih next hrest (List.forall_mem_nil _))) hms
      · next child hget =>
        have hchild := (hms _ (Members.mem_of_get? hget)).of_mem_obj
        exact received_put (.obj (ih next hrest hchild)) hms
      · exact hms

/-- The members that pairs describe are nested at most as deeply as their keys have components. -/
theorem received_members {pairs : List (String × String)}
    (h : ∀ pair ∈ pairs, (split pair.1).2.length ≤ n) :
    ∀ m ∈ members pairs, Received n m.2 := by
  have hfold : ∀ ms : List (String × Json), (∀ m ∈ ms, Received n m.2) →
      ∀ m ∈ pairs.foldl insertPair ms, Received n m.2 := by
    induction pairs with
    | nil => exact fun _ hms => hms
    | cons pair pairs ih =>
      obtain ⟨hpair, hpairs⟩ := List.forall_mem_cons.1 h
      exact fun ms hms => ih hpairs _ (received_insert _ hpair pair.2 hms)
  exact hfold [] (List.forall_mem_nil _)

end Brackets

/-! ## Bags -/

namespace Params

/-- All values of a bag are received. -/
def Received (n : Nat) (p : Params) : Prop := ∀ k v, p.get? k = some v → Json.Received n v

variable {n : Nat} {p : Params}

theorem Received.mergeMissing (hp : p.Received n) {ms : List (String × Json)}
    (hms : ∀ m ∈ ms, Json.Received n m.2) : (p.mergeMissing ms).Received n := by
  intro k v hv
  rw [get?_mergeMissing, Option.or_eq_some_iff] at hv
  rcases hv with hv | ⟨-, hv⟩
  · exact hp k v hv
  · exact hms _ (Members.mem_of_get? hv)

/-- The value of a field stands in the bag, or within a value of the bag. -/
theorem Received.lookup (hp : p.Received n) {mainType : String} {f : Field} {v : Json}
    (hv : Resolver.lookup p mainType f = some v) : Json.Received n v := by
  cases Resolver.lookup_eq_iff.1 hv with
  | value h =>
    generalize hdecided : some v = decided at h
    cases h with
    | qualified hq =>
      cases hdecided
      exact hp _ _ hq
    | nested _ ho =>
      cases hp _ _ ho with
      | obj hmembers => exact (hmembers _ (Members.mem_of_get? hdecided.symm)).mono (Nat.le_succ _)
    | bare => exact hp _ _ hdecided.symm
    | nowhere => cases hdecided

end Params

/-! ## Requests -/

/-- The pairs of a body, if it is a form. -/
def Body.pairs : Body → List (String × String)
  | .form bytes => Form.pairs bytes
  | _ => []

/-- What a body adds is received, as deeply as its keys are nested or the reader allows. -/
theorem Body.received_extend {n : Nat} (hn : maxDepth ≤ n + 1) {body : Body}
    (hpairs : ∀ pair ∈ body.pairs, (Brackets.split pair.1).2.length ≤ n) {p p' : Params}
    (hp : p.Received n) (h : body.extend p = .ok p') : p'.Received n := by
  cases body with
  | json bytes =>
    rw [extend, Params.extendJson] at h
    split at h
    · cases h
      exact hp
    · split at h
      · next members hmembers =>
        cases h
        have hreceived := (Json.received_of_readBytes hmembers).mono hn
        exact hp.mergeMissing hreceived.of_mem_obj
      · cases h
      · cases h
  | form bytes =>
    rw [extend, Params.extendForm] at h
    split at h
    · cases h
      exact hp.mergeMissing (Brackets.received_members hpairs)
    · cases h
  | ignored =>
    cases h
    exact hp

namespace Binder

/-- The pairs of the query and the body of a request. -/
def sentPairs (query : Option String) (body : Body) : List (String × String) :=
  query.elim [] (fun q => Form.pairs (Utf8.encode q)) ++ body.pairs

/-- What is gathered is received, as deeply as its keys are nested or the reader allows. -/
theorem received_of_gather {n : Nat} (hn : maxDepth ≤ n + 1) {c : Captures}
    {query : Option String} {body : Body}
    (hpairs : ∀ pair ∈ sentPairs query body, (Brackets.split pair.1).2.length ≤ n) {p : Params}
    (h : gather c query body = .ok p) : p.Received n := by
  obtain ⟨hquery, hbody⟩ := List.forall_mem_append.1 hpairs
  have hcaptured : (captured c).Received n := by
    intro k v hv
    rw [get?_captured] at hv
    obtain ⟨pair, -, rfl⟩ := Option.map_eq_some_iff.1 hv
    exact .str n pair.2
  rw [gather_eq] at h
  refine Body.received_extend hn hbody ?_ h
  cases query with
  | none => exact hcaptured
  | some q => exact hcaptured.mergeMissing (Brackets.received_members hquery)

end Binder

end RequestBinding
