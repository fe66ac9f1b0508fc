import RequestBinding.Json.Basic

/-!
# Bags of parameters

The parameters of one request: a map from keys to JSON values in the order of the keys. What is
put in first under a key stays when sources are merged; later sources only fill gaps.

## Main definitions

* `Params` - bags
* `Params.insert`, `Params.insertMissing`, `Params.mergeMissing` - additions
* `Params.typeHint` - the type that a request claims to be about
-/

namespace RequestBinding

/-- A bag of parameters. -/
structure Params where
  entries : List (String × Json)
  sorted : Members.Sorted entries := by exact Members.sorted_nil

namespace Params

/-- The bag without parameters. -/
def empty : Params := ⟨[], Members.sorted_nil⟩

instance : Inhabited Params := ⟨empty⟩

/-- The value under a key. -/
def get? (p : Params) (k : String) : Option Json := Members.get? k p.entries

/-- Whether there is a value under a key. -/
def contains (p : Params) (k : String) : Bool := Members.contains k p.entries

/-- The keys in order. -/
def keys (p : Params) : List String := p.entries.map (·.1)

/-- The number of parameters. -/
def size (p : Params) : Nat := p.entries.length

/-- Puts a value under a key, whatever was there. -/
def insert (p : Params) (k : String) (v : Json) : Params :=
  ⟨Members.put k v p.entries, Members.sorted_put p.sorted⟩

/-- Puts a value under a key unless there is one. -/
def insertMissing (p : Params) (k : String) (v : Json) : Params :=
  ⟨Members.putMissing k v p.entries, Members.sorted_putMissing p.sorted⟩

/-- Puts each value of a list under its key unless there is one by then. -/
def mergeMissing (p : Params) (ms : List (String × Json)) : Params :=
  ms.foldl (fun p m => p.insertMissing m.1 m.2) p

/-- The bag of a list of pairs; a later pair replaces an earlier one with the same key. -/
def ofList (ms : List (String × Json)) : Params := ⟨Members.ofList ms, Members.sorted_ofList ms⟩

/-- The bag as a JSON object. -/
def toJson (p : Params) : Json := .obj p.entries

/-- The key of the type that a request claims to be about. -/
def typeKey : String := "@type"

/-- The key of the list of things to include in an answer. -/
def includeKey : String := "include"

/-- The type that a request claims to be about. -/
def typeHint (p : Params) : Option String := (p.get? typeKey).bind Json.str?

end Params

end RequestBinding
