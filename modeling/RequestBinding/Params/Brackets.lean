import RequestBinding.Params.Basic
import RequestBinding.Text.Form

/-!
# Keys with brackets

A key such as `base[a][b][]` puts a text into nested objects and arrays: each component in
brackets is a key of an object, and the empty component appends to an array. A key that is not
written that way is taken as a whole.

## Main definitions

* `Brackets.split` - base and components of a key
* `Brackets.spell` - the key with given base and components
* `Brackets.insert` - puts a text into nested members
* `Brackets.members` - the members that a list of pairs describes
-/

namespace RequestBinding.Brackets

/-- The components of a text that consists of brackets alone; none if it does not. Inside of a
bracket, `inner` is what has been read of the component, backwards. -/
def components : Option (List Char) → List Char → Option (List (List Char))
  | none, [] => some []
  | some _, [] => none
  | none, c :: rest => if c == '[' then components (some []) rest else none
  | some inner, c :: rest =>
    if c == ']' then (components none rest).map (inner.reverse :: ·)
    else components (some (c :: inner)) rest

/-- The base of a key and its components. A key that begins with a bracket, or is not a base
followed by brackets, has no components. -/
def splitChars (key : List Char) : List Char × List (List Char) :=
  let base := key.takeWhile (· != '[')
  match base, components none (key.dropWhile (· != '[')) with
  | _ :: _, some path => (base, path)
  | _, _ => (key, [])

/-- The base of a key and its components, as texts. -/
def split (key : String) : String × List String :=
  let (base, path) := splitChars key.toList
  (String.ofList base, path.map String.ofList)

/-- The characters of the key with a base and components. -/
def spellChars (base : List Char) (path : List (List Char)) : List Char :=
  base ++ path.flatMap fun c => '[' :: (c ++ [']'])

/-- The key with a base and components. -/
def spell (base : String) (path : List String) : String :=
  String.ofList (spellChars base.toList (path.map String.toList))

/-- Puts a text under a key or, by way of components, into what is under it. Without components
the text replaces what was there. An empty component appends to an array, and any component after
it is ignored; another component leads into an object. What is there and fits neither way is left
alone. -/
def insert (ms : List (String × Json)) (key : String) (path : List String) (value : String) :
    List (String × Json) :=
  match path with
  | [] => Members.put key (.str value) ms
  | next :: rest =>
    if next = "" then
      match Members.get? key ms with
      | none => Members.put key (.arr [.str value]) ms
      | some (.arr items) => Members.put key (.arr (items ++ [.str value])) ms
      | some _ => ms
    else
      match Members.get? key ms with
      | none => Members.put key (.obj (insert [] next rest value)) ms
      | some (.obj child) => Members.put key (.obj (insert child next rest value)) ms
      | some _ => ms

/-- Puts the text of one pair in. -/
def insertPair (ms : List (String × Json)) (pair : String × String) : List (String × Json) :=
  let (base, path) := split pair.1
  insert ms base path pair.2

/-- The members that a list of pairs describes. -/
def members (pairs : List (String × String)) : List (String × Json) :=
  pairs.foldl insertPair []

end RequestBinding.Brackets
