import RequestBinding.Params.Sources

/-!
# Bags in place

A bag is changed in place while a request is read: the changes tell what they found there, and one
that fails leaves behind whatever it has put in until then.

## Main definitions

* `Params.Update` - changes of a bag in place
* `Params.Update.insert`, `Params.Update.insertMissing`, `Params.Update.mergeMissing` - additions
* `Params.Update.extendQuery`, `Params.Update.extendForm`, `Params.Update.extendJson` - additions
  from a source
-/

namespace RequestBinding.Params

/-- A change of a bag in place. If it fails, what it has changed until then stays changed. -/
abbrev Update : Type → Type := EStateM BodyFault Params

namespace Update

/-- Puts a value under a key, whatever was there, and gives what was there. -/
def insert (k : String) (v : Json) : Update (Option Json) := do
  let p ← get
  set (p.insert k v)
  return p.get? k

/-- Puts a value under a key unless there is one, and tells whether it did. -/
def insertMissing (k : String) (v : Json) : Update Bool := do
  let p ← get
  if p.contains k then
    return false
  let _ ← insert k v
  return true

/-- Puts each value of a list under its key unless there is one by then. -/
def mergeMissing : List (String × Json) → Update Unit
  | [] => pure ()
  | m :: ms => do
    let _ ← insertMissing m.1 m.2
    mergeMissing ms

/-- Adds the pairs of an encoded text. -/
def extendPairs (bs : List UInt8) : Update Unit := mergeMissing (Brackets.members (Form.pairs bs))

/-- Adds the parameters of a query string, which cannot fail. -/
def extendQuery (query : String) : Update Unit := extendPairs (Utf8.encode query)

/-- Adds the parameters of a form body, which has to be UTF-8. -/
def extendForm (body : List UInt8) : Update Unit := do
  match Utf8.decode body with
  | .ok _ => extendPairs body
  | .error fault => throw (.notUtf8 fault)

/-- Adds the members of a JSON object. A blank body adds nothing. -/
def extendJson (body : List UInt8) : Update Unit := do
  if body.all isBlankByte then
    return
  match Json.readBytes body with
  | some (.obj members) => mergeMissing members
  | some v => throw (.notObject v.kind)
  | none => throw .notJson

end Update

end RequestBinding.Params
