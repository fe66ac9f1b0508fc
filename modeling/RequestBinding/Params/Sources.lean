import RequestBinding.Json.Reader
import RequestBinding.Params.Brackets

/-!
# Sources of parameters

Parameters come from the query string, a form body or a JSON body. Each source is read by itself
and then fills the gaps of the bag, so a failed source leaves the bag as it was. Only bodies can
fail: decoding the pairs of a query keeps an escape that is none as it is and replaces what is not
UTF-8, so that every text is a query.

## Main definitions

* `BodyFault` - why a body cannot be read
* `Params.extendQuery`, `Params.extendForm`, `Params.extendJson` - additions from a source
-/

namespace RequestBinding

/-- Why a body cannot be read. -/
inductive BodyFault where
  | notUtf8 (fault : Utf8.Fault)
  | notJson
  /-- The body is JSON, but of this kind and no object. -/
  | notObject (kind : String)
  deriving Repr, DecidableEq

/-- The wording of a fault. -/
def BodyFault.reason : BodyFault → String
  | .notUtf8 fault => "form body is not UTF-8: " ++ fault.message
  | .notJson => "<json error>"
  | .notObject kind => "expected a JSON object, got " ++ kind

namespace Params

/-- Adds the pairs of an encoded text. -/
def extendPairs (p : Params) (bs : List UInt8) : Params :=
  p.mergeMissing (Brackets.members (Form.pairs bs))

/-- Adds the parameters of a query string. Every text is one, so this cannot fail. -/
def extendQuery (p : Params) (query : String) : Params := p.extendPairs (Utf8.encode query)

/-- Adds the parameters of a form body, which has to be UTF-8. -/
def extendForm (p : Params) (body : List UInt8) : Except BodyFault Params :=
  match Utf8.decode body with
  | .ok _ => .ok (p.extendPairs body)
  | .error fault => .error (.notUtf8 fault)

/-- The bytes that a blank body consists of. -/
def isBlankByte (b : UInt8) : Bool := b == 0x20 || b == 0x09 || b == 0x0A || b == 0x0C || b == 0x0D

/-- Adds the members of a JSON object. A blank body adds nothing. -/
def extendJson (p : Params) (body : List UInt8) : Except BodyFault Params :=
  if body.all isBlankByte then .ok p
  else
    match Json.readBytes body with
    | some (.obj members) => .ok (p.mergeMissing members)
    | some v => .error (.notObject v.kind)
    | none => .error .notJson

end Params

end RequestBinding
