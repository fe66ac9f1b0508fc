import RequestBinding.Http.Method
import RequestBinding.Params.Error
import RequestBinding.Unicode.Case

/-!
# Bodies of requests

How a body is read depends on its content type: JSON, a form, or not at all.

## Main definitions

* `Body`, `Body.classify` - bodies and how they are read
* `Body.extend` - adds the parameters of a body
-/

namespace RequestBinding

/-- A body, by the way it is read. -/
inductive Body where
  | json (bytes : List UInt8)
  | form (bytes : List UInt8)
  | ignored
  deriving Repr, DecidableEq

namespace Body

/-- The media type of a content type: what stands before the first semicolon, without blanks around
it and in small letters. -/
def mediaType (contentType : String) : String :=
  Header.lower
    (String.ofList (Unicode.trimBlank (contentType.toList.takeWhile (· != ';'))))

/-- Whether a media type is JSON or based on it. -/
def isJson (mediaType : String) : Bool :=
  mediaType == "application/json" || "+json".toList.isSuffixOf mediaType.toList

/-- How a body with a content type is read; without one it is JSON. -/
def classify (contentType : Option String) (bytes : List UInt8) : Body :=
  match contentType.map mediaType with
  | none => .json bytes
  | some t =>
    if t == "application/x-www-form-urlencoded" then .form bytes
    else if isJson t then .json bytes
    else .ignored

/-- The content type that a list of header fields states: the first one counts, and none that has
other characters than visible ASCII. -/
def contentType? (headers : List (String × String)) : Option String :=
  match headers.find? (fun h => Header.lower h.1 == "content-type") with
  | some h => Header.visible? h.2
  | none => none

/-- Adds the parameters of a body. -/
def extend (b : Body) (p : Params) : Except BodyFault Params :=
  match b with
  | .json bytes => p.extendJson bytes
  | .form bytes => p.extendForm bytes
  | .ignored => .ok p

end Body

end RequestBinding
