import RequestBinding.Jobs.Basic
import RequestBinding.Params.Sources

/-!
# Errors about parameters

A query string is never the reason, since every text is one (`Params.extendQuery`).

## Main definitions

* `ParamsError` - why parameters cannot be used
* `ParamsError.toRequestError` - the error of the request
-/

namespace RequestBinding

/-- Why parameters cannot be used. -/
inductive ParamsError where
  /-- A required parameter is missing; given is its qualified name. -/
  | missing (qualified : String)
  | wrong (message : String)
  | body (fault : BodyFault)
  | job (e : JobError)
  deriving Repr, DecidableEq

namespace ParamsError

/-- The wording of an error. -/
def message : ParamsError → String
  | .missing qualified => "missing " ++ qualified
  | .wrong m => m
  | .body fault => "invalid request body: " ++ fault.reason
  | .job e => e.message

/-- The category of an error: only a failed job is not the client's fault. -/
def category : ParamsError → ErrorCategory
  | .job _ => .internal
  | _ => .wrongParams

/-- The error of the request. -/
def toRequestError : ParamsError → RequestError
  | .missing qualified => .missingField qualified
  | .wrong m => .wrongParams m none
  | .body fault => .wrongParams (ParamsError.body fault).message none
  | .job e => e.toRequestError

end ParamsError

end RequestBinding
