import RequestBinding.Json.Printer
import RequestBinding.Number.Decimal
import RequestBinding.Params.Error

/-!
# Looking users up

A user is looked up by login or by number. What refers to a user may be a login, a number, a record
that has a number, or a JSON value.

## Main definitions

* `UserCondition` - what a user is looked up by
* `UserReference`, `UserReference.condition` - what refers to a user
* `parseInt64?` - numbers of 64 bits in decimal
-/

namespace RequestBinding

/-- What a user is looked up by. -/
inductive UserCondition where
  | login (s : String)
  | id (n : Int)
  deriving Repr, DecidableEq

/-- What refers to a user. -/
inductive UserReference where
  | value (v : Json)
  | login (s : String)
  | id (n : Int)
  /-- A record that was loaded before; given is its number. -/
  | record (id : Int)

/-- The condition for a reference: a text is a login and an integer of 64 bits with sign is a
number; no other value refers to a user. -/
def UserReference.condition : UserReference → Except ParamsError UserCondition
  | .login s => .ok (.login s)
  | .id n => .ok (.id n)
  | .record n => .ok (.id n)
  | .value (.str s) => .ok (.login s)
  | .value v =>
    match v.int64? with
    | some n => .ok (.id n)
    | none => .error (.wrong ("cannot identify a user by " ++ v.render))

/-- The integer of 64 bits that a text denotes: an optional sign and decimal digits. -/
def parseInt64? (s : String) : Option Int :=
  let (negative, ds) :=
    match s.toList with
    | '-' :: rest => (true, rest)
    | '+' :: rest => (false, rest)
    | cs => (false, cs)
  match digitsValue? ds with
  | none => none
  | some n => (Json.int (if negative then -(n : Int) else n)).int64?

end RequestBinding
