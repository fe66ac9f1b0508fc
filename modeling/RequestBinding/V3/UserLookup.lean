import RequestBinding.Resolver

/-!
# Looking up the user of a request

## Main definitions

* `UserLookup.fields` - the parameters by name
* `UserLookup.condition` - what the user is looked up by
-/

namespace RequestBinding.UserLookup

def id : Field := ⟨"user", "id"⟩
def login : Field := ⟨"user", "login"⟩

/-- The parameters with the names under which they are read. -/
def fields : List (String × Field) := [("id", id), ("login", login)]

/-- The condition for the value of the number: a text has to denote an integer of 64 bits. -/
def ofId : Json → Except ParamsError UserCondition
  | .str raw =>
    match parseInt64? raw with
    | some n => .ok (.id n)
    | none => .error (.wrong ("invalid user.id: " ++ raw))
  | v => (UserReference.value v).condition

/-- The condition for the value of the login. -/
def ofLogin : Option Json → Except ParamsError UserCondition
  | some (.str login) => .ok (.login login)
  | some _ => .error (.wrong "invalid user.login")
  | none => .error (.wrong "missing user.id or user.login")

/-- What the user is looked up by: the number if there is one, else the login. -/
def condition (r : Resolver) : Traced (Except ParamsError UserCondition × Resolver) :=
  (r.resolve id).bind fun (v, r) =>
    match v with
    | some v => .pure (ofId v, r)
    | none => (r.resolve login).map fun (v, r) => (ofLogin v, r)

end RequestBinding.UserLookup
