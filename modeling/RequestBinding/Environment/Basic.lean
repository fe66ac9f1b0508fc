import RequestBinding.Members

/-!
# Environment variables

## Main definitions

* `Environment` - variables with their values
* `Environment.set`, `Environment.setMissing` - changes
-/

namespace RequestBinding

/-- The environment variables, in the order of their names. -/
structure Environment where
  entries : List (String × String)
  deriving Repr, DecidableEq

namespace Environment

/-- The environment of a list of variables; a later one replaces an earlier one of its name. -/
def ofList (ps : List (String × String)) : Environment := ⟨Members.ofList ps⟩

/-- The value of a variable. -/
def get? (e : Environment) (name : String) : Option String := Members.get? name e.entries

/-- Sets a variable unless it is set. -/
def setMissing (e : Environment) (name value : String) : Environment :=
  ⟨Members.putMissing name value e.entries⟩

end Environment

end RequestBinding
