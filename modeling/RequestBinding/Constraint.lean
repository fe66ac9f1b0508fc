import RequestBinding.Regex.Pattern

/-!
# Constraints of placeholders

A constraint is the pattern that the text of a placeholder has to match. Constraints are declared
for a field, or for a field of a certain resource, which takes precedence.

## Main definitions

* `Constraint` - the constraints and their patterns
* `Constraint.check` - whether a constraint can be used
* `Constraints` - declared constraints, with `Constraints.overlay` and `Constraints.pattern`
-/

namespace RequestBinding

/-- What the text of a placeholder has to look like. -/
inductive Constraint where
  | digits
  | pattern (text : String)
  deriving Repr, DecidableEq

/-- Why a constraint cannot be used. -/
inductive ConstraintFault where
  | emptyPattern
  | malformed
  deriving Repr, DecidableEq

/-- The wording of a fault. -/
def ConstraintFault.reason : ConstraintFault → String
  | .emptyPattern => "empty pattern"
  | .malformed => "<regex error>"

namespace Constraint

/-- The pattern of placeholders without a constraint: the rest of a path segment. -/
def defaultPattern : String := "[^/?#]+"

/-- The pattern of an owner and a name with an escaped slash between them. -/
def slugPattern : String := "[^/]+%2[fF][^/]+"

/-- The constraint for an owner and a name with an escaped slash between them. -/
def slug : Constraint := .pattern slugPattern

/-- The pattern of a constraint. -/
def regex : Constraint → String
  | .digits => "[0-9]+"
  | .pattern text => text

/-- Whether a constraint can be used: its pattern is not empty and well-formed by itself. -/
def check : Constraint → Except ConstraintFault Unit
  | .digits => .ok ()
  | .pattern text =>
    if text.isEmpty then .error .emptyPattern
    else if (Regex.ofPattern? text.toList).isSome then .ok ()
    else .error .malformed

end Constraint

/-- Declared constraints by field, the ones that take precedence first. -/
structure Constraints where
  entries : List (String × Constraint)
  deriving Repr, DecidableEq

namespace Constraints

/-- No constraints. -/
def empty : Constraints := ⟨[]⟩

/-- Whether there are no constraints. -/
def isEmpty (cs : Constraints) : Bool := cs.entries.isEmpty

/-- Declares a constraint for a field; an earlier one for the same field is dropped. -/
def declare (cs : Constraints) (field : String) (c : Constraint) : Constraints :=
  ⟨cs.entries.filter (·.1 != field) ++ [(field, c)]⟩

/-- The constraint declared for exactly this field. -/
def get? (cs : Constraints) (field : String) : Option Constraint :=
  (cs.entries.find? (·.1 == field)).map (·.2)

/-- The constraints of a resource within those it inherits: its own ones take precedence. -/
def overlay (inherited own : Constraints) : Constraints := ⟨own.entries ++ inherited.entries⟩

/-- The first constraint that cannot be used, with its field. -/
def fault? (cs : Constraints) : Option (String × ConstraintFault) :=
  cs.entries.findSome? fun (field, c) =>
    match c.check with
    | .ok _ => none
    | .error e => some (field, e)

/-- The pattern for a placeholder: that of its qualified name, else that of its field, else the
default. -/
def pattern (cs : Constraints) (resource field : String) : String :=
  match cs.get? (resource ++ "." ++ field), cs.get? field with
  | some c, _ => c.regex
  | none, some c => c.regex
  | none, none => Constraint.defaultPattern

end Constraints

end RequestBinding
