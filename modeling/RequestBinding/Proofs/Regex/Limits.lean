import RequestBinding.Proofs.Regex.Reading
import RequestBinding.Regex.Pattern

/-!
# Well-formed patterns and limits

A pattern that can be matched is well-formed, and what it is read as is neither too deep nor too
large. So a pattern is refused for one of two reasons, which are told apart here.

## Main definitions

* `KeepsLimits` - what a pattern is read as is neither too deep nor too large

## Main statements

* `isSome_ofPattern?_iff` - the patterns that can be matched
-/

namespace RequestBinding.Regex

/-- What a pattern is read as, if it is well-formed, is neither too deep nor too large. -/
def KeepsLimits (pattern : List Char) : Prop :=
  ∀ b, parse? pattern = some b → b.nest ≤ maxNesting ∧ fits b.regex = true

/-- The patterns that can be matched are those that are well-formed and keep the limits. -/
theorem isSome_ofPattern?_iff (pattern : List Char) : (ofPattern? pattern).isSome = true ↔
    (parse? pattern).isSome = true ∧ KeepsLimits pattern := by
  rw [ofPattern?, read?_eq, KeepsLimits]
  cases parse? pattern with
  | none => simp
  | some b =>
    by_cases hnest : b.nest ≤ maxNesting
    · simp [hnest, Option.isSome_filter]
    · simp [hnest]

end RequestBinding.Regex
