import RequestBinding.Unicode.RangeSet

/-!
# Regular expressions

Expressions over characters: texts, sets, conditions on places, concatenation, alternation,
counted repetition and groups. Concatenations of several parts are nested to the left, alternations
of several branches to the right.

## Main definitions

* `Look` - conditions on places
* `Regex` - the expressions
* `Regex.minLength`, `Regex.isVacuous` - bounds of what an expression takes
* `Regex.startsAtStart`, `Regex.endsAtEnd` - expressions that are tied to the ends of a text
-/

namespace RequestBinding

namespace Regex

/-- Conditions on a place that take no characters. -/
inductive Look where
  | textStart
  | textEnd
  /-- The start of a line; a carriage return ends a line too if `crlf` is set. -/
  | lineStart (crlf : Bool)
  | lineEnd (crlf : Bool)
  | wordEdge (unicode : Bool)
  | noWordEdge (unicode : Bool)
  | wordStart (unicode : Bool)
  | wordEnd (unicode : Bool)
  | wordStartHalf (unicode : Bool)
  | wordEndHalf (unicode : Bool)
  deriving Repr, DecidableEq

end Regex

/-- A regular expression. -/
inductive Regex where
  /-- The empty text. -/
  | empty
  /-- A text that is not empty. -/
  | literal (text : List Char)
  /-- One character of a set. -/
  | set (s : Unicode.RangeSet)
  /-- The empty text at a place where a condition holds. -/
  | look (l : Regex.Look)
  | seq (r s : Regex)
  /-- Either of two expressions, of which the first is preferred. -/
  | alt (r s : Regex)
  /-- From `low` to `high` times an expression; more iterations are preferred if `greedy` is set. -/
  | rep (greedy : Bool) (low : Nat) (high : Option Nat) (r : Regex)
  /-- A group, which captures what it matches if it has a name. -/
  | group (name : Option String) (r : Regex)
  deriving Repr, DecidableEq, Inhabited

namespace Regex

/-- The expression that matches nothing. -/
def fail : Regex := .set .empty

/-! ## Lengths -/

/-- A lower bound of the number of characters that an expression takes; none if it is plain that the
expression never matches. -/
def minLength : Regex → Option Nat
  | .empty => some 0
  | .literal text => some text.length
  | .set s => if s.isEmpty then none else some 1
  | .look _ => some 0
  | .seq r s =>
    match r.minLength, s.minLength with
    | some m, some n => some (m + n)
    | _, _ => none
  | .alt r s =>
    match r.minLength, s.minLength with
    | some m, some n => some (min m n)
    | _, _ => none
  | .rep _ low _ r => r.minLength.map (low * ·)
  | .group _ r => r.minLength

/-- Whether every match takes at least one character. -/
def takesSome (r : Regex) : Bool := r.minLength.any (0 < ·)

/-- Whether it is plain that an expression takes no characters. -/
def isVacuous : Regex → Bool
  | .empty | .look _ => true
  | .literal _ | .set _ => false
  | .seq r s | .alt r s => r.isVacuous && s.isVacuous
  | .rep _ _ high r => high.isSome && r.isVacuous
  | .group _ r => r.isVacuous

/-! ## Conditions within expressions -/

/-- Whether matches start at the start of the text alone. -/
def startsAtStart : Regex → Bool
  | .look l => l == .textStart
  | .seq r s => r.startsAtStart || (r.isVacuous && s.startsAtStart)
  | .alt r s => r.startsAtStart && s.startsAtStart
  | .rep _ low _ r => 0 < low && r.startsAtStart
  | .group _ r => r.startsAtStart
  | _ => false

/-- Whether matches end at the end of the text alone. -/
def endsAtEnd : Regex → Bool
  | .look l => l == .textEnd
  | .seq r s => s.endsAtEnd || (s.isVacuous && r.endsAtEnd)
  | .alt r s => r.endsAtEnd && s.endsAtEnd
  | .rep _ low _ r => 0 < low && r.endsAtEnd
  | .group _ r => r.endsAtEnd
  | _ => false

/-- Whether a condition depends on word characters beyond ASCII. -/
def Look.isUnicodeWord : Look → Bool
  | .wordEdge u | .noWordEdge u | .wordStart u | .wordEnd u | .wordStartHalf u | .wordEndHalf u => u
  | _ => false

/-- Whether an expression looks for edges of words beyond ASCII. -/
def hasUnicodeWord : Regex → Bool
  | .look l => l.isUnicodeWord
  | .seq r s | .alt r s => r.hasUnicodeWord || s.hasUnicodeWord
  | .rep _ _ _ r => r.hasUnicodeWord
  | .group _ r => r.hasUnicodeWord
  | _ => false

/-- Whether an expression has repetitions that can be gone through in different ways, an optional
part apart. -/
def hasLoop : Regex → Bool
  | .seq r s | .alt r s => r.hasLoop || s.hasLoop
  | .rep _ low high r => r.hasLoop || high.all (max low 1 < ·)
  | .group _ r => r.hasLoop
  | _ => false

/-- Whether an expression has groups. -/
def hasGroup : Regex → Bool
  | .seq r s | .alt r s => r.hasGroup || s.hasGroup
  | .rep _ _ _ r => r.hasGroup
  | .group _ _ => true
  | _ => false

end Regex

end RequestBinding
