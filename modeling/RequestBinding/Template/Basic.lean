/-!
# Path templates

A template is a sequence of segments: literal text, placeholders `{resource.field}`, and
alternations `(a|b|c)` of templates. `render` writes a template down; `Normal` describes the
segment sequences that reading produces, which are those that can be told from their text.

## Main definitions

* `Segment` - the segments
* `Segment.render` - the text of segments
* `Segment.Normal` - segments in normal form
* `Segment.keys` - the placeholders from left to right
-/

namespace RequestBinding

/-- A segment of a template. -/
inductive Segment where
  | literal (text : List Char)
  | placeholder (resource field : List Char)
  | alternation (alternatives : List (List Segment))
  deriving Repr, Inhabited

namespace Segment

/-! ## Text -/

mutual

/-- The text of one segment. -/
def renderOne : Segment → List Char
  | .literal text => text
  | .placeholder resource field => '{' :: (resource ++ '.' :: (field ++ ['}']))
  | .alternation alternatives => '(' :: (renderAlternatives alternatives ++ [')'])

/-- The text of a sequence of segments. -/
def render : List Segment → List Char
  | [] => []
  | s :: rest => renderOne s ++ render rest

/-- The texts of alternatives with bars between them. -/
def renderAlternatives : List (List Segment) → List Char
  | [] => []
  | [a] => render a
  | a :: b :: rest => render a ++ '|' :: renderAlternatives (b :: rest)

end

/-! ## Normal form -/

/-- The characters with a meaning in templates. -/
def isMark (c : Char) : Bool := c == '{' || c == '}' || c == '(' || c == ')' || c == '|'

/-- The characters of resource and field names in placeholders. -/
def isNameChar (c : Char) : Bool := c.isAlphanum || c == '_'

/-- A name in a placeholder is not empty and has ASCII letters, digits and underscores alone. -/
def isName (cs : List Char) : Bool := !cs.isEmpty && cs.all isNameChar

/-- Whether a segment is literal text. -/
def isLiteral : Segment → Bool
  | .literal _ => true
  | _ => false

mutual

/-- A segment in normal form: literals are not empty and free of marks, names are proper, and
there is at least one alternative. -/
def NormalOne : Segment → Prop
  | .literal text => text ≠ [] ∧ text.all (!isMark ·) = true
  | .placeholder resource field => isName resource = true ∧ isName field = true
  | .alternation alternatives => alternatives ≠ [] ∧ NormalAlternatives alternatives

/-- A sequence in normal form has no two literals next to each other. -/
def Normal : List Segment → Prop
  | [] => True
  | s :: rest => NormalOne s ∧ (s.isLiteral = true → rest.head?.any isLiteral = false) ∧ Normal rest

/-- Alternatives in normal form. -/
def NormalAlternatives : List (List Segment) → Prop
  | [] => True
  | a :: rest => Normal a ∧ NormalAlternatives rest

end

/-! ## Placeholders -/

/-- The key under which a placeholder captures. -/
def key (resource field : List Char) : String := String.ofList (resource ++ '.' :: field)

mutual

/-- The keys of the placeholders of one segment. -/
def keysOne : Segment → List String
  | .literal _ => []
  | .placeholder resource field => [key resource field]
  | .alternation alternatives => keysAlternatives alternatives

/-- The keys of the placeholders of a sequence, from left to right. -/
def keys : List Segment → List String
  | [] => []
  | s :: rest => keysOne s ++ keys rest

/-- The keys of the placeholders of alternatives. -/
def keysAlternatives : List (List Segment) → List String
  | [] => []
  | a :: rest => keys a ++ keysAlternatives rest

end

end Segment

end RequestBinding
