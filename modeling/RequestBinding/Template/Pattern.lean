import RequestBinding.Constraint
import RequestBinding.Template.Reader

/-!
# Patterns of templates

The pattern of a template matches the paths of the template from start to end. Literal text
matches itself; each placeholder is a named group with the pattern of its constraint, the names
being `c0`, `c1`, … from left to right; an alternation prefers its alternatives in order.

## Main definitions

* `Draft` - pattern text and groups while a pattern is assembled
* `Draft.segments` - adds segments
* `Pattern` - an assembled pattern with its expression
* `Pattern.ofTemplates` - the pattern of a chain of templates
-/

namespace RequestBinding

/-- A group of a pattern and the key of the placeholder it captures. -/
structure CaptureGroup where
  name : String
  key : String
  deriving Repr, DecidableEq

/-- A pattern being assembled: its text without the anchors, and its groups in order. -/
structure Draft where
  text : List Char
  groups : List CaptureGroup
  deriving Repr

namespace Draft

/-- Nothing assembled. -/
def empty : Draft := ⟨[], []⟩

/-- Adds text. -/
def put (d : Draft) (cs : List Char) : Draft := ⟨d.text ++ cs, d.groups⟩

/-- The name of the next group. -/
def nextName (d : Draft) : String := "c" ++ toString d.groups.length

mutual

/-- Adds one segment. -/
def segment (cs : Constraints) (d : Draft) : Segment → Draft
  | .literal text => d.put (Regex.escape text)
  | .placeholder resource field =>
    let name := d.nextName
    let inner := cs.pattern (String.ofList resource) (String.ofList field)
    ⟨d.text ++ ("(?P<" ++ name ++ ">" ++ inner ++ ")").toList,
      d.groups ++ [⟨name, Segment.key resource field⟩]⟩
  | .alternation alternatives =>
    (Draft.alternatives cs true (d.put ['(', '?', ':']) alternatives).put [')']

/-- Adds a sequence of segments. -/
def segments (cs : Constraints) (d : Draft) : List Segment → Draft
  | [] => d
  | s :: rest => segments cs (segment cs d s) rest

/-- Adds alternatives with bars between them. -/
def alternatives (cs : Constraints) (first : Bool) (d : Draft) : List (List Segment) → Draft
  | [] => d
  | a :: rest =>
    alternatives cs false (segments cs (if first then d else d.put ['|']) a) rest

end

/-- Adds the segments of a chain of templates. -/
def templates (cs : Constraints) (ts : List Template) : Draft :=
  ts.foldl (fun d t => d.segments cs t.segments) .empty

/-- The text with its anchors. -/
def anchored (d : Draft) : List Char := '^' :: (d.text ++ ['$'])

end Draft

/-- A pattern: its text, its expression, and its groups. -/
structure Pattern where
  text : String
  regex : Regex
  groups : List CaptureGroup
  deriving Repr, Inhabited

/-- The pattern of a chain of templates; none if the text is not a well-formed pattern. -/
def Pattern.ofTemplates (cs : Constraints) (ts : List Template) : Option Pattern :=
  let d := Draft.templates cs ts
  (Regex.ofPattern? d.anchored).map fun r => ⟨String.ofList d.anchored, r, d.groups⟩

end RequestBinding
