import RequestBinding.Template.Basic

/-!
# Reading templates

A template is read one character at a time, with a stack of open alternations. The name of a
placeholder runs up to the first closing brace, whatever stands in between.

## Main definitions

* `TemplateFault` - why a text is no template
* `Template` - a text with the segments read from it
* `Template.parse` - reads a template
-/

namespace RequestBinding

/-- Why a text is no template. -/
inductive TemplateFault where
  /-- A mark stands where none may stand; the offset counts characters. -/
  | unexpected (c : Char) (offset : Nat)
  | unclosedAlternation
  | unclosedPlaceholder
  /-- A placeholder has no dot. -/
  | unqualified (name : List Char)
  /-- A part of a placeholder is not a name. -/
  | malformed (name : List Char)
  /-- The assembled pattern is no regular expression. -/
  | pattern
  deriving Repr, DecidableEq

namespace TemplateFault

/-- A name in braces. -/
def braced (name : List Char) : String := "\x7b" ++ String.ofList name ++ "\x7d"

/-- The wording of a fault. -/
def reason : TemplateFault → String
  | .unexpected c offset => "unexpected '" ++ String.ofList [c] ++ "' at offset " ++ toString offset
  | .unclosedAlternation => "unclosed '('"
  | .unclosedPlaceholder => "unclosed placeholder"
  | .unqualified name => "placeholder '" ++ braced name ++ "' must be resource.field"
  | .malformed name => "invalid placeholder '" ++ braced name ++ "'"
  | .pattern => "<regex error>"

end TemplateFault

namespace Template

/-! ## States -/

/-- An open alternation: the segments before it and its finished alternatives, both latest
first. -/
structure Frame where
  before : List Segment
  alternatives : List (List Segment)
  deriving Repr

/-- What has been read: open alternations, innermost first; the segments of the current sequence,
latest first; the literal text being read and the name of the placeholder being read, both
backwards; and the number of characters. -/
structure State where
  frames : List Frame
  segments : List Segment
  literal : List Char
  name : Option (List Char)
  offset : Nat
  deriving Repr

namespace State

/-- Nothing read. -/
def initial : State := ⟨[], [], [], none, 0⟩

/-- The segments of the current sequence, latest first, with the literal text that was being
read. -/
def flushed (st : State) : List Segment :=
  if st.literal.isEmpty then st.segments else .literal st.literal.reverse :: st.segments

end State

/-- The placeholder with a name: the part before the first dot is the resource. -/
def placeholder (name : List Char) : Except TemplateFault Segment :=
  let resource := name.takeWhile (· != '.')
  match name.dropWhile (· != '.') with
  | [] => .error (.unqualified name)
  | _ :: field =>
    if Segment.isName resource && Segment.isName field then .ok (.placeholder resource field)
    else .error (.malformed name)

/-- Takes one character within the name of a placeholder. -/
def nameStep (st : State) (name : List Char) (c : Char) : Except TemplateFault State :=
  if c == '}' then
    match placeholder name.reverse with
    | .ok s => .ok { st with segments := s :: st.segments, name := none, offset := st.offset + 1 }
    | .error e => .error e
  else .ok { st with name := some (c :: name), offset := st.offset + 1 }

/-- Takes one character outside of placeholders. -/
def textStep (st : State) (c : Char) : Except TemplateFault State :=
  let offset := st.offset + 1
  match c with
  | '{' => .ok ⟨st.frames, st.flushed, [], some [], offset⟩
  | '(' => .ok ⟨⟨st.flushed, []⟩ :: st.frames, [], [], none, offset⟩
  | '|' =>
    match st.frames with
    | [] => .error (.unexpected c st.offset)
    | f :: frames =>
      .ok ⟨⟨f.before, st.flushed.reverse :: f.alternatives⟩ :: frames, [], [], none, offset⟩
  | ')' =>
    match st.frames with
    | [] => .error (.unexpected c st.offset)
    | f :: frames =>
      let all := (st.flushed.reverse :: f.alternatives).reverse
      .ok ⟨frames, .alternation all :: f.before, [], none, offset⟩
  | '}' => .error (.unexpected c st.offset)
  | c => .ok ⟨st.frames, st.segments, c :: st.literal, none, offset⟩

/-- Takes one character. -/
def step (st : State) (c : Char) : Except TemplateFault State :=
  match st.name with
  | some name => nameStep st name c
  | none => textStep st c

/-- Takes a list of characters. -/
def run (st : State) : List Char → Except TemplateFault State
  | [] => .ok st
  | c :: rest =>
    match step st c with
    | .ok st => run st rest
    | .error e => .error e

/-- The segments at the end of a text. -/
def finish (st : State) : Except TemplateFault (List Segment) :=
  match st.name, st.frames with
  | some _, _ => .error .unclosedPlaceholder
  | none, _ :: _ => .error .unclosedAlternation
  | none, [] => .ok st.flushed.reverse

/-- The segments of a text. -/
def read (cs : List Char) : Except TemplateFault (List Segment) :=
  match run .initial cs with
  | .ok st => finish st
  | .error e => .error e

end Template

/-- A template: its text and its segments. -/
structure Template where
  source : String
  segments : List Segment
  deriving Repr, Inhabited

/-- Reads a template. -/
def Template.parse (source : String) : Except TemplateFault Template :=
  match Template.read source.toList with
  | .ok ss => .ok ⟨source, ss⟩
  | .error e => .error e

end RequestBinding
