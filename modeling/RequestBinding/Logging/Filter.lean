import RequestBinding.Number.Decimal
import RequestBinding.Regex.Syntax
import RequestBinding.Signal
import RequestBinding.Text.Form

/-!
# Filters for log events

A filter is a list of directives with commas between them, such as `warn,routes=debug`. A directive
sets a level for the events whose target begins with a text, or for what happens in certain spans.
The most specific directive that concerns an event decides on it.

## Main definitions

* `Directive`, `Directive.read` - directives
* `Filter`, `Filter.read` - filters
* `Filter.enables` - whether an event passes
-/

namespace RequestBinding

/-- How much passes a directive: nothing, or the events up to a level. -/
abbrev Threshold := Option Level

/-- A directive: its threshold, the beginning of the targets it concerns, the span it is for, and
the fields it asks for, each with a flag that says whether a value is asked for. -/
structure Directive where
  level : Threshold
  target : Option String
  span : Option String
  fields : List (String × Bool)
  deriving Repr, DecidableEq

namespace Threshold

/-- The threshold with a number from zero to five. -/
def ofNumber? : Nat → Option Threshold
  | 0 => some none
  | 1 => some (some .error)
  | 2 => some (some .warn)
  | 3 => some (some .info)
  | 4 => some (some .debug)
  | 5 => some (some .trace)
  | _ => none

/-- The threshold with a name in small letters; no name stands for errors. -/
def ofName? : String → Option Threshold
  | "" => some (some .error)
  | "off" => some none
  | "error" => some (some .error)
  | "warn" => some (some .warn)
  | "info" => some (some .info)
  | "debug" => some (some .debug)
  | "trace" => some (some .trace)
  | _ => none

/-- The threshold that a text denotes, as a number or as a name in any case. -/
def ofString? (s : String) : Option Threshold :=
  match (unsignedValue? s.toList).bind ofNumber? with
  | some t => some t
  | none => ofName? (String.ofList (s.toList.map Char.toLower))

/-- A number that grows with what passes. -/
def verbosity : Threshold → Nat
  | none => 0
  | some l => l.verbosity

end Threshold

namespace Directive

/-! ## Reading -/

/-- The part of a directive being read, and where it started. -/
inductive Part where
  | start
  | name (first : Nat)
  | span (first : Nat)
  | field (first : Nat)
  | fields
  | afterSpan
  | level (first : Nat)
  deriving Repr, DecidableEq

/-- A directive being read. -/
structure Draft where
  part : Part
  directive : Directive
  deriving Repr

/-- Whether a directive may begin with a character, brackets apart. -/
def isFirst (c : Char) : Bool := c == '-' || c == ':' || c == '_' || Unicode.isAlphanumeric c

/-- The bytes of a text between two places, as a text. -/
def slice (text : List UInt8) (first last : Nat) : String :=
  String.ofList (Utf8.decodeLossy ((text.drop first).take (last - first)))

/-- Whether a text can be asked for as the value of a field: a number, or a pattern that needs no
edges of words beyond ASCII. -/
def isFieldValue (cs : List Char) : Bool :=
  let number :=
    match cs with
    | '+' :: rest => isDecimalNumber rest
    | cs => isDecimalNumber cs
  number || (Regex.read? cs).any (!·.hasUnicodeWord)

/-- A field that is asked for: its name, and after an equals sign its value. -/
def field? (text : String) : Option (String × Bool) :=
  match Form.splitAll '=' text.toList with
  | [name] => if name.isEmpty then none else some (String.ofList name, false)
  | name :: value :: _ => if isFieldValue value then some (String.ofList name, true) else none
  | [] => none

/-- Adds a field to a directive. -/
def addField (d : Directive) (text : String) : Option Directive :=
  (field? text).map fun f => { d with fields := d.fields ++ [f] }

/-- Takes the character at an offset. Offsets count bytes from the first character that is not
blank, while texts are cut from the directive with its blanks. -/
def step (text : List UInt8) (d : Draft) (i : Nat) (c : Char) : Option Draft :=
  match d.part, c with
  | .start, '[' => some { d with part := .span (i + 1) }
  | .start, c => if isFirst c then some { d with part := .name i } else none
  | .name first, '=' =>
    some ⟨.level (i + 1), { d.directive with target := some (slice text first i) }⟩
  | .name first, '[' =>
    some ⟨.span (i + 1), { d.directive with target := some (slice text first i) }⟩
  | .name _, _ => some d
  | .afterSpan, '=' => some { d with part := .level (i + 1) }
  | .span first, ']' =>
    some ⟨.afterSpan, { d.directive with span := some (slice text first i) }⟩
  | .span first, '{' =>
    let span := if first = i then none else some (slice text first i)
    some ⟨.field (i + 1), { d.directive with span := span }⟩
  | .span _, _ => some d
  | .field first, '}' => (addField d.directive (slice text first i)).map (⟨.fields, ·⟩)
  | .field _, _ => some d
  | .fields, ']' => some { d with part := .afterSpan }
  | .level _, _ => some d
  | .afterSpan, _ => none
  | .fields, _ => none

/-- Takes all characters from an offset on. -/
def run (text : List UInt8) (d : Draft) (i : Nat) : List Char → Option Draft
  | [] => some d
  | c :: rest =>
    match step text d i c with
    | some d => run text d (i + (Utf8.encodeChar c).length) rest
    | none => none

/-- A directive that is a level or else a target. -/
def ofName (d : Directive) (name : String) : Directive :=
  match Threshold.ofString? name with
  | some t => { d with level := t, target := none }
  | none => { d with level := some .trace, target := some name }

/-- The directive at the end of a text. -/
def finish (text : List UInt8) (d : Draft) : Option Directive :=
  match d.part with
  | .name first => some (ofName d.directive (slice text first text.length))
  | .level first =>
    let name := slice text first text.length
    if name.isEmpty then some d.directive
    else (Threshold.ofString? name).map fun t => { d.directive with level := t }
  | .afterSpan => some d.directive
  | _ => none

/-- Reads a directive. One without a level lets everything pass. -/
def read (cs : List Char) : Option Directive :=
  let text := Utf8.encodeChars cs
  (run text ⟨.start, ⟨some .trace, none, none, []⟩⟩ 0 (Unicode.trimBlank cs)).bind (finish text)

/-! ## Events -/

/-- Whether a directive concerns events as such, not only those within certain spans. -/
def isStatic (d : Directive) : Bool := d.span.isNone && d.fields.all (!·.2)

/-- How specific a directive is: the length of its target, if there is one, then the number of its
fields. -/
def rank (d : Directive) : Nat × Nat :=
  ((d.target.map fun t => t.utf8ByteSize + 1).getD 0, d.fields.length)

/-- The names of the fields that a directive asks for. -/
def fieldNames (d : Directive) : List String := d.fields.map (·.1)

/-- Whether a directive is looked at before another: the more specific one, and of two equally
specific ones that with the later field names. -/
def precedes (a b : Directive) : Bool :=
  b.rank.1 < a.rank.1 ||
    (a.rank.1 == b.rank.1 &&
      (b.rank.2 < a.rank.2 || (a.rank.2 == b.rank.2 && b.fieldNames < a.fieldNames)))

/-- Whether two directives concern the same events by the same words. -/
def sameScope (a b : Directive) : Bool :=
  a.target == b.target && a.fieldNames == b.fieldNames

/-- Whether a directive concerns an event: the target begins as asked for, and the event has all
fields asked for. -/
def concerns (d : Directive) (e : Event) : Bool :=
  d.target.all (fun t => t.toList.isPrefixOf e.target.toList) &&
    d.fields.all fun f => f.1 == "message" || e.fields.any (·.1 == f.1)

end Directive

/-- The directives of a filter that concern events, the most specific ones first. -/
structure Filter where
  directives : List Directive
  deriving Repr

namespace Filter

/-- Places a directive before the first one that it precedes; one of the same scope is replaced. -/
def insert (ds : List Directive) (d : Directive) : List Directive :=
  let others := ds.filter (!·.sameScope d)
  let above := others.takeWhile fun o => !d.precedes o
  above ++ d :: others.drop above.length

/-- The filter of a list of directives; without any, errors alone pass. -/
def ofDirectives (ds : List Directive) : Filter :=
  if ds.isEmpty then ⟨[⟨some .error, none, none, []⟩]⟩
  else ⟨(ds.filter Directive.isStatic).foldl insert []⟩

/-- Reads a filter; none if a directive is not well-formed. Empty directives are skipped. -/
def read (s : String) : Option Filter :=
  (((Form.splitAll ',' s.toList).filter (!·.isEmpty)).mapM Directive.read).map ofDirectives

/-- Whether an event passes: the first directive that concerns it decides. -/
def enables (f : Filter) (e : Event) : Bool :=
  match f.directives.find? (·.concerns e) with
  | some d => e.level.verbosity ≤ Threshold.verbosity d.level
  | none => false

end Filter

end RequestBinding
