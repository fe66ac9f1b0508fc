import RequestBinding.Json.Reader
import RequestBinding.Proofs.Number.Nearest

/-!
# The grammar of JSON

The texts of JSON values as the standard has them: blanks are spaces, tabs and line ends; a number
has no superfluous zeros before it; strings have no control characters; there are no commas behind
the last item. A reader may set limits to what it reads: how deep containers are nested, that
surrogates are escaped in pairs, and that numbers stay within the range of doubles.

## Main definitions

* `Json.Limits` - the limits that a reader sets
* `Json.StringBody` - what stands between quotation marks
* `Json.Literal` - the parts of a number literal
* `Json.Literal.Fits` - literals within the range of doubles
* `Json.IsValue` - the texts of values
* `Json.IsObjectText` - texts whose value is an object

## Main statements

* `Json.IsObjectText.free` - limits only take texts away
-/

namespace RequestBinding.Json

/-! ## Limits -/

/-- What a reader may refuse although the grammar has it. -/
structure Limits where
  /-- The greatest number of containers within each other, if there is one. -/
  nesting : Option Nat
  /-- Surrogates may only be escaped as pairs. -/
  paired : Bool
  /-- Numbers may not exceed the range of doubles. -/
  ranged : Bool

/-- The whole grammar. -/
def Limits.free : Limits := ⟨none, false, false⟩

/-- The limits of reading. -/
def Limits.reader : Limits := ⟨some 127, true, true⟩

/-! ## Strings -/

/-- The hexadecimal digits of either case, with their values. -/
def hexDigits : List (Char × Nat) :=
  ['0', '1', '2', '3', '4', '5', '6', '7', '8', '9', 'a', 'b', 'c', 'd', 'e', 'f'].zipIdx ++
    ['A', 'B', 'C', 'D', 'E', 'F'].zipIdx 10

/-- Four hexadecimal digits are a number. -/
def IsHex4 (a b c d : Char) (n : Nat) : Prop :=
  ∃ i j k l, (a, i) ∈ hexDigits ∧ (b, j) ∈ hexDigits ∧ (c, k) ∈ hexDigits ∧ (d, l) ∈ hexDigits ∧
    n = ((i * 16 + j) * 16 + k) * 16 + l

/-- The numbers of surrogates. -/
def IsSurrogate (n : Nat) : Prop := 0xD800 ≤ n ∧ n ≤ 0xDFFF

/-- What follows a backslash in a string. -/
inductive IsEscape (l : Limits) : List Char → Prop
  | short {c : Char} (h : c ∈ ['"', '\\', '/', 'b', 'f', 'n', 'r', 't']) : IsEscape l [c]
  | single {a b c d : Char} {n : Nat} (hn : IsHex4 a b c d n)
      (hl : l.paired = true → ¬IsSurrogate n) : IsEscape l ['u', a, b, c, d]
  | pair {a b c d e f g h : Char} {high low : Nat} (hhigh : IsHex4 a b c d high)
      (hlow : IsHex4 e f g h low) (hhigh' : 0xD800 ≤ high ∧ high ≤ 0xDBFF)
      (hlow' : 0xDC00 ≤ low ∧ low ≤ 0xDFFF) :
      IsEscape l ['u', a, b, c, d, '\\', 'u', e, f, g, h]

/-- What stands between the quotation marks of a string. -/
inductive StringBody (l : Limits) : List Char → Prop
  | nil : StringBody l []
  | plain {c : Char} {cs : List Char} (hquote : c ≠ '"') (hescape : c ≠ '\\')
      (hcontrol : 0x20 ≤ c.toNat) (h : StringBody l cs) : StringBody l (c :: cs)
  | escaped {text cs : List Char} (htext : IsEscape l text) (h : StringBody l cs) :
      StringBody l ('\\' :: (text ++ cs))

/-! ## Numbers -/

/-- At least one digit. -/
def IsDigits (ds : List Char) : Prop := ds ≠ [] ∧ ∀ c ∈ ds, c.isDigit = true

/-- The exponent of a number literal. -/
structure Exponent where
  letter : Char
  sign : List Char
  digits : List Char

/-- The text of an exponent. -/
def Exponent.text (e : Exponent) : List Char := e.letter :: (e.sign ++ e.digits)

/-- An exponent has its letter in either case, and a sign or none. -/
structure Exponent.Proper (e : Exponent) : Prop where
  letter : e.letter = 'e' ∨ e.letter = 'E'
  sign : e.sign = [] ∨ e.sign = ['+'] ∨ e.sign = ['-']
  digits : IsDigits e.digits

/-- The number that an exponent is. -/
def Exponent.value (e : Exponent) : Int :=
  if e.sign = ['-'] then -digitsValue e.digits else digitsValue e.digits

/-- The parts of a number literal; without digits behind the point there is no point. -/
structure Literal where
  negative : Bool
  whole : List Char
  fraction : List Char
  exponent : Option Exponent

namespace Literal

/-- The text of the part behind the point, with the point. -/
def fractionText (fraction : List Char) : List Char :=
  if fraction = [] then [] else '.' :: fraction

/-- The text of an exponent, if there is one. -/
def exponentText (e : Option Exponent) : List Char := e.elim [] Exponent.text

/-- The text of a literal without its sign. -/
def magnitude (x : Literal) : List Char :=
  x.whole ++ (fractionText x.fraction ++ exponentText x.exponent)

/-- The text of a literal. -/
def text (x : Literal) : List Char := (if x.negative then ['-'] else []) ++ x.magnitude

/-- A literal has digits where there have to be some, and no zero before other digits. -/
structure Proper (x : Literal) : Prop where
  whole : IsDigits x.whole
  zero : x.whole.head? = some '0' → x.whole = ['0']
  fraction : ∀ c ∈ x.fraction, c.isDigit = true
  exponent : ∀ e ∈ x.exponent, e.Proper

/-- The longest beginning of digits that has room within 64 bits, behind digits that are kept
already, and what is dropped behind it. -/
structure Keeps (before ds kept dropped : List Char) : Prop where
  eq_append : ds = kept ++ dropped
  room : digitsValue (before ++ kept) < 2 ^ 64
  full : ∀ c ∈ dropped.head?, 2 ^ 64 ≤ digitsValue (before ++ (kept ++ [c]))

/-- The significand of a literal and the power of ten that belongs to it without the exponent. Of
the digits before the point, and then of those behind it, the longest beginning is kept. -/
def IsDecimal (x : Literal) (significand : Nat) (power : Int) : Prop :=
  ∃ whole dropped fraction dropped', Keeps [] x.whole whole dropped ∧
    Keeps whole x.fraction fraction dropped' ∧ significand = digitsValue (whole ++ fraction) ∧
    power = dropped.length - fraction.length

/-- Whether a significand, a power of ten and an exponent are within the range of doubles. An
exponent beyond 32 bits decides by its sign, unless the number is zero. -/
def InRange (significand : Nat) (power : Int) : Option Exponent → Prop
  | none => Binary64.InRange significand power
  | some e =>
    if digitsValue e.digits < 2 ^ 31 then Binary64.InRange significand (power + e.value)
    else significand = 0 ∨ e.sign = ['-']

/-- Whether a literal is within the range of doubles. -/
def Fits (x : Literal) : Prop :=
  ∃ significand power, x.IsDecimal significand power ∧ InRange significand power x.exponent

end Literal

/-! ## Values -/

/-- Blanks alone. -/
def Blank (cs : List Char) : Prop := ∀ c ∈ cs, c ∈ [' ', '\n', '\t', '\r']

/-- One or more entries with commas between them, and blanks around each. -/
inductive Separated (entry : List Char → Prop) : List Char → Prop
  | last {before text after : List Char} (hbefore : Blank before) (htext : entry text)
      (hafter : Blank after) : Separated entry (before ++ (text ++ after))
  | more {before text after rest : List Char} (hbefore : Blank before) (htext : entry text)
      (hafter : Blank after) (hrest : Separated entry rest) :
      Separated entry (before ++ (text ++ (after ++ ',' :: rest)))

/-- What stands between the opening and the closing character of a container: blanks, or entries. -/
def Entries (entry : List Char → Prop) (cs : List Char) : Prop := Blank cs ∨ Separated entry cs

/-- A container. -/
def Enclosed (opening closing : Char) (entry : List Char → Prop) (cs : List Char) : Prop :=
  ∃ inner, Entries entry inner ∧ cs = opening :: (inner ++ [closing])

/-- A member of an object: a string, a colon, and a value. -/
def IsMember (l : Limits) (value : List Char → Prop) (cs : List Char) : Prop :=
  ∃ key before after text, StringBody l key ∧ Blank before ∧ Blank after ∧ value text ∧
    cs = '"' :: (key ++ '"' :: (before ++ ':' :: (after ++ text)))

/-- The texts of values that are no containers. -/
inductive IsScalar (l : Limits) : List Char → Prop
  | null : IsScalar l ['n', 'u', 'l', 'l']
  | true : IsScalar l ['t', 'r', 'u', 'e']
  | false : IsScalar l ['f', 'a', 'l', 's', 'e']
  | string {body : List Char} (h : StringBody l body) : IsScalar l ('"' :: (body ++ ['"']))
  | number {x : Literal} (h : x.Proper) (hl : l.ranged = Bool.true → x.Fits) : IsScalar l x.text

/-- The texts of values with at most `n` containers within each other. -/
def IsValue (l : Limits) : Nat → List Char → Prop
  | 0, cs => IsScalar l cs
  | n + 1, cs => IsScalar l cs ∨ Enclosed '[' ']' (IsValue l n) cs ∨
      Enclosed '{' '}' (IsMember l (IsValue l n)) cs

/-- The texts of objects whose members have at most `n` containers within each other. -/
def IsObject (l : Limits) (n : Nat) (cs : List Char) : Prop :=
  Enclosed '{' '}' (IsMember l (IsValue l n)) cs

/-- The texts whose value is an object: the object itself, with blanks around it. -/
def IsObjectText (l : Limits) (cs : List Char) : Prop :=
  ∃ n before text after, (∀ d ∈ l.nesting, n < d) ∧ Blank before ∧ IsObject l n text ∧
    Blank after ∧ cs = before ++ (text ++ after)

/-! ## Texts within limits -/

theorem Separated.mono {p q : List Char → Prop} (h : ∀ cs, p cs → q cs) {cs : List Char}
    (hcs : Separated p cs) : Separated q cs := by
  induction hcs with
  | last hbefore htext hafter => exact .last hbefore (h _ htext) hafter
  | more hbefore htext hafter _ ih => exact .more hbefore (h _ htext) hafter ih

theorem Enclosed.mono {opening closing : Char} {p q : List Char → Prop} (h : ∀ cs, p cs → q cs)
    {cs : List Char} (hcs : Enclosed opening closing p cs) : Enclosed opening closing q cs := by
  obtain ⟨inner, hinner, rfl⟩ := hcs
  exact ⟨inner, hinner.imp_right (Separated.mono h), rfl⟩

theorem IsMember.mono {l : Limits} {p q : List Char → Prop} (h : ∀ cs, p cs → q cs)
    {cs : List Char} (hcs : IsMember l p cs) : IsMember l q cs := by
  obtain ⟨key, before, after, text, hkey, hbefore, hafter, htext, rfl⟩ := hcs
  exact ⟨key, before, after, text, hkey, hbefore, hafter, h _ htext, rfl⟩

theorem IsEscape.free {l : Limits} {cs : List Char} (h : IsEscape l cs) : IsEscape .free cs := by
  cases h with
  | short h => exact .short h
  | single hn _ => exact .single hn nofun
  | pair hhigh hlow hhigh' hlow' => exact .pair hhigh hlow hhigh' hlow'

theorem StringBody.free {l : Limits} {cs : List Char} (h : StringBody l cs) :
    StringBody .free cs := by
  induction h with
  | nil => exact .nil
  | plain hquote hescape hcontrol _ ih => exact .plain hquote hescape hcontrol ih
  | escaped htext _ ih => exact .escaped htext.free ih

theorem IsMember.free {l : Limits} {p : List Char → Prop} {cs : List Char}
    (h : IsMember l p cs) : IsMember .free p cs := by
  obtain ⟨key, before, after, text, hkey, hbefore, hafter, htext, rfl⟩ := h
  exact ⟨key, before, after, text, hkey.free, hbefore, hafter, htext, rfl⟩

theorem IsScalar.free {l : Limits} {cs : List Char} (h : IsScalar l cs) : IsScalar .free cs := by
  cases h with
  | null => exact .null
  | true => exact .true
  | false => exact .false
  | string h => exact .string h.free
  | number h _ => exact .number h nofun

theorem IsValue.free {l : Limits} {n : Nat} {cs : List Char} (h : IsValue l n cs) :
    IsValue .free n cs := by
  induction n generalizing cs with
  | zero => exact IsScalar.free h
  | succ n ih =>
    rcases h with h | h | h
    · exact .inl h.free
    · exact .inr (.inl (h.mono fun _ => ih))
    · exact .inr (.inr (h.mono fun _ hmember => hmember.free.mono fun _ => ih))

/-- What is a text of an object under limits is one without them. -/
theorem IsObjectText.free {l : Limits} {cs : List Char} (h : IsObjectText l cs) :
    IsObjectText .free cs := by
  obtain ⟨n, before, text, after, _, hbefore, htext, hafter, rfl⟩ := h
  exact ⟨n, before, text, after, nofun, hbefore,
    Enclosed.mono (fun _ hmember => hmember.free.mono fun _ => IsValue.free) htext, hafter, rfl⟩

/-- Deeper nesting may be allowed. -/
theorem IsValue.succ {l : Limits} {n : Nat} {cs : List Char} (h : IsValue l n cs) :
    IsValue l (n + 1) cs := by
  induction n generalizing cs with
  | zero => exact .inl h
  | succ n ih =>
    rcases h with h | h | h
    · exact .inl h
    · exact .inr (.inl (h.mono fun _ => ih))
    · exact .inr (.inr (h.mono fun _ => IsMember.mono fun _ => ih))

theorem IsValue.mono {l : Limits} {n m : Nat} (hle : n ≤ m) {cs : List Char}
    (h : IsValue l n cs) : IsValue l m cs := by
  induction hle with
  | refl => exact h
  | step _ ih => exact ih.succ

theorem IsObject.mono {l : Limits} {n m : Nat} (hle : n ≤ m) {cs : List Char}
    (h : IsObject l n cs) : IsObject l m cs :=
  Enclosed.mono (fun _ => IsMember.mono fun _ => IsValue.mono hle) h

end RequestBinding.Json
