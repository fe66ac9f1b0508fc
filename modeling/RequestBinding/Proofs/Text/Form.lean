import Mathlib.Data.List.Forall2
import RequestBinding.Proofs.Text.Utf8
import RequestBinding.Text.Form

/-!
# Reading encoded pairs

There are many ways to write a text in a form: a space may be a plus sign, and any byte may be an
escape with digits of either case. All of them are read as the same text, and pairs that are joined
are read as the same pairs.

## Main definitions

* `Form.Encodes` - the ways to write bytes
* `Form.Writes` - the ways to write pairs

## Main statements

* `Form.text_of_encodes` - the ways to write a text are read as the text
* `Form.mem_splitAll_iff` - the pieces that a list splits into
* `Form.pairs_of_writes` - the ways to write pairs are read as the pairs
* `Form.writes_render` - encoding all but the unreserved bytes is one of them
-/

namespace RequestBinding

/-! ## Escapes -/

namespace Percent

theorem decode_cons_of_ne {b : UInt8} (h : b ≠ 0x25) (bs : List UInt8) :
    decode (b :: bs) = b :: decode bs := by
  have hb : (b == 0x25) = false := beq_eq_false_iff_ne.2 h
  match bs with
  | [] => rfl
  | [_] => rfl
  | _ :: _ :: _ => rw [decode, hb, if_neg Bool.false_ne_true]

theorem decode_escape {h l b : UInt8} (hb : escapeValue h l = some b) (bs : List UInt8) :
    decode (0x25 :: h :: l :: bs) = b :: decode bs := by
  rw [decode, if_pos (by rfl), hb]

/-- A digit of either case for a number below sixteen. -/
def IsHexDigit (n : Nat) (c : Char) : Prop := c = hexDigit n ∨ c = (hexDigit n).toLower

/-- The byte of a digit is read as its number, and is none of `&`, `+` and `=`. -/
structure IsDigitByte (n : Nat) (b : UInt8) : Prop where
  value : hexValue b = some n
  ne_ampersand : b ≠ 0x26
  ne_plus : b ≠ 0x2B
  ne_equals : b ≠ 0x3D

theorem IsHexDigit.encodeChar {n : Nat} {c : Char} (h : IsHexDigit n c) (hn : n < 16) :
    ∃ b, Utf8.encodeChar c = [b] ∧ IsDigitByte n b := by
  have hall : ∀ n < 16, [hexDigit n, (hexDigit n).toLower].all (fun c =>
      decide (c.toNat < 0x80 ∧ hexValue (UInt8.ofNat c.toNat) = some n ∧
        UInt8.ofNat c.toNat ≠ 0x26 ∧ UInt8.ofNat c.toNat ≠ 0x2B ∧
        UInt8.ofNat c.toNat ≠ 0x3D)) = true := by decide
  have hmem : c ∈ [hexDigit n, (hexDigit n).toLower] := by
    rcases h with rfl | rfl
    · exact List.mem_cons_self
    · exact List.mem_cons_of_mem _ List.mem_cons_self
  obtain ⟨hascii, hvalue, hampersand, hplus, hequals⟩ :=
    of_decide_eq_true (List.all_eq_true.1 (hall n hn) c hmem)
  exact ⟨_, Utf8.encodeChar_of_lt hascii, hvalue, hampersand, hplus, hequals⟩

/-- Two digits are read as the byte they are written for. -/
theorem escapeValue_of_digits {b h l : UInt8} (hh : IsDigitByte (b.toNat / 16) h)
    (hl : IsDigitByte (b.toNat % 16) l) : escapeValue h l = some b := by
  have hb : 16 * (b.toNat / 16) + b.toNat % 16 = b.toNat := by omega
  rw [escapeValue, hh.value, hl.value]
  simp only [hb, UInt8.ofNat_toNat]

end Percent

namespace Form

open Percent (IsHexDigit)

/-! ## Texts -/

/-- The ways to write bytes: an ASCII byte without a meaning stands as it is, a plus sign stands for
a blank, and an escape for any byte. -/
inductive Encodes : List UInt8 → List Char → Prop
  | nil : Encodes [] []
  | plain {b : UInt8} {bs : List UInt8} {cs : List Char} (hascii : b.toNat < 0x80)
      (hfree : b ∉ [0x25, 0x26, 0x2B, 0x3D]) (h : Encodes bs cs) :
      Encodes (b :: bs) (Char.ofNat b.toNat :: cs)
  | blank {bs : List UInt8} {cs : List Char} (h : Encodes bs cs) : Encodes (0x20 :: bs) ('+' :: cs)
  | escape {b : UInt8} {bs : List UInt8} {high low : Char} {cs : List Char}
      (hhigh : IsHexDigit (b.toNat / 16) high) (hlow : IsHexDigit (b.toNat % 16) low)
      (h : Encodes bs cs) : Encodes (b :: bs) ('%' :: high :: low :: cs)

/-- A plus sign as the blank it stands for. -/
def unplus (b : UInt8) : UInt8 := if b == 0x2B then 0x20 else b

theorem unplus_of_ne {b : UInt8} (h : b ≠ 0x2B) : unplus b = b :=
  if_neg (mt beq_iff_eq.1 h)

theorem encodeChar_plain {b : UInt8} (h : b.toNat < 0x80) :
    Utf8.encodeChar (Char.ofNat b.toNat) = [b] := by
  have hvalid : b.toNat.isValidChar := Or.inl (by omega)
  have hnumber : (Char.ofNat b.toNat).toNat = b.toNat := by
    rw [Char.ofNat, dif_pos hvalid]
    rfl
  rw [Utf8.encodeChar_of_lt (by rw [hnumber]; exact h), hnumber, UInt8.ofNat_toNat]

/-- What is written is read back, and neither separator is in it. -/
theorem Encodes.decode {bs : List UInt8} {cs : List Char} (h : Encodes bs cs) :
    Percent.decode ((Utf8.encodeChars cs).map unplus) = bs ∧
      0x26 ∉ Utf8.encodeChars cs ∧ 0x3D ∉ Utf8.encodeChars cs := by
  induction h with
  | nil => exact ⟨rfl, List.not_mem_nil, List.not_mem_nil⟩
  | @plain b bs cs hascii hfree _ ih =>
    obtain ⟨ih, hampersand, hequals⟩ := ih
    simp only [List.mem_cons, List.not_mem_nil, or_false, not_or] at hfree
    obtain ⟨hpercent, hb, hplus, hb'⟩ := hfree
    rw [Utf8.encodeChars_cons, encodeChar_plain hascii]
    refine ⟨?_, ?_, ?_⟩
    · rw [List.singleton_append, List.map_cons, unplus_of_ne hplus,
        Percent.decode_cons_of_ne hpercent, ih]
    · simp [hampersand, Ne.symm hb]
    · simp [hequals, Ne.symm hb']
  | @blank bs cs _ ih =>
    obtain ⟨ih, hampersand, hequals⟩ := ih
    have hplus : Utf8.encodeChar '+' = [0x2B] := by decide
    rw [Utf8.encodeChars_cons, hplus]
    refine ⟨?_, ?_, ?_⟩
    · rw [List.singleton_append, List.map_cons, show unplus 0x2B = 0x20 from rfl,
        Percent.decode_cons_of_ne (by decide), ih]
    · simp [hampersand]
    · simp [hequals]
  | @escape b bs high low cs hhigh hlow _ ih =>
    obtain ⟨ih, hampersand, hequals⟩ := ih
    have hpercent : Utf8.encodeChar '%' = [0x25] := by decide
    have hb : b.toNat < 256 := b.toNat_lt
    obtain ⟨h, hh, hhdigit⟩ := hhigh.encodeChar (by omega)
    obtain ⟨l, hl, hldigit⟩ := hlow.encodeChar (by omega)
    rw [Utf8.encodeChars_cons, Utf8.encodeChars_cons, Utf8.encodeChars_cons, hpercent, hh, hl]
    refine ⟨?_, ?_, ?_⟩
    · simp only [List.singleton_append, List.map_cons, show unplus 0x25 = 0x25 from rfl,
        unplus_of_ne hhdigit.ne_plus, unplus_of_ne hldigit.ne_plus]
      rw [Percent.decode_escape (Percent.escapeValue_of_digits hhdigit hldigit), ih]
    · simp [hampersand, Ne.symm hhdigit.ne_ampersand, Ne.symm hldigit.ne_ampersand]
    · simp [hequals, Ne.symm hhdigit.ne_equals, Ne.symm hldigit.ne_equals]

/-- All ways to write a text are read as the text. -/
theorem text_of_encodes {s : String} {cs : List Char} (h : Encodes (Utf8.encode s) cs) :
    text (Utf8.encodeChars cs) = s := by
  have hdecode : Percent.decode ((Utf8.encodeChars cs).map unplus) = Utf8.encode s := h.decode.1
  show String.ofList (Utf8.decodeLossy (Percent.decode ((Utf8.encodeChars cs).map unplus))) = s
  rw [hdecode, Utf8.encode, Utf8.decodeLossy_encodeChars, String.ofList_toList]

/-! ## Separators -/

section Separators

variable {α : Type} [BEq α] [LawfulBEq α] {sep : α}

theorem splitFirst_append {key : List α} (h : sep ∉ key) (value : List α) :
    splitFirst sep (key ++ sep :: value) = (key, value) := by
  induction key with
  | nil => simp [splitFirst]
  | cons x key ih =>
    obtain ⟨hx, hkey⟩ := not_or.1 (mt List.mem_cons.2 h)
    simp [splitFirst, Ne.symm hx, ih hkey]

theorem splitAll_of_not_mem {piece : List α} (h : sep ∉ piece) : splitAll sep piece = [piece] := by
  induction piece with
  | nil => rfl
  | cons x piece ih =>
    obtain ⟨hx, hpiece⟩ := not_or.1 (mt List.mem_cons.2 h)
    simp [splitAll, Ne.symm hx, ih hpiece]

theorem splitAll_append {piece : List α} (h : sep ∉ piece) (rest : List α) :
    splitAll sep (piece ++ sep :: rest) = piece :: splitAll sep rest := by
  induction piece with
  | nil => simp [splitAll]
  | cons x piece ih =>
    obtain ⟨hx, hpiece⟩ := not_or.1 (mt List.mem_cons.2 h)
    simp [splitAll, Ne.symm hx, ih hpiece]

/-- A separator cuts a list in two, and each part is split by itself. -/
theorem splitAll_append_cons (front rest : List α) :
    splitAll sep (front ++ sep :: rest) = splitAll sep front ++ splitAll sep rest := by
  by_cases h : sep ∈ front
  · obtain ⟨piece, front, rfl, hpiece⟩ := List.eq_append_cons_of_mem h
    rw [List.append_assoc, List.cons_append, splitAll_append hpiece, splitAll_append hpiece,
      splitAll_append_cons front rest, List.cons_append]
  · rw [splitAll_append h, splitAll_of_not_mem h, List.singleton_append]
termination_by front.length

/-- Pieces without separators in them are what their list splits into. -/
theorem splitAll_intercalate {pieces : List (List α)} (hne : pieces ≠ [])
    (h : ∀ piece ∈ pieces, sep ∉ piece) : splitAll sep ([sep].intercalate pieces) = pieces := by
  induction pieces with
  | nil => exact absurd rfl hne
  | cons piece pieces ih =>
    obtain ⟨hpiece, hpieces⟩ := List.forall_mem_cons.1 h
    cases pieces with
    | nil => rw [List.intercalate_singleton, splitAll_of_not_mem hpiece]
    | cons next more =>
      rw [List.intercalate_cons_cons, List.append_assoc, List.singleton_append,
        splitAll_append hpiece, ih (List.cons_ne_nil next more) hpieces]

theorem exists_of_mem_splitAll {piece xs : List α} (h : piece ∈ splitAll sep xs) :
    sep ∉ piece ∧ ∃ before after, xs = before ++ piece ++ after ∧
      (∀ x ∈ before.getLast?, x = sep) ∧ ∀ x ∈ after.head?, x = sep := by
  by_cases hsep : sep ∈ xs
  · obtain ⟨front, rest, rfl, hfront⟩ := List.eq_append_cons_of_mem hsep
    rw [splitAll_append hfront] at h
    rcases List.mem_cons.1 h with rfl | h
    · exact ⟨hfront, [], sep :: rest, rfl, nofun, by simp⟩
    · obtain ⟨hpiece, before, after, rfl, hbefore, hafter⟩ := exists_of_mem_splitAll h
      refine ⟨hpiece, front ++ sep :: before, after, by simp, fun x hx => ?_, hafter⟩
      -- either the separator is the last one, or what stands behind it has the same end
      rw [List.getLast?_append, List.getLast?_cons, Option.some_or] at hx
      cases hlast : before.getLast? with
      | none => simpa [hlast] using hx.symm
      | some y =>
        obtain rfl : y = x := by simpa [hlast] using hx
        exact hbefore y hlast
  · rw [splitAll_of_not_mem hsep, List.mem_singleton] at h
    subst h
    exact ⟨hsep, [], [], by simp, nofun, nofun⟩
termination_by xs.length

/-- A list splits into the pieces without separators that stand between two separators or ends. -/
theorem mem_splitAll_iff {piece xs : List α} : piece ∈ splitAll sep xs ↔
    sep ∉ piece ∧ ∃ before after, xs = before ++ piece ++ after ∧
      (∀ x ∈ before.getLast?, x = sep) ∧ ∀ x ∈ after.head?, x = sep := by
  refine ⟨exists_of_mem_splitAll, ?_⟩
  rintro ⟨hpiece, before, after, rfl, hbefore, hafter⟩
  have hfirst : piece ∈ splitAll sep (piece ++ after) := by
    cases after with
    | nil =>
      rw [List.append_nil, splitAll_of_not_mem hpiece]
      exact List.mem_singleton_self piece
    | cons x after =>
      rw [hafter x rfl, splitAll_append hpiece]
      exact List.mem_cons_self
  rw [List.append_assoc]
  rcases List.eq_nil_or_concat before with rfl | ⟨front, x, rfl⟩
  · exact hfirst
  · obtain rfl : x = sep := hbefore x (by simp)
    rw [List.concat_eq_append, List.append_assoc, List.singleton_append, splitAll_append_cons]
    exact List.mem_append_right _ hfirst

end Separators

/-! ## Pairs -/

/-- The ways to write a pair. -/
def EncodesPair (p : String × String) (cs : List Char) : Prop :=
  ∃ key value, Encodes (Utf8.encode p.1) key ∧ Encodes (Utf8.encode p.2) value ∧
    cs = key ++ '=' :: value

/-- The ways to write pairs: each pair is written, and ampersands stand between them. -/
def Writes (ps : List (String × String)) (cs : List Char) : Prop :=
  ∃ pieces, List.Forall₂ EncodesPair ps pieces ∧ cs = List.intercalate ['&'] pieces

/-- The pair of a piece. -/
def pairOf (piece : List UInt8) : String × String :=
  (text (splitFirst 0x3D piece).1, text (splitFirst 0x3D piece).2)

theorem EncodesPair.spec {p : String × String} {cs : List Char} (h : EncodesPair p cs) :
    pairOf (Utf8.encodeChars cs) = p ∧ Utf8.encodeChars cs ≠ [] ∧
      0x26 ∉ Utf8.encodeChars cs := by
  obtain ⟨key, value, hkey, hvalue, rfl⟩ := h
  have hequals : Utf8.encodeChar '=' = [0x3D] := by decide
  have hbytes : Utf8.encodeChars (key ++ '=' :: value) =
      Utf8.encodeChars key ++ 0x3D :: Utf8.encodeChars value := by
    rw [Utf8.encodeChars_append, Utf8.encodeChars_cons, hequals, List.singleton_append]
  obtain ⟨_, hkeyAmpersand, hkeyEquals⟩ := hkey.decode
  obtain ⟨_, hvalueAmpersand, _⟩ := hvalue.decode
  rw [hbytes]
  refine ⟨?_, by simp, by simp [hkeyAmpersand, hvalueAmpersand]⟩
  rw [pairOf, splitFirst_append hkeyEquals]
  exact Prod.ext (text_of_encodes hkey) (text_of_encodes hvalue)

/-- All ways to write pairs are read as the pairs. -/
theorem pairs_of_writes {ps : List (String × String)} {cs : List Char} (h : Writes ps cs) :
    pairs (Utf8.encodeChars cs) = ps := by
  obtain ⟨pieces, hpieces, rfl⟩ := h
  show ((splitAll 0x26 _).filter (!·.isEmpty)).map pairOf = ps
  induction hpieces with
  | nil => rfl
  | @cons p piece ps pieces hpiece hpieces ih =>
    obtain ⟨hpair, hne, hampersand⟩ := hpiece.spec
    have hkeep : (!(Utf8.encodeChars piece).isEmpty) = true := by simpa using hne
    cases hpieces with
    | nil =>
      rw [List.intercalate_singleton, splitAll_of_not_mem hampersand]
      simp [hkeep, hpair]
    | cons hsecond hmore =>
      have hbytes : Utf8.encodeChar '&' = [0x26] := by decide
      rw [List.intercalate_cons_cons, List.append_assoc, Utf8.encodeChars_append,
        List.singleton_append, Utf8.encodeChars_cons, hbytes, List.singleton_append,
        splitAll_append hampersand, List.filter_cons, if_pos hkeep, List.map_cons, hpair, ih]

/-! ## Encoding all but the unreserved bytes -/

theorem unreserved_spec {b : UInt8} (h : Percent.isUnreserved b = true) :
    b.toNat < 0x80 ∧ b ∉ [0x25, 0x26, 0x2B, 0x3D] := by
  have hall : [0x25, 0x26, 0x2B, 0x3D].all (!Percent.isUnreserved ·) = true := by decide
  refine ⟨?_, fun hmem => ?_⟩
  · simp only [Percent.isUnreserved, Bool.or_eq_true, Bool.and_eq_true, decide_eq_true_eq,
      beq_iff_eq] at h
    omega
  · have hreserved := List.all_eq_true.1 hall b hmem
    rw [h] at hreserved
    cases hreserved

theorem encodes_flatMap (bs : List UInt8) : Encodes bs (bs.flatMap Percent.encodeByte) := by
  induction bs with
  | nil => exact .nil
  | cons b bs ih =>
    rw [List.flatMap_cons, Percent.encodeByte]
    by_cases hb : Percent.isUnreserved b = true
    · obtain ⟨hascii, hfree⟩ := unreserved_spec hb
      rw [if_pos hb]
      exact .plain hascii hfree ih
    · rw [if_neg hb]
      exact .escape (.inl rfl) (.inl rfl) ih

/-- Encoding all but the unreserved bytes is one of the ways to write pairs. -/
theorem writes_render (ps : List (String × String)) : Writes ps (render ps).toList := by
  refine ⟨ps.map fun p => (encode p.1 ++ "=" ++ encode p.2).toList, ?_, ?_⟩
  swap
  · rw [render, String.toList_ofList]
  rw [List.forall₂_map_right_iff, List.forall₂_same]
  intro p _
  have hencodes : ∀ s : String, Encodes (Utf8.encode s) (encode s).toList := by
    intro s
    rw [encode, Percent.encode, String.toList_ofList]
    exact encodes_flatMap _
  refine ⟨_, _, hencodes p.1, hencodes p.2, ?_⟩
  simp

end Form

end RequestBinding
