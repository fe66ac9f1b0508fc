import RequestBinding.Json.Printer
import RequestBinding.Proofs.Json.Range
import RequestBinding.Proofs.Json.Reading

/-!
# Reading what was written

The compact text of a value is read as the value itself, within the nesting that is allowed, if its
numbers are integers of 64 bits. The text of a double is read as some double, so that a value with
doubles is read as one of the same shape.

## Main definitions

* `Json.NumbersAre` - values whose numbers are of some kind
* `Json.Legible` - doubles whose texts are literals within range
* `Json.reread` - the value that a text is read as

## Main statements

* `Json.stringTail_escaped` - the characters of a string are read back
* `Json.number_toDigits` - the digits of a number are read back
* `Json.readsBack`, `Json.readBytes_render` - texts of values are read back
* `Json.reread_of_whole` - values without doubles are read as they are
-/

namespace RequestBinding.Json

/-! ## Strings -/

theorem hexValue_hexDigit : ∀ n < 16, hexValue (hexDigit n) = some n := by
  decide

/-- A character is written as it is, or as an escape that stands for it. -/
theorem escapeChar_cases (c : Char) :
    (escapeChar c = [c] ∧ c ≠ '"' ∧ c ≠ '\\' ∧ 0x20 ≤ c.toNat) ∨
      ∃ text, escapeChar c = '\\' :: text ∧
        ∀ rest, escape (text ++ rest) = some (c, text.length) := by
  unfold escapeChar
  -- the characters with an escape of one letter
  iterate 7
    split
    · next h => exact .inr ⟨[_], rfl, fun _ => by rw [beq_iff_eq.1 h]; rfl⟩
  split
  · next hcontrol =>
    have hhex : hex4 '0' '0' (hexDigit (c.toNat / 16)) (hexDigit (c.toNat % 16)) =
        some c.toNat := by
      have hhigh := hexValue_hexDigit (c.toNat / 16) (by omega)
      have hlow := hexValue_hexDigit (c.toNat % 16) (by omega)
      have hzero : hexValue '0' = some 0 := rfl
      simp only [hex4, hhigh, hlow, hzero]
      congr 1
      omega
    refine .inr ⟨_, rfl, fun rest => ?_⟩
    have hsurrogate : ¬(0xD800 ≤ c.toNat ∧ c.toNat ≤ 0xDBFF) ∧
        ¬(0xDC00 ≤ c.toNat ∧ c.toNat ≤ 0xDFFF) := by
      omega
    simp [escape, hhex, hsurrogate, Char.ofNat_toNat]
  · next hcontrol => simp_all

/-- A character of a string is read back. -/
theorem stringTail_escapeChar (c : Char) (rest : List Char) :
    stringTail (escapeChar c ++ rest) = (stringTail rest).map fun r => (c :: r.1, r.2) := by
  rcases escapeChar_cases c with ⟨heq, hquote, hescape, hcontrol⟩ | ⟨text, heq, htext⟩
  · rw [heq, List.singleton_append, stringTail, if_neg (mt beq_iff_eq.1 hquote),
      if_neg (mt beq_iff_eq.1 hescape), if_neg (Nat.not_lt.2 hcontrol)]
    cases stringTail rest <;> rfl
  · rw [heq, List.cons_append, stringTail, if_neg (by decide), if_pos (by rfl), htext]
    simp only [List.drop_left]
    cases stringTail rest <;> rfl

/-- The characters of a string are read back, up to the quotation mark behind them. -/
theorem stringTail_escaped (cs rest : List Char) :
    stringTail (cs.flatMap escapeChar ++ '"' :: rest) = some (cs, rest) := by
  induction cs with
  | nil => simp [stringTail]
  | cons c cs ih =>
    rw [List.flatMap_cons, List.append_assoc, stringTail_escapeChar, ih, Option.map_some]

/-! ## Integers -/

/-- The digits of a positive number do not begin with a zero. -/
theorem head?_toDigits_ne {n : Nat} (hn : 0 < n) : (Nat.toDigits 10 n).head? ≠ some '0' := by
  induction n using Nat.base_induction 10 (by decide) with
  | single m hm =>
    rw [Nat.toDigits_of_lt_base hm]
    intro h
    exact Nat.ne_of_gt hn (Nat.digitChar_eq_zero.1 (Option.some.inj h))
  | digit m k hk hm ih =>
    obtain ⟨c, ds, hds⟩ := List.exists_cons_of_ne_nil (Nat.toDigits_ne_nil (n := m) (b := 10))
    rw [← Nat.toDigits_append_toDigits (by decide) hm hk, hds]
    rw [hds] at ih
    exact ih hm

theorem isDigits_toDigits (n : Nat) : IsDigits (Nat.toDigits 10 n) :=
  ⟨Nat.toDigits_ne_nil, fun _ hc => Nat.isDigit_of_mem_toDigits (by decide) (by decide) hc⟩

theorem toDigits_eq_zero (n : Nat) (h : (Nat.toDigits 10 n).head? = some '0') :
    Nat.toDigits 10 n = ['0'] := by
  rcases Nat.eq_zero_or_pos n with rfl | hn
  · exact Nat.toDigits_zero 10
  · exact absurd h (head?_toDigits_ne hn)

theorem digitsValue_eq (ds : List Char) : digitsValue ds = Nat.ofDigitChars 10 ds 0 := by
  rw [Nat.ofDigitChars_eq_foldl, digitsValue]
  simp only [digitValue, Nat.mul_comm]

theorem digitsValue_toDigits (n : Nat) : digitsValue (Nat.toDigits 10 n) = n := by
  rw [digitsValue_eq, Nat.ofDigitChars_ten_toDigits]

/-- The digits of a number are read back. -/
theorem number_toDigits (negative : Bool) {n : Nat} (hn : n ≤ significandMax) {rest : List Char}
    (hrest : EndsNumber rest) :
    number negative (Nat.toDigits 10 n ++ rest) = some (wholeNumber negative n, rest) := by
  have hdigits := isDigits_toDigits n
  have hvalue := digitsValue_toDigits n
  have hgather : gather 0 0 (Nat.toDigits 10 n) = (n, (Nat.toDigits 10 n).length, []) := by
    obtain ⟨kept, dropped, hkeeps⟩ := Literal.exists_keeps [] (Nat.toDigits 10 n) (by decide)
    obtain rfl := hkeeps.eq_nil (by rwa [List.nil_append, hvalue, ← le_significandMax_iff])
    have hall : Nat.toDigits 10 n = kept := by rw [hkeeps.eq_append, List.append_nil]
    have heq : gather 0 0 (Nat.toDigits 10 n) = (digitsValue kept, 0 + kept.length, []) :=
      hkeeps.gather_eq hdigits.2 0
    rw [heq, ← hall, hvalue, Nat.zero_add]
  rw [number_eq negative hdigits (toDigits_eq_zero n) hrest.noDigit, hgather, if_pos]
  exact ⟨rfl, hrest.not_any fun c hc => by simp [continuesNumber, hc]⟩

/-- The integers of 64 bits, with or without sign. -/
def IsInt64 (n : Int) : Prop := int64Min ≤ n ∧ n ≤ uint64Max

/-- Integers of 64 bits are read back. -/
theorem value_intChars {n : Int} (hn : IsInt64 n) (levels : Nat) {rest : List Char}
    (hrest : EndsNumber rest) : value levels (intChars n ++ rest) = some (.int n, rest) := by
  obtain ⟨hmin, hmax⟩ := hn
  rw [int64Min] at hmin
  rw [uint64Max] at hmax
  have hroom : n.natAbs ≤ significandMax := by
    rw [significandMax]
    omega
  rw [intChars]
  split
  · next hneg =>
    rw [List.cons_append, value, number_toDigits true hroom hrest, wholeNumber]
    have hsmall : ¬(n.natAbs == 0 || decide (9223372036854775808 < n.natAbs)) = true := by
      simp
      omega
    rw [if_neg (by decide), if_neg hsmall]
    congr 3
    omega
  · next hnonneg =>
    obtain ⟨c, ds, hds⟩ := List.exists_cons_of_ne_nil (isDigits_toDigits n.natAbs).1
    have hc := (isDigits_toDigits n.natAbs).2 c (by simp [hds])
    have hnumber := number_toDigits false hroom hrest
    rw [hds] at hnumber ⊢
    rw [List.cons_append, value_of_isDigit levels hc]
    refine hnumber.trans ?_
    rw [wholeNumber, if_pos (by rfl)]
    congr 3
    omega

/-! ## Entries -/

/-- A reader reads the text of an entry back, unless there is something about the entry that it
refuses. -/
structure ReadsBack {α β : Type} (item : List Char → Read β) (text : α → List Char) (ok : α → Bool)
    (out : α → β) (a : α) : Prop where
  reads : ∀ rest, EndsNumber rest →
    item (text a ++ rest) = if ok a then some (out a, rest) else none
  begins : ∃ c more, text a = c :: more ∧ opens c = true

section Entries

variable {α β : Type} {item : List Char → Read β} {text : α → List Char} {ok : α → Bool}
  {out : α → β} {close : Char}

/-- The entries behind the first one, each behind a comma, and the closing character. -/
def textTail (text : α → List Char) (close : Char) (as : List α) : List Char :=
  as.flatMap (fun a => ',' :: text a) ++ [close]

/-- What a container has behind its opening character. -/
def textAll (text : α → List Char) (close : Char) : List α → List Char
  | [] => [close]
  | a :: as => text a ++ textTail text close as

theorem textTail_cons (text : α → List Char) (close : Char) (a : α) (as : List α) :
    textTail text close (a :: as) = ',' :: (text a ++ textTail text close as) := by
  rw [textTail, List.flatMap_cons, List.append_assoc, List.cons_append, ← textTail]

/-- What a container may be closed with. -/
theorem close_spec (hclose : close = ']' ∨ close = '}') :
    isSpace close = false ∧ ',' ≠ close ∧ opens close = false := by
  rcases hclose with rfl | rfl <;> exact ⟨rfl, by decide, rfl⟩

theorem endsNumber_textTail (hclose : close = ']' ∨ close = '}') (text : α → List Char)
    (as : List α) (rest : List Char) : EndsNumber (textTail text close as ++ rest) := by
  cases as with
  | nil => rcases hclose with rfl | rfl <;> rfl
  | cons a as => rfl

theorem ReadsBack.skip_eq {a : α} (h : ReadsBack item text ok out a) (rest : List Char) :
    skip (text a ++ rest) = text a ++ rest := by
  obtain ⟨c, more, heq, hc⟩ := h.begins
  rw [opens, Bool.and_assoc, Bool.and_eq_true, Bool.not_eq_true'] at hc
  rw [heq, List.cons_append, skip_cons hc.1]

/-- The entries behind the first one are read back, unless one of them is refused. -/
theorem itemsTail_textTail (hclose : close = ']' ∨ close = '}') {as : List α}
    (h : ∀ a ∈ as, ReadsBack item text ok out a) (rest : List Char) :
    itemsTail item close (textTail text close as ++ rest) =
      if as.all ok then some (as.map out, rest) else none := by
  obtain ⟨hspace, hcomma, -⟩ := close_spec hclose
  induction as with
  | nil =>
    rw [itemsTail]
    simp [textTail, skip_cons hspace]
  | cons a as ih =>
    obtain ⟨ha, has⟩ := List.forall_mem_cons.1 h
    have hread := ha.reads _ (endsNumber_textTail hclose text as rest)
    have hlt : (textTail text close as ++ rest).length <
        (',' :: (text a ++ (textTail text close as ++ rest))).length := by
      simp only [List.length_append, List.length_cons]
      omega
    rw [textTail_cons, List.cons_append, List.append_assoc, itemsTail, skip_cons (by rfl)]
    cases hok : ok a with
    | false =>
      simp only [hok, Bool.false_eq_true, if_false] at hread
      simp [hcomma, ha.skip_eq, hread, hok]
    | true =>
      simp only [hok, if_true] at hread
      simp only [beq_iff_eq, hcomma, if_false, if_true, ha.skip_eq, hread, dif_pos hlt, ih has,
        List.all_cons, hok, Bool.true_and]
      cases as.all ok <;> rfl

/-- The entries of a container are read back, unless one of them is refused. -/
theorem items_textAll (hclose : close = ']' ∨ close = '}') {as : List α}
    (h : ∀ a ∈ as, ReadsBack item text ok out a) (rest : List Char) :
    items item close (textAll text close as ++ rest) =
      if as.all ok then some (as.map out, rest) else none := by
  obtain ⟨hspace, -, hopens⟩ := close_spec hclose
  cases as with
  | nil =>
    rw [items, textAll, List.singleton_append, skip_cons hspace]
    simp
  | cons a as =>
    obtain ⟨ha, has⟩ := List.forall_mem_cons.1 h
    have hread := ha.reads _ (endsNumber_textTail hclose text as rest)
    have hskip := ha.skip_eq (textTail text close as ++ rest)
    obtain ⟨c, more, heq, hc⟩ := ha.begins
    have hne : (c == close) = false := by
      rw [beq_eq_false_iff_ne]
      rintro rfl
      rw [hopens] at hc
      cases hc
    rw [textAll, List.append_assoc, items, hskip]
    rw [heq, List.cons_append] at hread ⊢
    cases hok : ok a with
    | false =>
      simp only [hok, Bool.false_eq_true, if_false] at hread
      simp [hne, hread, hok]
    | true =>
      simp only [hok, if_true] at hread
      simp only [hne, hread, Bool.false_eq_true, if_false, itemsTail_textTail hclose has,
        List.all_cons, hok, Bool.true_and]
      cases as.all ok <;> rfl

end Entries

/-! ## Values -/

/-- Values with integers of some kind and doubles of some kind. -/
inductive NumbersAre (whole : Int → Prop) (double : Binary64 → Prop) : Json → Prop
  | null : NumbersAre whole double .null
  | bool (b : Bool) : NumbersAre whole double (.bool b)
  | int {n : Int} (h : whole n) : NumbersAre whole double (.int n)
  | float {x : Binary64} (h : double x) : NumbersAre whole double (.float x)
  | str (s : String) : NumbersAre whole double (.str s)
  | arr {items : List Json} (h : ∀ v ∈ items, NumbersAre whole double v) :
      NumbersAre whole double (.arr items)
  | obj {members : List (String × Json)} (h : ∀ m ∈ members, NumbersAre whole double m.2) :
      NumbersAre whole double (.obj members)

section NumbersAre

variable {whole : Int → Prop} {double : Binary64 → Prop}

@[simp] theorem numbersAre_null : NumbersAre whole double .null := .null

@[simp] theorem numbersAre_bool (b : Bool) : NumbersAre whole double (.bool b) := .bool b

@[simp] theorem numbersAre_str (s : String) : NumbersAre whole double (.str s) := .str s

@[simp] theorem numbersAre_int_iff {n : Int} : NumbersAre whole double (.int n) ↔ whole n :=
  ⟨fun | .int h => h, .int⟩

@[simp] theorem numbersAre_float_iff {x : Binary64} :
    NumbersAre whole double (.float x) ↔ double x :=
  ⟨fun | .float h => h, .float⟩

@[simp] theorem numbersAre_arr_iff {items : List Json} :
    NumbersAre whole double (.arr items) ↔ ∀ v ∈ items, NumbersAre whole double v :=
  ⟨fun | .arr h => h, .arr⟩

@[simp] theorem numbersAre_obj_iff {members : List (String × Json)} :
    NumbersAre whole double (.obj members) ↔ ∀ m ∈ members, NumbersAre whole double m.2 :=
  ⟨fun | .obj h => h, .obj⟩

end NumbersAre

/-- The text of a double is a literal within range. -/
def Legible (x : Binary64) : Prop := ∃ l : Literal, l.Proper ∧ l.Fits ∧ l.text = x.renderChars

mutual

/-- The value that the text of a value is read as: only doubles may change. -/
def reread : Json → Json
  | .float x => ((value 0 x.renderChars).map (·.1)).getD .null
  | .arr items => .arr (rereadItems items)
  | .obj members => .obj (rereadMembers members)
  | v => v

def rereadItems : List Json → List Json
  | [] => []
  | v :: rest => reread v :: rereadItems rest

def rereadMembers : List (String × Json) → List (String × Json)
  | [] => []
  | (k, v) :: rest => (k, reread v) :: rereadMembers rest

end

theorem rereadItems_eq (items : List Json) : rereadItems items = items.map reread := by
  induction items with
  | nil => rw [rereadItems, List.map_nil]
  | cons v rest ih => rw [rereadItems, ih, List.map_cons]

theorem rereadMembers_eq (members : List (String × Json)) :
    rereadMembers members = members.map fun m => (m.1, reread m.2) := by
  induction members with
  | nil => rw [rereadMembers, List.map_nil]
  | cons m rest ih => rw [rereadMembers, ih, List.map_cons]

theorem depthItems_le_iff {items : List Json} {n : Nat} :
    depthItems items ≤ n ↔ ∀ v ∈ items, v.depth ≤ n := by
  induction items with
  | nil => simp [depthItems]
  | cons v rest ih => rw [depthItems, Nat.max_le, ih, List.forall_mem_cons]

theorem depthMembers_le_iff {members : List (String × Json)} {n : Nat} :
    depthMembers members ≤ n ↔ ∀ m ∈ members, m.2.depth ≤ n := by
  induction members with
  | nil => simp [depthMembers]
  | cons m rest ih => rw [depthMembers, Nat.max_le, ih, List.forall_mem_cons]

/-- The text of a member. -/
def memberChars (m : String × Json) : List Char := quoteChars m.1.toList ++ ':' :: m.2.renderChars

theorem renderItems_eq (items : List Json) :
    renderItems items = textTail renderChars ']' items := by
  induction items with
  | nil => rw [renderItems]; rfl
  | cons v rest ih => rw [renderItems, ih, textTail_cons]

theorem renderMembers_eq (members : List (String × Json)) :
    renderMembers members = textTail memberChars '}' members := by
  induction members with
  | nil => rw [renderMembers]; rfl
  | cons m rest ih =>
    rw [renderMembers, ih, textTail_cons, memberChars, List.append_assoc, List.cons_append]

theorem renderChars_arr (items : List Json) :
    renderChars (.arr items) = '[' :: textAll renderChars ']' items := by
  cases items with
  | nil => rw [renderChars]; rfl
  | cons v rest => rw [renderChars, renderItems_eq]; rfl

theorem renderChars_obj (members : List (String × Json)) :
    renderChars (.obj members) = '{' :: textAll memberChars '}' members := by
  cases members with
  | nil => rw [renderChars]; rfl
  | cons m rest =>
    rw [renderChars, renderMembers_eq, textAll, memberChars, List.append_assoc, List.cons_append]

/-- A member is read back if its value is. -/
theorem ReadsBack.member {value : List Char → Read Json} {ok : Json → Bool} {out : Json → Json}
    {m : String × Json} (h : ReadsBack value renderChars ok out m.2) :
    ReadsBack (member value) memberChars (fun m => ok m.2) (fun m => (m.1, out m.2)) m where
  reads rest hrest := by
    have htext : memberChars m ++ rest = '"' :: (m.1.toList.flatMap escapeChar ++
        '"' :: ':' :: (m.2.renderChars ++ rest)) := by
      simp [memberChars, quoteChars]
    rw [htext, Json.member, stringTail_escaped]
    simp only [skip_cons (c := ':') rfl, h.skip_eq, h.reads rest hrest]
    cases ok m.2 <;> simp
  begins := ⟨'"', _, rfl, rfl⟩

/-- Scalars are read back, whatever nesting is allowed. -/
theorem ReadsBack.of_scalar {v : Json} (hdepth : v.depth = 0) {levels : Nat}
    (hreads : ∀ rest, EndsNumber rest →
      value levels (v.renderChars ++ rest) = some (v.reread, rest))
    (hbegins : ∃ c more, v.renderChars = c :: more ∧ opens c = true) :
    ReadsBack (value levels) renderChars (fun v => decide (v.depth ≤ levels)) reread v where
  reads rest hrest := by
    rw [hreads rest hrest, hdepth, if_pos (by simp)]
  begins := hbegins

theorem opens_intChars (n : Int) : ∃ c more, intChars n = c :: more ∧ opens c = true := by
  rw [intChars]
  split
  · exact ⟨'-', _, rfl, rfl⟩
  · obtain ⟨c, ds, hds⟩ := List.exists_cons_of_ne_nil (isDigits_toDigits n.natAbs).1
    exact ⟨c, ds, hds, opens_of_isDigit ((isDigits_toDigits n.natAbs).2 c (by simp [hds]))⟩

/-- The text of a double is read as what it is read as by itself. -/
theorem Legible.value_eq {x : Binary64} (h : Legible x) (levels : Nat) {rest : List Char}
    (hrest : EndsNumber rest) :
    value levels (x.renderChars ++ rest) = some ((Json.float x).reread, rest) := by
  obtain ⟨l, hl, hfits, htext⟩ := h
  obtain ⟨v, hv⟩ := Literal.exists_value hl hfits
  rw [htext] at hv
  have halone := hv 0 [] rfl
  rw [List.append_nil] at halone
  rw [hv levels rest hrest, reread, halone, Option.map_some, Option.getD_some]

theorem Legible.begins {x : Binary64} (h : Legible x) :
    ∃ c more, x.renderChars = c :: more ∧ opens c = true := by
  obtain ⟨l, hl, hfits, htext⟩ := h
  rw [← htext]
  exact exists_opens (l := .reader) (.number hl fun _ => hfits)

/-- The text of a value is read back, unless there are too many containers within each other. -/
theorem readsBack {v : Json} (h : v.NumbersAre IsInt64 Legible) (levels : Nat) :
    ReadsBack (value levels) renderChars (fun v => decide (v.depth ≤ levels)) reread v := by
  induction h generalizing levels with
  | null =>
    refine .of_scalar rfl (fun rest _ => ?_) ⟨'n', _, rfl, rfl⟩
    rw [renderChars, List.cons_append, value]
    exact word_append ['n', 'u', 'l', 'l'] .null rest
  | bool b =>
    cases b with
    | true =>
      refine .of_scalar rfl (fun rest _ => ?_) ⟨'t', _, rfl, rfl⟩
      rw [renderChars, List.cons_append, value]
      exact word_append ['t', 'r', 'u', 'e'] (.bool true) rest
    | false =>
      refine .of_scalar rfl (fun rest _ => ?_) ⟨'f', _, rfl, rfl⟩
      rw [renderChars, List.cons_append, value]
      exact word_append ['f', 'a', 'l', 's', 'e'] (.bool false) rest
  | @int n h => exact .of_scalar rfl (fun _ => value_intChars h levels) (opens_intChars n)
  | float h => exact .of_scalar rfl (fun _ => h.value_eq levels) h.begins
  | str s =>
    refine .of_scalar rfl (fun rest _ => ?_) ⟨'"', _, rfl, rfl⟩
    have htext : renderChars (.str s) ++ rest =
        '"' :: (s.toList.flatMap escapeChar ++ '"' :: rest) := by
      simp [renderChars, quoteChars]
    rw [htext, value, stringTail_escaped]
    simp [reread]
  | @arr items h ih =>
    refine ⟨fun rest hrest => ?_, '[', _, renderChars_arr items, rfl⟩
    rw [renderChars_arr, List.cons_append]
    cases levels with
    | zero => simp [value, depth]
    | succ n =>
      have hall : (items.all fun v => decide (v.depth ≤ n)) = decide (depthItems items ≤ n) := by
        rw [Bool.eq_iff_iff, List.all_eq_true, decide_eq_true_iff, depthItems_le_iff]
        simp only [decide_eq_true_iff]
      simp only [value, items_textAll (.inl rfl) fun v hv => ih v hv n, hall, depth,
        Nat.add_le_add_iff_right, reread, rereadItems_eq]
      split <;> rfl
  | @obj members h ih =>
    refine ⟨fun rest hrest => ?_, '{', _, renderChars_obj members, rfl⟩
    rw [renderChars_obj, List.cons_append]
    cases levels with
    | zero => simp [value, depth]
    | succ n =>
      have hall : (members.all fun m => decide (m.2.depth ≤ n)) =
          decide (depthMembers members ≤ n) := by
        rw [Bool.eq_iff_iff, List.all_eq_true, decide_eq_true_iff, depthMembers_le_iff]
        simp only [decide_eq_true_iff]
      simp only [value, items_textAll (.inr rfl) fun m hm => (ih m hm n).member, hall, depth,
        Nat.add_le_add_iff_right, reread, rereadMembers_eq]
      split <;> rfl

/-! ## Texts -/

/-- A value without doubles is read as it is. -/
theorem reread_of_whole {whole : Int → Prop} {v : Json}
    (h : v.NumbersAre whole fun _ => False) : v.reread = v := by
  induction h with
  | float h => exact h.elim
  | @arr items _ ih =>
    rw [reread, rereadItems_eq, List.map_congr_left ih, List.map_id']
  | @obj members _ ih =>
    have hmembers : members.map (fun m => (m.1, m.2.reread)) = members := by
      rw [List.map_congr_left fun m hm => by rw [ih m hm], List.map_id']
    rw [reread, rereadMembers_eq, hmembers]
  | _ => rw [reread]; all_goals nofun

/-- More numbers may be allowed. -/
theorem NumbersAre.mono {whole whole' : Int → Prop} {double double' : Binary64 → Prop}
    (hwhole : ∀ n, whole n → whole' n) (hdouble : ∀ x, double x → double' x) {v : Json}
    (h : v.NumbersAre whole double) : v.NumbersAre whole' double' := by
  induction h with
  | null => exact .null
  | bool b => exact .bool b
  | int h => exact .int (hwhole _ h)
  | float h => exact .float (hdouble _ h)
  | str s => exact .str s
  | arr _ ih => exact .arr ih
  | obj _ ih => exact .obj ih

/-- The text of a value is read back unless it has too many containers within each other. -/
theorem readBytes_render {v : Json} (h : v.NumbersAre IsInt64 Legible) :
    readBytes (Utf8.encode v.render) =
      if v.depth ≤ maxDepth then some v.reread.canonical else none := by
  have hback := readsBack h maxDepth
  have hskip := hback.skip_eq []
  have hreads := hback.reads [] rfl
  rw [List.append_nil] at hskip hreads
  rw [readBytes, render, Utf8.encode, String.toList_ofList, Utf8.decode_encodeChars]
  simp only [read, readRaw, hskip, hreads, decide_eq_true_iff]
  by_cases hdepth : v.depth ≤ maxDepth
  · simp [hdepth, skip]
  · simp [hdepth]

end RequestBinding.Json
