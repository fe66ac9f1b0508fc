import RequestBinding.Proofs.Json.Numbers
import RequestBinding.Proofs.Json.Strings
import RequestBinding.Proofs.Text.Utf8

/-!
# Reading texts of values

What is read as a value is a text of the grammar within the limits of reading, and all such texts
are read. A text is read as an object if it is the text of one.

## Main definitions

* `Json.Reads` - a reader reads the texts of a kind of entries

## Main statements

* `Json.Reads.entries_of_items`, `Json.Reads.exists_items` - the entries of a container are read up
  to its closing character
* `Json.reads_value` - the texts of values are read
* `Json.exists_readBytes_iff` - the bytes that are read as an object
-/

namespace RequestBinding.Json

/-! ## Blanks -/

theorem isSpace_iff (c : Char) : isSpace c = true ↔ c ∈ [' ', '\n', '\t', '\r'] := by
  simp [isSpace, or_assoc]

theorem exists_skip (cs : List Char) : ∃ blanks, Blank blanks ∧ cs = blanks ++ skip cs :=
  ⟨cs.takeWhile isSpace, fun c hc => (isSpace_iff c).1 (List.all_eq_true.1 List.all_takeWhile c hc),
    List.takeWhile_append_dropWhile.symm⟩

theorem skip_append {blanks : List Char} (hblanks : Blank blanks) (cs : List Char) :
    skip (blanks ++ cs) = skip cs :=
  List.dropWhile_append_of_pos fun c hc => (isSpace_iff c).2 (hblanks c hc)

theorem skip_cons {c : Char} (hc : isSpace c = false) (cs : List Char) :
    skip (c :: cs) = c :: cs := by
  rw [skip, List.dropWhile_cons, hc, if_neg Bool.false_ne_true]

theorem skip_eq_nil_iff {cs : List Char} : skip cs = [] ↔ Blank cs := by
  constructor
  · intro h
    obtain ⟨blanks, hblanks, hcs⟩ := exists_skip cs
    rw [hcs, h, List.append_nil]
    exact hblanks
  · intro h
    have happend := skip_append h []
    rwa [List.append_nil] at happend

/-- Blanks do not continue a number. -/
theorem EndsNumber.append {blanks cs : List Char} (h : EndsNumber cs) (hblanks : Blank blanks) :
    EndsNumber (blanks ++ cs) := by
  cases blanks with
  | nil => exact h
  | cons c blanks =>
    have hc := hblanks c List.mem_cons_self
    simp only [List.mem_cons, List.not_mem_nil, or_false] at hc
    rcases hc with rfl | rfl | rfl | rfl <;> rfl

/-! ## Entries -/

/-- The characters that an entry of a container may begin with. -/
def opens (c : Char) : Bool := !isSpace c && c != ']' && c != '}'

/-- A reader reads the texts of a kind of entries, up to the end of each. -/
structure Reads {α : Type} (item : List Char → Read α) (entry : List Char → Prop) : Prop where
  sound : ∀ {cs v rest}, item cs = some (v, rest) → ∃ text, entry text ∧ cs = text ++ rest
  complete : ∀ {text rest}, entry text → EndsNumber rest →
    ∃ v, item (text ++ rest) = some (v, rest)
  begins : ∀ {text}, entry text → ∃ c more, text = c :: more ∧ opens c = true

section Items

variable {α : Type} {item : List Char → Read α} {entry : List Char → Prop} {close : Char}
  {cs rest : List Char}

/-- What follows an entry: the closing character, or a comma and the next entry. -/
theorem exists_of_itemsTail {vs : List α} (h : itemsTail item close cs = some (vs, rest)) :
    ∃ blanks, Blank blanks ∧ (vs = [] ∧ cs = blanks ++ close :: rest ∨
      ∃ more v after vs', vs = v :: vs' ∧ cs = blanks ++ ',' :: more ∧
        item (skip more) = some (v, after) ∧ after.length < cs.length ∧
        itemsTail item close after = some (vs', rest)) := by
  obtain ⟨blanks, hblanks, hskip⟩ := exists_skip cs
  refine ⟨blanks, hblanks, ?_⟩
  unfold itemsTail at h
  split at h
  · cases h
  · next c more hmore =>
    rw [hmore] at hskip
    split at h
    · next hclose =>
      cases h
      exact .inl ⟨rfl, by rw [← beq_iff_eq.1 hclose, ← hskip]⟩
    · split at h
      · next hcomma =>
        split at h
        · cases h
        · next v after hitem =>
          split at h
          · next hlt =>
            split at h
            · next vs' rest' htail =>
              cases h
              exact .inr ⟨more, v, after, vs', rfl, by rw [← beq_iff_eq.1 hcomma, ← hskip], hitem,
                hlt, htail⟩
            · cases h
          · cases h
      · cases h

/-- What a container has first: its closing character, or an entry. -/
theorem exists_of_items {vs : List α} (h : items item close cs = some (vs, rest)) :
    (vs = [] ∧ ∃ blanks, Blank blanks ∧ cs = blanks ++ close :: rest) ∨
      ∃ v after vs', vs = v :: vs' ∧ item (skip cs) = some (v, after) ∧
        itemsTail item close after = some (vs', rest) := by
  obtain ⟨blanks, hblanks, hskip⟩ := exists_skip cs
  unfold items at h
  split at h
  · cases h
  · next c more hmore =>
    rw [hmore] at hskip
    split at h
    · next hclose =>
      cases h
      exact .inl ⟨rfl, blanks, hblanks, by rw [← beq_iff_eq.1 hclose, ← hskip]⟩
    · split at h
      · cases h
      · next v after hitem =>
        split at h
        · next vs' rest' htail =>
          cases h
          exact .inr ⟨v, after, vs', rfl, by rw [hmore, hitem], htail⟩
        · cases h

/-- What is read as an entry and those behind it are entries, up to the closing character. -/
theorem Reads.separated_of_item (h : Reads item entry) {v : α} {after : List Char} {vs : List α}
    (hitem : item (skip cs) = some (v, after))
    (htail : itemsTail item close after = some (vs, rest)) :
    ∃ inner, Separated entry inner ∧ cs = inner ++ close :: rest := by
  -- each entry leaves less to be read
  induction hlength : after.length using Nat.strongRecOn generalizing cs v after vs with
  | _ length ih =>
    obtain ⟨before, hbefore, hskip⟩ := exists_skip cs
    obtain ⟨text, htext, hcs⟩ := h.sound hitem
    rw [hcs] at hskip
    rcases exists_of_itemsTail htail with
      ⟨blanks, hblanks, ⟨-, hlast⟩ | ⟨more, v', after', vs', -, hmore, hitem', hlt, htail'⟩⟩
    · refine ⟨_, .last hbefore htext hblanks, ?_⟩
      rw [hskip, hlast]
      simp
    · obtain ⟨inner, hinner, hrest⟩ := ih _ (hlength ▸ hlt) hitem' htail' rfl
      refine ⟨_, .more hbefore htext hblanks hinner, ?_⟩
      rw [hskip, hmore, hrest]
      simp

/-- What is read as the items of a container are entries, up to its closing character. -/
theorem Reads.entries_of_items (h : Reads item entry) {vs : List α}
    (hitems : items item close cs = some (vs, rest)) :
    ∃ inner, Entries entry inner ∧ cs = inner ++ close :: rest := by
  rcases exists_of_items hitems with ⟨-, blanks, hblanks, hcs⟩ | ⟨v, after, vs', -, hitem, htail⟩
  · exact ⟨blanks, .inl hblanks, hcs⟩
  · obtain ⟨inner, hinner, hcs⟩ := h.separated_of_item hitem htail
    exact ⟨inner, .inr hinner, hcs⟩

theorem itemsTail_close (hclose : isSpace close = false) {blanks : List Char}
    (hblanks : Blank blanks) (rest : List Char) :
    itemsTail item close (blanks ++ close :: rest) = some ([], rest) := by
  rw [itemsTail, skip_append hblanks, skip_cons hclose]
  simp

theorem itemsTail_comma (hclose : ',' ≠ close) {blanks : List Char} (hblanks : Blank blanks)
    {more after rest : List Char} {v : α} {vs : List α} (hitem : item (skip more) = some (v, after))
    (hlength : after.length < more.length)
    (htail : itemsTail item close after = some (vs, rest)) :
    itemsTail item close (blanks ++ ',' :: more) = some (v :: vs, rest) := by
  have hlt : after.length < (blanks ++ ',' :: more).length := by
    rw [List.length_append, List.length_cons]
    omega
  rw [itemsTail, skip_append hblanks, skip_cons rfl]
  simp only [beq_iff_eq, hclose, if_false, if_true, hitem, dif_pos hlt, htail]

/-- An entry is read up to what stands behind it. -/
theorem Reads.complete_first (h : Reads item entry) {before text tail : List Char}
    (hbefore : Blank before) (htext : entry text) (htail : EndsNumber tail) :
    ∃ c more v, skip (before ++ (text ++ tail)) = c :: more ∧ opens c = true ∧
      item (c :: more) = some (v, tail) ∧ tail.length < (before ++ (text ++ tail)).length := by
  obtain ⟨v, hv⟩ := h.complete htext htail
  obtain ⟨c, more, rfl, hc⟩ := h.begins htext
  have hspace : isSpace c = false := by
    simp only [opens, Bool.and_eq_true, Bool.not_eq_true'] at hc
    exact hc.1.1
  refine ⟨c, more ++ tail, v, ?_, hc, hv, ?_⟩
  · rw [skip_append hbefore, List.cons_append, skip_cons hspace]
  · simp only [List.length_append, List.length_cons]
    omega

/-- Entries are read one by one, each up to what stands behind it. -/
theorem Reads.complete_separated (h : Reads item entry) (hclose : close = ']' ∨ close = '}')
    {inner : List Char} (hinner : Separated entry inner) (rest : List Char) :
    ∃ c more v after vs, skip (inner ++ close :: rest) = c :: more ∧ opens c = true ∧
      item (c :: more) = some (v, after) ∧ after.length < (inner ++ close :: rest).length ∧
      itemsTail item close after = some (vs, rest) := by
  have hspace : isSpace close = false := by
    rcases hclose with rfl | rfl <;> rfl
  have hcomma : ',' ≠ close := by
    rcases hclose with rfl | rfl <;> decide
  have hend : EndsNumber (close :: rest) := by
    rcases hclose with rfl | rfl <;> rfl
  induction hinner with
  | last hbefore htext hafter =>
    obtain ⟨c, more, v, hskip, hc, hitem, hlt⟩ :=
      h.complete_first hbefore htext (hend.append hafter)
    simp only [List.append_assoc]
    exact ⟨c, more, v, _, [], hskip, hc, hitem, hlt, itemsTail_close hspace hafter rest⟩
  | @more _ _ after rest' hbefore htext hafter _ ih =>
    obtain ⟨_, _, v', after', vs, hskip', _, hitem', hlt', htail⟩ := ih
    have hend' : EndsNumber (',' :: (rest' ++ close :: rest)) := rfl
    obtain ⟨c, more, v, hskip, hc, hitem, hlt⟩ :=
      h.complete_first hbefore htext (hend'.append hafter)
    simp only [List.append_assoc, List.cons_append]
    rw [← hskip'] at hitem'
    exact ⟨c, more, v, _, v' :: vs, hskip, hc, hitem, hlt,
      itemsTail_comma hcomma hafter hitem' hlt' htail⟩

/-- The entries of a container are read as its items, up to its closing character. -/
theorem Reads.exists_items (h : Reads item entry) (hclose : close = ']' ∨ close = '}')
    {inner : List Char} (hinner : Entries entry inner) (rest : List Char) :
    ∃ vs, items item close (inner ++ close :: rest) = some (vs, rest) := by
  rcases hinner with hblank | hinner
  · have hspace : isSpace close = false := by
      rcases hclose with rfl | rfl <;> rfl
    refine ⟨[], ?_⟩
    rw [items, skip_append hblank, skip_cons hspace]
    simp
  · obtain ⟨c, more, v, after, vs, hskip, hc, hitem, _, htail⟩ :=
      h.complete_separated hclose hinner rest
    have hne : c ≠ close := by
      rintro rfl
      rcases hclose with rfl | rfl <;> cases hc
    refine ⟨v :: vs, ?_⟩
    rw [items, hskip]
    simp [hne, hitem, htail]

end Items

/-! ## Members -/

/-- The members of an object are read if their values are. -/
theorem reads_member {value : List Char → Read Json} {entry : List Char → Prop}
    (h : Reads value entry) : Reads (member value) (IsMember .reader entry) where
  sound {cs v rest} hcs := by
    unfold member at hcs
    split at hcs
    · next cs =>
      split at hcs
      · cases hcs
      · next key after hkey =>
        obtain ⟨body, hbody, rfl⟩ := exists_body_of_stringTail hkey
        obtain ⟨before, hbefore, hafter⟩ := exists_skip after
        split at hcs
        · next more hcolon =>
          rw [hcolon] at hafter
          obtain ⟨blanks, hblanks, hmore⟩ := exists_skip more
          split at hcs
          · next v' rest' hvalue =>
            cases hcs
            obtain ⟨text, htext, hskip⟩ := h.sound hvalue
            refine ⟨_, ⟨body, before, blanks, text, hbody, hbefore, hblanks, htext, rfl⟩, ?_⟩
            rw [hafter, hmore, hskip]
            simp
          · cases hcs
        · cases hcs
    · cases hcs
  complete {text rest} htext hrest := by
    obtain ⟨key, before, after, text, hkey, hbefore, hafter, htext, rfl⟩ := htext
    obtain ⟨c, more, v, hskip, -, hvalue, -⟩ := h.complete_first hafter htext hrest
    obtain ⟨k, hk⟩ := exists_stringTail hkey (before ++ ':' :: (after ++ (text ++ rest)))
    refine ⟨(String.ofList k, v), ?_⟩
    simp only [List.cons_append, List.append_assoc, member, hk, skip_append hbefore,
      skip_cons (c := ':') rfl, hskip, hvalue]
  begins htext := by
    obtain ⟨key, before, after, text, -, -, -, -, rfl⟩ := htext
    exact ⟨'"', _, rfl, rfl⟩

/-! ## Values -/

theorem exists_of_word {w cs rest : List Char} {v v' : Json} (h : word w v cs = some (v', rest)) :
    v' = v ∧ cs = w ++ rest := by
  rw [word] at h
  split at h
  · next hprefix =>
    cases h
    obtain ⟨more, rfl⟩ := List.isPrefixOf_iff_prefix.1 hprefix
    exact ⟨rfl, by rw [List.drop_left]⟩
  · cases h

theorem word_append (w : List Char) (v : Json) (rest : List Char) :
    word w v (w ++ rest) = some (v, rest) := by
  rw [word, if_pos (List.isPrefixOf_iff_prefix.2 (List.prefix_append _ _)), List.drop_left]

/-- A number without a sign begins with a digit, which opens no other value. -/
theorem value_of_isDigit (levels : Nat) {c : Char} (hc : c.isDigit = true) (cs : List Char) :
    value levels (c :: cs) = number false (c :: cs) := by
  unfold value
  split
  all_goals first
    | rfl
    | next heq =>
      cases heq
      cases hc

theorem IsScalar.isValue {l : Limits} {cs : List Char} (h : IsScalar l cs) (n : Nat) :
    IsValue l n cs := by
  cases n with
  | zero => exact h
  | succ n => exact .inl h

theorem Literal.Proper.exists_digit {x : Literal} (hx : x.Proper) :
    ∃ c more, x.magnitude = c :: more ∧ c.isDigit = true := by
  obtain ⟨c, ds, hwhole⟩ := List.exists_cons_of_ne_nil hx.whole.1
  refine ⟨c, ds ++ (fractionText x.fraction ++ exponentText x.exponent), ?_,
    hx.whole.2 c (by simp [hwhole])⟩
  rw [magnitude, hwhole, List.cons_append]

/-- A text that a value may be read from, within some nesting; an object only from the text of
one. -/
def TextFor (levels : Nat) (v : Json) (text : List Char) : Prop :=
  (∀ members, v ≠ .obj members) ∧ IsValue .reader levels text ∨
    ∃ n, levels = n + 1 ∧ IsObject .reader n text

theorem IsScalar.textFor {levels : Nat} {v : Json} {text : List Char} (h : IsScalar .reader text)
    (hv : ∀ members, v ≠ .obj members) : TextFor levels v text := .inl ⟨hv, h.isValue levels⟩

/-- What is read as a value is the text of one. -/
theorem exists_text_of_value {levels : Nat}
    (ih : ∀ n, levels = n + 1 → Reads (value n) (IsValue .reader n)) {cs rest : List Char}
    {v : Json} (h : value levels cs = some (v, rest)) :
    ∃ text, TextFor levels v text ∧ cs = text ++ rest := by
  unfold value at h
  split at h
  · obtain ⟨rfl, hcs⟩ := exists_of_word h
    exact ⟨_, IsScalar.null.textFor nofun, hcs⟩
  · obtain ⟨rfl, hcs⟩ := exists_of_word h
    exact ⟨_, IsScalar.true.textFor nofun, hcs⟩
  · obtain ⟨rfl, hcs⟩ := exists_of_word h
    exact ⟨_, IsScalar.false.textFor nofun, hcs⟩
  · obtain ⟨⟨s, after⟩, htail, heq⟩ := Option.map_eq_some_iff.1 h
    cases heq
    obtain ⟨body, hbody, rfl⟩ := exists_body_of_stringTail htail
    exact ⟨_, (IsScalar.string hbody).textFor nofun, by simp⟩
  · obtain ⟨hv, x, hnegative, hx, hfits, rfl⟩ := exists_literal_of_number h
    exact ⟨_, (IsScalar.number hx fun _ => hfits).textFor hv.ne_obj,
      by simp [Literal.text, hnegative]⟩
  · next more =>
    split at h
    · cases h
    · next n =>
      obtain ⟨⟨vs, after⟩, hitems, heq⟩ := Option.map_eq_some_iff.1 h
      cases heq
      obtain ⟨inner, hinner, rfl⟩ := (ih n rfl).entries_of_items hitems
      exact ⟨_, .inl ⟨nofun, .inr (.inl ⟨inner, hinner, rfl⟩)⟩, by simp⟩
  · next more =>
    split at h
    · cases h
    · next n =>
      obtain ⟨⟨ms, after⟩, hitems, heq⟩ := Option.map_eq_some_iff.1 h
      cases heq
      obtain ⟨inner, hinner, rfl⟩ := (reads_member (ih n rfl)).entries_of_items hitems
      exact ⟨_, .inr ⟨n, rfl, inner, hinner, rfl⟩, by simp⟩
  · obtain ⟨hv, x, hnegative, hx, hfits, rfl⟩ := exists_literal_of_number h
    exact ⟨_, (IsScalar.number hx fun _ => hfits).textFor hv.ne_obj,
      by simp [Literal.text, hnegative]⟩

/-- Literals within range are read as values, whatever nesting is allowed. -/
theorem Literal.exists_value {x : Literal} (hx : x.Proper) (hfits : x.Fits) :
    ∃ v, ∀ levels rest, EndsNumber rest → value levels (x.text ++ rest) = some (v, rest) := by
  obtain ⟨v, hv⟩ := exists_number hx hfits
  refine ⟨v, fun levels rest hrest => ?_⟩
  have hnumber := hv rest hrest
  rw [Literal.text]
  cases hnegative : x.negative with
  | true =>
    rw [hnegative] at hnumber
    rw [if_pos rfl, List.singleton_append, List.cons_append, value]
    exact hnumber
  | false =>
    obtain ⟨c, more, hmagnitude, hc⟩ := hx.exists_digit
    rw [hnegative, hmagnitude] at hnumber
    rw [if_neg Bool.false_ne_true, List.nil_append, hmagnitude, List.cons_append,
      value_of_isDigit levels hc]
    exact hnumber

/-- Scalars are read, whatever nesting is allowed. -/
theorem IsScalar.exists_value {text rest : List Char} (h : IsScalar .reader text) (levels : Nat)
    (hrest : EndsNumber rest) : ∃ v, value levels (text ++ rest) = some (v, rest) := by
  cases h with
  | null =>
    refine ⟨.null, ?_⟩
    rw [List.cons_append, value]
    exact word_append ['n', 'u', 'l', 'l'] .null rest
  | true =>
    refine ⟨.bool Bool.true, ?_⟩
    rw [List.cons_append, value]
    exact word_append ['t', 'r', 'u', 'e'] _ rest
  | false =>
    refine ⟨.bool Bool.false, ?_⟩
    rw [List.cons_append, value]
    exact word_append ['f', 'a', 'l', 's', 'e'] _ rest
  | @string body h =>
    obtain ⟨s, hs⟩ := exists_stringTail h rest
    refine ⟨.str (String.ofList s), ?_⟩
    rw [List.cons_append, List.append_assoc, List.singleton_append, value, hs, Option.map_some]
  | @number x hx hfits =>
    obtain ⟨v, hv⟩ := Literal.exists_value hx (hfits rfl)
    exact ⟨v, hv levels rest hrest⟩

/-- A digit is neither a blank nor does it close a container. -/
theorem opens_of_isDigit {c : Char} (hc : c.isDigit = true) : opens c = true := by
  have hne : ∀ d : Char, d.isDigit = false → c ≠ d := by
    rintro d hd rfl
    rw [hc] at hd
    cases hd
  simp [opens, isSpace, hne ' ' rfl, hne '\n' rfl, hne '\t' rfl, hne '\r' rfl, hne ']' rfl,
    hne '}' rfl]

theorem exists_opens {l : Limits} {text : List Char} (h : IsScalar l text) :
    ∃ c more, text = c :: more ∧ opens c = true := by
  cases h with
  | null => exact ⟨'n', _, rfl, rfl⟩
  | true => exact ⟨'t', _, rfl, rfl⟩
  | false => exact ⟨'f', _, rfl, rfl⟩
  | string => exact ⟨'"', _, rfl, rfl⟩
  | @number x hx =>
    rw [Literal.text]
    cases x.negative with
    | true => exact ⟨'-', _, rfl, rfl⟩
    | false =>
      obtain ⟨c, more, hmagnitude, hc⟩ := hx.exists_digit
      exact ⟨c, more, by simp [hmagnitude], opens_of_isDigit hc⟩

/-- The text of an object is read as one. -/
theorem IsObject.exists_value {n : Nat} (hvalue : Reads (value n) (IsValue .reader n))
    {text : List Char} (h : IsObject .reader n text) (rest : List Char) :
    ∃ members, value (n + 1) (text ++ rest) = some (.obj members, rest) := by
  obtain ⟨inner, hinner, rfl⟩ := h
  obtain ⟨ms, hms⟩ := (reads_member hvalue).exists_items (.inr rfl) hinner rest
  refine ⟨ms, ?_⟩
  rw [List.cons_append, List.append_assoc, List.singleton_append, value, hms, Option.map_some]

/-- The texts of values are read, up to the end of each. -/
theorem reads_value (levels : Nat) : Reads (value levels) (IsValue .reader levels) := by
  induction levels with
  | zero =>
    refine ⟨fun h => ?_, fun h hrest => h.exists_value 0 hrest, fun h => exists_opens h⟩
    obtain ⟨text, ⟨-, htext⟩ | ⟨n, hn, -⟩, hcs⟩ := exists_text_of_value (fun _ hn => by cases hn) h
    · exact ⟨text, htext, hcs⟩
    · cases hn
  | succ n ih =>
    refine ⟨fun h => ?_, fun {text rest} h hrest => ?_, fun {text} h => ?_⟩
    · have hitems : ∀ m, n + 1 = m + 1 → Reads (value m) (IsValue .reader m) := by
        rintro _ ⟨⟩
        exact ih
      obtain ⟨text, ⟨-, htext⟩ | ⟨m, hm, htext⟩, hcs⟩ := exists_text_of_value hitems h
      · exact ⟨text, htext, hcs⟩
      · cases hm
        exact ⟨text, .inr (.inr htext), hcs⟩
    · rcases h with h | ⟨inner, hinner, rfl⟩ | h
      · exact h.exists_value (n + 1) hrest
      · obtain ⟨vs, hvs⟩ := ih.exists_items (.inl rfl) hinner rest
        refine ⟨.arr vs, ?_⟩
        rw [List.cons_append, List.append_assoc, List.singleton_append, value, hvs,
          Option.map_some]
      · obtain ⟨ms, hms⟩ := IsObject.exists_value ih h rest
        exact ⟨_, hms⟩
    · rcases h with h | ⟨inner, -, rfl⟩ | ⟨inner, -, rfl⟩
      · exact exists_opens h
      · exact ⟨'[', _, rfl, rfl⟩
      · exact ⟨'{', _, rfl, rfl⟩

/-! ## Objects -/

/-- A text is read as an object if it is the text of one. -/
theorem exists_readRaw_iff (cs : List Char) :
    (∃ members, readRaw cs = some (.obj members)) ↔ IsObjectText .reader cs := by
  constructor
  · rintro ⟨members, h⟩
    rw [readRaw, maxDepth] at h
    split at h
    · next v rest hvalue =>
      split at h
      · next hrest =>
        cases h
        obtain ⟨before, hbefore, hskip⟩ := exists_skip cs
        obtain ⟨text, ⟨hno, -⟩ | ⟨n, hn, htext⟩, hcs⟩ :=
          exists_text_of_value (fun n _ => reads_value n) hvalue
        · exact absurd rfl (hno members)
        · rw [hcs] at hskip
          refine ⟨n, before, text, rest, ?_, hbefore, htext,
            skip_eq_nil_iff.1 (List.isEmpty_iff.1 hrest), hskip⟩
          rintro _ ⟨⟩
          omega
      · cases h
    · cases h
  · rintro ⟨n, before, text, after, hn, hbefore, htext, hafter, rfl⟩
    have hle : n ≤ 126 := Nat.le_of_lt_succ (hn _ rfl)
    obtain ⟨members, hvalue⟩ := IsObject.exists_value (reads_value 126) (htext.mono hle) after
    obtain ⟨inner, -, rfl⟩ := htext
    have hskip : skip (before ++ ('{' :: (inner ++ ['}']) ++ after)) =
        '{' :: (inner ++ ['}']) ++ after := by
      rw [skip_append hbefore, List.cons_append, skip_cons rfl]
    refine ⟨members, ?_⟩
    rw [readRaw, hskip, maxDepth, hvalue]
    simp [skip_eq_nil_iff.2 hafter]

theorem canonical_eq_obj_iff (v : Json) :
    (∃ members, canonical v = .obj members) ↔ ∃ members, v = .obj members := by
  cases v <;> simp [canonical]

/-- Bytes are read as an object if they are those of the text of one. -/
theorem exists_readBytes_iff (bs : List UInt8) :
    (∃ members, readBytes bs = some (.obj members)) ↔
      ∃ cs, bs = Utf8.encodeChars cs ∧ IsObjectText .reader cs := by
  have hread : ∀ cs, (∃ members, read cs = some (.obj members)) ↔ IsObjectText .reader cs := by
    intro cs
    rw [← exists_readRaw_iff, read]
    cases readRaw cs with
    | none => simp
    | some v => simpa using canonical_eq_obj_iff v
  rw [readBytes]
  cases hdecode : Utf8.decode bs with
  | error fault =>
    have hno : ∀ cs, bs ≠ Utf8.encodeChars cs := by
      rintro cs rfl
      rw [Utf8.decode_encodeChars] at hdecode
      cases hdecode
    simp [hno]
  | ok cs =>
    refine (hread cs).trans ⟨fun h => ⟨cs, Utf8.decode_eq_ok_iff.1 hdecode, h⟩, ?_⟩
    rintro ⟨cs', hcs, h⟩
    rw [Utf8.decode_eq_ok_iff.2 hcs] at hdecode
    cases hdecode
    exact h

end RequestBinding.Json
