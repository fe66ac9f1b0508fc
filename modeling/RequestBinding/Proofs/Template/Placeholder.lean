import RequestBinding.Constraint
import RequestBinding.Proofs.Regex.Enclosing
import RequestBinding.Proofs.Regex.NormalForm

/-!
# The texts of placeholders

What a placeholder may stand for under a set of constraints, and that the pattern of its constraint
matches just these texts. The constraints considered are those that are built in: digits, slugs and
the default.

## Main definitions

* `Constraints.nearest?` - the constraint of a placeholder, if there is one
* `Constraints.Fits` - the texts that a placeholder may stand for
* `Constraints.BuiltIn` - all constraints are built in

## Main statements

* `exists_denotes_fits` - the pattern of a placeholder matches the texts that fit
-/

namespace RequestBinding

/-- The constraint of a placeholder: that of its qualified name, else that of its field. -/
def Constraints.nearest? (cs : Constraints) (resource field : String) : Option Constraint :=
  (cs.get? (resource ++ "." ++ field)).or (cs.get? field)

/-- The texts that a placeholder may stand for. -/
inductive Constraints.Fits (cs : Constraints) (resource field : String) : List Char → Prop
  /-- One or more ASCII digits. -/
  | digits {text : List Char} (h : cs.nearest? resource field = some .digits) (hne : text ≠ [])
      (hall : ∀ c ∈ text, c.isDigit = true) : Fits cs resource field text
  /-- Two texts without slashes around an escaped slash; neither is empty. -/
  | slug {owner name : List Char} {f : Char} (h : cs.nearest? resource field = some .slug)
      (hf : f = 'F' ∨ f = 'f') (howner : owner ≠ []) (hname : name ≠ [])
      (hownerSlash : '/' ∉ owner) (hnameSlash : '/' ∉ name) :
      Fits cs resource field (owner ++ '%' :: '2' :: f :: name)
  /-- One or more characters other than those that end a segment of a path. -/
  | rest {text : List Char} (h : cs.nearest? resource field = none) (hne : text ≠ [])
      (hall : ∀ c ∈ text, c ≠ '/' ∧ c ≠ '?' ∧ c ≠ '#') : Fits cs resource field text

/-- All constraints are those of digits or of slugs. -/
def Constraints.BuiltIn (cs : Constraints) : Prop :=
  ∀ e ∈ cs.entries, e.2 = .digits ∨ e.2 = .slug

theorem Constraints.pattern_eq (cs : Constraints) (resource field : String) :
    cs.pattern resource field =
      ((cs.nearest? resource field).map Constraint.regex).getD Constraint.defaultPattern := by
  unfold pattern nearest?
  cases cs.get? (resource ++ "." ++ field) with
  | some c => rfl
  | none => cases cs.get? field <;> rfl

theorem Constraints.BuiltIn.get? {cs : Constraints} (h : cs.BuiltIn) {field : String}
    {c : Constraint} (hc : cs.get? field = some c) : c = .digits ∨ c = .slug := by
  rw [Constraints.get?, Option.map_eq_some_iff] at hc
  obtain ⟨e, he, rfl⟩ := hc
  exact h e (List.mem_of_find?_eq_some he)

theorem Constraints.BuiltIn.nearest? {cs : Constraints} (h : cs.BuiltIn) {resource field : String}
    {c : Constraint} (hc : cs.nearest? resource field = some c) : c = .digits ∨ c = .slug := by
  rw [Constraints.nearest?, Option.or_eq_some_iff] at hc
  rcases hc with hc | ⟨_, hc⟩
  · exact h.get? hc
  · exact h.get? hc

section Fits

variable {cs : Constraints} {resource field : String}

theorem Constraints.fits_digits_iff (hc : cs.nearest? resource field = some .digits)
    (t : List Char) : cs.Fits resource field t ↔ t ≠ [] ∧ ∀ c ∈ t, c.isDigit = true := by
  constructor
  · intro h
    cases h with
    | digits _ hne hall => exact ⟨hne, hall⟩
    | slug h' => cases hc.symm.trans h'
    | rest h' => cases hc.symm.trans h'
  · rintro ⟨hne, hall⟩
    exact .digits hc hne hall

theorem Constraints.fits_slug_iff (hc : cs.nearest? resource field = some .slug) (t : List Char) :
    cs.Fits resource field t ↔ ∃ owner name f, (f = 'F' ∨ f = 'f') ∧ owner ≠ [] ∧ name ≠ [] ∧
      '/' ∉ owner ∧ '/' ∉ name ∧ t = owner ++ '%' :: '2' :: f :: name := by
  constructor
  · intro h
    cases h with
    | digits h' => cases hc.symm.trans h'
    | slug _ hf ho hn hos hns => exact ⟨_, _, _, hf, ho, hn, hos, hns, rfl⟩
    | rest h' => cases hc.symm.trans h'
  · rintro ⟨owner, name, f, hf, ho, hn, hos, hns, rfl⟩
    exact .slug hc hf ho hn hos hns

theorem Constraints.fits_rest_iff (hc : cs.nearest? resource field = none) (t : List Char) :
    cs.Fits resource field t ↔ t ≠ [] ∧ ∀ c ∈ t, c ≠ '/' ∧ c ≠ '?' ∧ c ≠ '#' := by
  constructor
  · intro h
    cases h with
    | digits h' => cases hc.symm.trans h'
    | slug h' => cases hc.symm.trans h'
    | rest _ hne hall => exact ⟨hne, hall⟩
  · rintro ⟨hne, hall⟩
    exact .rest hc hne hall

end Fits

namespace Regex

open RequestBinding.Unicode

/-! ## Texts of a kind -/

/-- A match of a text of some kind without captures. -/
def Meaning.ofTexts (p : List Char → Prop) : Meaning := fun c d k =>
  (∃ t, p t ∧ c.Takes t d) ∧ k = []

/-- A match that is captured under a name. -/
def Meaning.named (name : String) (m : Meaning) : Meaning := fun c d k =>
  ∃ k', m c d k' ∧ k = k' ++ captured (some name) c d

theorem Meaning.ofTexts_congr {p q : List Char → Prop} (h : ∀ t, p t ↔ q t) :
    ofTexts p = ofTexts q := by
  rw [funext fun t => propext (h t)]

theorem Meaning.seq_ofTexts (p q : List Char → Prop) :
    seq (ofTexts p) (ofTexts q) = ofTexts fun t => ∃ u v, p u ∧ q v ∧ t = u ++ v := by
  ext c e k
  constructor
  · rintro ⟨d, _, _, ⟨⟨u, hu, hud⟩, rfl⟩, ⟨⟨v, hv, hve⟩, rfl⟩, rfl⟩
    exact ⟨⟨u ++ v, ⟨u, v, hu, hv, rfl⟩, hud.trans hve⟩, rfl⟩
  · rintro ⟨⟨_, ⟨u, v, hu, hv, rfl⟩, h⟩, rfl⟩
    obtain ⟨d, hud, hve⟩ := Cursor.takes_append.1 h
    exact ⟨d, [], [], ⟨⟨u, hu, hud⟩, rfl⟩, ⟨⟨v, hv, hve⟩, rfl⟩, rfl⟩

theorem meaning_literal (text : List Char) :
    meaning (.literal text) = .ofTexts fun t => t = text := by
  ext c d k
  constructor
  · rintro ⟨h, rfl⟩
    exact ⟨⟨text, rfl, h⟩, rfl⟩
  · rintro ⟨⟨_, rfl, h⟩, rfl⟩
    exact ⟨h, rfl⟩

theorem meaning_set (s : RangeSet) :
    meaning (.set s) = .ofTexts fun t => ∃ x : Char, s.mem x.toNat = true ∧ t = [x] := by
  ext c d k
  constructor
  · rintro ⟨⟨x, hx, h⟩, rfl⟩
    exact ⟨⟨[x], ⟨x, hx, rfl⟩, h⟩, rfl⟩
  · rintro ⟨⟨_, ⟨x, hx, rfl⟩, h⟩, rfl⟩
    exact ⟨⟨x, hx, h⟩, rfl⟩

/-- A set repeated takes a text of its members. -/
theorem power_set (s : RangeSet) (n : Nat) : (meaning (.set s)).power n =
    .ofTexts fun t => t.length = n ∧ ∀ x ∈ t, s.mem x.toNat = true := by
  induction n with
  | zero =>
    ext c d k
    constructor
    · rintro ⟨rfl, rfl⟩
      exact ⟨⟨[], ⟨rfl, fun x hx => (List.not_mem_nil hx).elim⟩, Cursor.Takes.refl d⟩, rfl⟩
    · rintro ⟨⟨t, ⟨ht, _⟩, h⟩, rfl⟩
      rw [List.length_eq_zero_iff.1 ht] at h
      exact ⟨Cursor.takes_nil.1 h, rfl⟩
  | succ n ih =>
    rw [Meaning.power, ih, meaning_set, Meaning.seq_ofTexts]
    refine Meaning.ofTexts_congr fun t => ?_
    constructor
    · rintro ⟨_, v, ⟨x, hx, rfl⟩, ⟨rfl, hv⟩, rfl⟩
      refine ⟨rfl, fun y hy => ?_⟩
      rcases List.mem_cons.1 hy with rfl | hy
      · exact hx
      · exact hv y hy
    · rintro ⟨hlen, hall⟩
      cases t with
      | nil => cases hlen
      | cons x t =>
        exact ⟨[x], t, ⟨x, hall x List.mem_cons_self, rfl⟩, ⟨Nat.succ.inj hlen,
          fun y hy => hall y (List.mem_cons_of_mem x hy)⟩, rfl⟩

theorem meaning_plus_set (greedy : Bool) (s : RangeSet) : meaning (.rep greedy 1 none (.set s)) =
    .ofTexts fun t => t ≠ [] ∧ ∀ x ∈ t, s.mem x.toNat = true := by
  ext c d k
  constructor
  · rintro ⟨n, hn, _, h⟩
    rw [power_set] at h
    obtain ⟨⟨t, ⟨hlen, hall⟩, h⟩, rfl⟩ := h
    refine ⟨⟨t, ⟨?_, hall⟩, h⟩, rfl⟩
    rintro rfl
    rw [List.length_nil] at hlen
    omega
  · rintro ⟨⟨t, ⟨hne, hall⟩, h⟩, rfl⟩
    have hpower : (meaning (.set s)).power t.length c d [] := by
      rw [power_set]
      exact ⟨⟨t, ⟨rfl, hall⟩, h⟩, rfl⟩
    exact ⟨t.length, List.length_pos_iff.2 hne, nofun, hpower⟩

/-! ## The built-in patterns -/

/-- The ASCII digits. -/
def digitChars : RangeSet := ⟨[(48, 57)]⟩

/-- The characters other than a slash. -/
def noSlash : RangeSet := ⟨[(0, 46), (48, 1114111)]⟩

/-- The characters that stay within a segment of a path. -/
def segmentChars : RangeSet := ⟨[(0, 34), (36, 46), (48, 62), (64, 1114111)]⟩

/-- The last digit of an escaped slash. -/
def slashDigit : RangeSet := ⟨[(70, 70), (102, 102)]⟩

theorem mem_digitChars (x : Char) : digitChars.mem x.toNat = true ↔ x.isDigit = true := by
  simp only [digitChars, RangeSet.mem, Char.isDigit, List.any_cons, List.any_nil, Bool.or_false,
    Bool.and_eq_true, decide_eq_true_eq, ge_iff_le, UInt32.le_iff_toNat_le]
  exact Iff.rfl

theorem toNat_lt (x : Char) : x.toNat < 1114112 := by
  rcases x.valid with h | h
  · exact Nat.lt_trans h (by decide)
  · exact h.2

theorem ne_iff_toNat {x y : Char} : x ≠ y ↔ x.toNat ≠ y.toNat := not_congr Char.toNat_inj.symm

theorem mem_noSlash (x : Char) : noSlash.mem x.toNat = true ↔ x ≠ '/' := by
  have := toNat_lt x
  rw [ne_iff_toNat, show '/'.toNat = 47 from rfl, RangeSet.mem_iff]
  simp only [noSlash, RangeSet.holds_cons, RangeSet.holds_nil, or_false]
  omega

theorem mem_segmentChars (x : Char) :
    segmentChars.mem x.toNat = true ↔ x ≠ '/' ∧ x ≠ '?' ∧ x ≠ '#' := by
  have := toNat_lt x
  rw [ne_iff_toNat, ne_iff_toNat, ne_iff_toNat, show '/'.toNat = 47 from rfl,
    show '?'.toNat = 63 from rfl, show '#'.toNat = 35 from rfl, RangeSet.mem_iff]
  simp only [segmentChars, RangeSet.holds_cons, RangeSet.holds_nil, or_false]
  omega

theorem mem_slashDigit (x : Char) : slashDigit.mem x.toNat = true ↔ x = 'F' ∨ x = 'f' := by
  rw [← Char.toNat_inj, ← Char.toNat_inj, show 'F'.toNat = 70 from rfl,
    show 'f'.toNat = 102 from rfl, RangeSet.mem_iff]
  simp only [slashDigit, RangeSet.holds_cons, RangeSet.holds_nil, or_false]
  omega

/-- One or more members of a set. -/
def plus (s : RangeSet) : Regex := .rep true 1 none (.set s)

/-- An owner and a name with an escaped slash between them. -/
def slugRegex : Regex :=
  .seq (.seq (.seq (plus noSlash) (.literal ['%', '2'])) (.set slashDigit)) (plus noSlash)

theorem complete?_digits : complete? Constraint.digits.regex.toList = some (plus digitChars) := rfl

theorem complete?_slug : complete? Constraint.slug.regex.toList = some slugRegex := rfl

theorem complete?_default :
    complete? Constraint.defaultPattern.toList = some (plus segmentChars) := rfl

theorem plain_plus {s : RangeSet} (hs : s.CharBounds) (hne : s.isEmpty = false) :
    (plus s).Plain := by
  refine ⟨hs, .inr ⟨rfl, .inr ⟨rfl, ?_⟩⟩⟩
  simp [takesSome, minLength, hne]

theorem charBounds_builtIn : digitChars.CharBounds ∧ noSlash.CharBounds ∧
    segmentChars.CharBounds ∧ slashDigit.CharBounds := by
  refine ⟨?_, ?_, ?_, ?_⟩ <;>
    · intro r hr
      simp only [digitChars, noSlash, segmentChars, slashDigit, List.mem_cons, List.not_mem_nil,
        or_false] at hr
      unfold Nat.isValidChar
      rcases hr with rfl | rfl | rfl | rfl <;> decide

theorem denotes_plus {s : RangeSet} (hs : s.CharBounds) (hne : s.isEmpty = false) :
    Denotes (plus s) (.ofTexts fun t => t ≠ [] ∧ ∀ x ∈ t, s.mem x.toNat = true) :=
  ⟨plain_plus hs hne, meaning_plus_set true s⟩

/-- The expression of slugs takes the texts of slugs. -/
theorem denotes_slugRegex : Denotes slugRegex (.ofTexts fun t =>
    ∃ owner name f, (f = 'F' ∨ f = 'f') ∧ owner ≠ [] ∧ name ≠ [] ∧ '/' ∉ owner ∧ '/' ∉ name ∧
      t = owner ++ '%' :: '2' :: f :: name) := by
  obtain ⟨_, hnoSlash, _, hslashDigit⟩ := charBounds_builtIn
  have hplus : ∀ t : List Char, (t ≠ [] ∧ ∀ x ∈ t, noSlash.mem x.toNat = true) ↔
      (t ≠ [] ∧ '/' ∉ t) := fun t => by
    simp only [mem_noSlash]
    refine and_congr_right fun _ => ⟨fun h hmem => h '/' hmem rfl, ?_⟩
    rintro h x hx rfl
    exact h hx
  have hside := plain_plus hnoSlash rfl
  refine ⟨⟨⟨⟨hside, trivial⟩, hslashDigit⟩, hside⟩, ?_⟩
  simp only [slugRegex, meaning_seq, Meaning.seq_assoc]
  rw [plus, meaning_plus_set, meaning_literal, meaning_set, Meaning.ofTexts_congr hplus,
    Meaning.seq_ofTexts, Meaning.seq_ofTexts, Meaning.seq_ofTexts]
  refine Meaning.ofTexts_congr fun t => ?_
  constructor
  · rintro ⟨owner, _, ⟨ho, hos⟩, ⟨_, _, rfl, ⟨_, name, ⟨f, hf, rfl⟩, ⟨hn, hns⟩, rfl⟩, rfl⟩, rfl⟩
    exact ⟨owner, name, f, (mem_slashDigit f).1 hf, ho, hn, hos, hns, rfl⟩
  · rintro ⟨owner, name, f, hf, ho, hn, hos, hns, rfl⟩
    exact ⟨owner, _, ⟨ho, hos⟩, ⟨_, _, rfl, ⟨[f], name, ⟨f, (mem_slashDigit f).2 hf, rfl⟩,
      ⟨hn, hns⟩, rfl⟩, rfl⟩, rfl⟩

/-- The pattern of a placeholder matches the texts that fit. -/
theorem exists_denotes_fits {cs : Constraints} (hcs : cs.BuiltIn) (resource field : String) :
    ∃ r, complete? (cs.pattern resource field).toList = some r ∧
      Denotes r (.ofTexts (cs.Fits resource field)) := by
  obtain ⟨hdigits, _, hsegment, _⟩ := charBounds_builtIn
  rw [cs.pattern_eq]
  cases hc : cs.nearest? resource field with
  | none =>
    refine ⟨_, complete?_default, ?_⟩
    rw [Meaning.ofTexts_congr fun t => (cs.fits_rest_iff hc t).trans
      (and_congr_right fun _ => forall₂_congr fun x _ => (mem_segmentChars x).symm)]
    exact denotes_plus hsegment rfl
  | some c =>
    rcases hcs.nearest? hc with rfl | rfl
    · refine ⟨_, complete?_digits, ?_⟩
      rw [Meaning.ofTexts_congr fun t => (cs.fits_digits_iff hc t).trans
        (and_congr_right fun _ => forall₂_congr fun x _ => (mem_digitChars x).symm)]
      exact denotes_plus hdigits rfl
    · refine ⟨_, complete?_slug, ?_⟩
      rw [Meaning.ofTexts_congr (cs.fits_slug_iff hc)]
      exact denotes_slugRegex

end Regex

end RequestBinding
