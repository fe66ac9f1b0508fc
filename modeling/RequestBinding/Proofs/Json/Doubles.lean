import RequestBinding.Proofs.Json.RoundTrip
import RequestBinding.Proofs.Number.Shortest

/-!
# The texts of doubles

The text of a double is a number literal, whose magnitude is not above the middle between the double
and the next one. So every double is legible: what is written is within range when it is read again.

## Main definitions

* `Json.Literal.Spells` - a literal spells a number

## Main statements

* `Json.exists_spells_positional`, `Json.exists_spells_scientific` - the digits of a number are
  spelled by a literal
* `Json.legible_of_proper` - the texts of doubles are read back
-/

namespace RequestBinding.Json

open Literal (fractionText exponentText)

/-! ## Digits -/

theorem digitsAfter_replicate (n k : Nat) :
    digitsAfter n (List.replicate k '0') = n * 10 ^ k := by
  induction k generalizing n with
  | zero => simp [digitsAfter]
  | succ k ih =>
    have hzero : digitValue '0' = 0 := rfl
    rw [List.replicate_succ, digitsAfter_cons, ih, hzero, pow_succ']
    ring

theorem isDigit_of_mem_replicate {k : Nat} {c : Char} (h : c ∈ List.replicate k '0') :
    c.isDigit = true := by
  rw [List.eq_of_mem_replicate h]
  rfl

/-- Sixteen digits have room. -/
theorem digitsValue_lt {ds : List Char} (hds : ∀ c ∈ ds, c.isDigit = true)
    (hlength : ds.length ≤ 16) : digitsValue ds < 2 ^ 64 := by
  have hlt := (digitsAfter_bounds 0 hds).2
  have hpow : 10 ^ ds.length ≤ 10 ^ 16 := Nat.pow_le_pow_right (by decide) hlength
  rw [zero_add, one_mul] at hlt
  exact (hlt.trans_le hpow).trans (by decide)

/-! ## Literals -/

/-- A literal spells a number in some way. Its digits have room, and its exponent is small. -/
structure Literal.Spells (l : Literal) (text : List Char) (number : ℚ) : Prop where
  proper : l.Proper
  magnitude : l.magnitude = text
  size : l.size = number
  room : digitsValue l.whole < 2 ^ 64
  exponent : ∀ e ∈ l.exponent, e.sign = ['-'] ∨ digitsValue e.digits < 2 ^ 31

section Spells

variable (negative : Bool) {n : Nat} {e : Int}

/-- Digits around a point spell a number. -/
theorem exists_spells_point (whole fraction : List Char) {text : List Char} {number : ℚ}
    (hwhole : IsDigits whole) (hzero : whole.head? = some '0' → whole = ['0'])
    (hlength : whole.length ≤ 16) (hfraction : IsDigits fraction)
    (htext : whole ++ '.' :: fraction = text)
    (hnumber : (digitsAfter 0 (whole ++ fraction) : ℚ) * 10 ^ (-(fraction.length : Int)) = number) :
    ∃ l : Literal, l.negative = negative ∧ l.Spells text number := by
  refine ⟨⟨negative, whole, fraction, none⟩, rfl, ⟨hwhole, hzero, hfraction.2, nofun⟩, ?_, ?_,
    digitsValue_lt hwhole.2 hlength, nofun⟩
  · simp [Literal.magnitude, fractionText, exponentText, hfraction.1, ← htext]
  · simp [Literal.size, Literal.digits, ← hnumber]

section Layouts

variable {ds : List Char} (hdigits : IsDigits ds)
include hdigits

/-- Behind the point, zeros may stand before the digits. -/
theorem exists_spells_zeros_before {k : Nat} {number : ℚ}
    (hnumber : (digitsAfter 0 ds : ℚ) * 10 ^ (-(k + ds.length : ℕ) : Int) = number) :
    ∃ l : Literal, l.negative = negative ∧
      l.Spells ('0' :: '.' :: (List.replicate k '0' ++ ds)) number := by
  have hnone : digitsAfter 0 ['0'] = 0 := rfl
  refine exists_spells_point negative ['0'] (List.replicate k '0' ++ ds)
    ⟨by simp, by simp⟩ (fun _ => rfl) (by simp)
    ⟨by simp [hdigits.1], fun c hc =>
      (List.mem_append.1 hc).elim isDigit_of_mem_replicate (hdigits.2 c)⟩ rfl ?_
  rw [digitsAfter_append, hnone, digitsAfter_append, digitsAfter_replicate, Nat.zero_mul,
    List.length_append, List.length_replicate, hnumber]

/-- Before the point, zeros may stand behind the digits, unless these are a zero themselves. -/
theorem exists_spells_zeros_behind {k : Nat} (hzero : ds.head? = some '0' → ds = ['0'] ∧ k = 0)
    (hlength : ds.length + k ≤ 16) {number : ℚ}
    (hnumber : (digitsAfter 0 ds : ℚ) * 10 ^ k = number) :
    ∃ l : Literal, l.negative = negative ∧
      l.Spells ((ds ++ List.replicate k '0') ++ '.' :: ['0']) number := by
  refine exists_spells_point negative _ ['0']
    ⟨by simp [hdigits.1], fun c hc =>
      (List.mem_append.1 hc).elim (hdigits.2 c) isDigit_of_mem_replicate⟩ ?_ ?_
    ⟨by simp, by simp⟩ rfl ?_
  · intro h
    rw [List.head?_append_of_ne_nil _ hdigits.1] at h
    obtain ⟨hds, rfl⟩ := hzero h
    rw [hds]
    rfl
  · rw [List.length_append, List.length_replicate]
    exact hlength
  · have hlast : ∀ n, digitsAfter n ['0'] = n * 10 := fun _ => rfl
    rw [digitsAfter_append, digitsAfter_append, digitsAfter_replicate, hlast, ← hnumber]
    push_cast
    simp

/-- The point may stand among the digits. -/
theorem exists_spells_among {k : Nat} (hk : k + 1 < ds.length) (hshort : k < 16)
    (hzero : ds.head? = some '0' → ds = ['0']) {number : ℚ}
    (hnumber : (digitsAfter 0 ds : ℚ) * 10 ^ (-(ds.length - (k + 1) : ℕ) : Int) = number) :
    ∃ l : Literal, l.negative = negative ∧
      l.Spells (ds.take (k + 1) ++ '.' :: ds.drop (k + 1)) number := by
  refine exists_spells_point negative _ _
    ⟨by simp [hdigits.1], fun c hc => hdigits.2 c (List.mem_of_mem_take hc)⟩ ?_ ?_
    ⟨by simp; omega, fun c hc => hdigits.2 c (List.mem_of_mem_drop hc)⟩ rfl ?_
  · intro h
    rw [List.head?_take, if_neg (Nat.succ_ne_zero _)] at h
    rw [hzero h] at hk
    simp at hk
  · rw [List.length_take]
    omega
  · rw [List.take_append_drop, List.length_drop, hnumber]

end Layouts

/-- Digits with the point somewhere among them or around them spell their number. -/
theorem exists_spells_positional (hzero : n = 0 → e = 0)
    (hexponent : e + (Nat.toDigits 10 n).length - 1 ≤ 15) :
    ∃ l : Literal, l.negative = negative ∧
      l.Spells (Binary64.positional (Nat.toDigits 10 n) (e + (Nat.toDigits 10 n).length - 1))
        (n * 10 ^ e) := by
  have hdigits := isDigits_toDigits n
  have hvalue : digitsAfter 0 (Nat.toDigits 10 n) = n := digitsValue_toDigits n
  have hhead : (Nat.toDigits 10 n).head? = some '0' → Nat.toDigits 10 n = ['0'] ∧ e = 0 := by
    intro h
    rcases Nat.eq_zero_or_pos n with h0 | hpos
    · exact ⟨toDigits_eq_zero n h, hzero h0⟩
    · exact absurd h (head?_toDigits_ne hpos)
  generalize Nat.toDigits 10 n = ds at *
  rw [Binary64.positional]
  split
  · refine exists_spells_zeros_before negative hdigits ?_
    rw [hvalue]
    congr 2
    omega
  · dsimp only
    split
    · generalize hk : (e + ds.length - 1).toNat + 1 - ds.length = k
      obtain rfl : e = k := by omega
      refine exists_spells_zeros_behind negative hdigits (fun h => ?_) (by omega) ?_
      · exact (hhead h).imp_right Int.natCast_eq_zero.1
      · rw [hvalue, zpow_natCast]
    · refine exists_spells_among negative hdigits (by omega) (by omega) (fun h => (hhead h).1) ?_
      rw [hvalue]
      congr 2
      omega

/-- The exponent of a number in scientific form. -/
def exponentOf (exponent : Int) : Exponent :=
  ⟨'e', [if exponent < 0 then '-' else '+'], Nat.toDigits 10 exponent.natAbs⟩

theorem proper_exponentOf (exponent : Int) : (exponentOf exponent).Proper := by
  refine ⟨.inl rfl, ?_, isDigits_toDigits _⟩
  rw [exponentOf]
  split
  · exact .inr (.inr rfl)
  · exact .inr (.inl rfl)

theorem value_exponentOf (exponent : Int) : (exponentOf exponent).value = exponent := by
  have hvalue : digitsValue (Nat.toDigits 10 exponent.natAbs) = exponent.natAbs :=
    digitsValue_toDigits _
  rw [exponentOf, Exponent.value, hvalue]
  by_cases hneg : exponent < 0
  · simp only [if_pos hneg, if_true]
    omega
  · simp only [if_neg hneg, List.cons.injEq, Char.reduceEq, false_and, if_false]
    omega

/-- Digits with the point behind the first one, and an exponent, spell their number. -/
theorem exists_spells_scientific (hexponent : e + (Nat.toDigits 10 n).length - 1 < 2 ^ 31) :
    ∃ l : Literal, l.negative = negative ∧
      l.Spells (Binary64.scientific (Nat.toDigits 10 n) (e + (Nat.toDigits 10 n).length - 1))
        (n * 10 ^ e) := by
  have hdigits := isDigits_toDigits n
  have hvalue : digitsAfter 0 (Nat.toDigits 10 n) = n := digitsValue_toDigits n
  generalize Nat.toDigits 10 n = ds at *
  obtain ⟨d, more, rfl⟩ := List.exists_cons_of_ne_nil hdigits.1
  generalize hfirst : e + ((d :: more).length : Int) - 1 = exponent at *
  obtain ⟨hd, hmore⟩ := List.forall_mem_cons.1 hdigits.2
  refine ⟨⟨negative, [d], more, some (exponentOf exponent)⟩, rfl, ⟨⟨by simp, by simpa using hd⟩,
    fun h => by rw [Option.some.inj h], hmore, ?_⟩, ?_, ?_, ?_, ?_⟩
  · rintro _ ⟨⟩
    exact proper_exponentOf exponent
  · cases more with
    | nil => rfl
    | cons d' more => rfl
  · rw [Literal.size, Literal.digits, Option.elim_some, value_exponentOf, List.singleton_append,
      hvalue, mul_assoc, ← zpow_add₀ (by norm_num)]
    rw [List.length_cons] at hfirst
    dsimp only
    congr 2
    omega
  · exact digitsValue_lt (by simpa using hd) (by simp)
  · rintro _ ⟨⟩
    have hdigitsValue : digitsValue (exponentOf exponent).digits = exponent.natAbs :=
      digitsValue_toDigits _
    rw [hdigitsValue]
    by_cases hneg : exponent < 0
    · simp [exponentOf, hneg]
    · right
      omega

end Spells

/-! ## Doubles -/

/-- The text of the magnitude of a double. -/
def doubleChars (x : Binary64) : List Char :=
  if x.isZero then ['0', '.', '0']
  else if -5 ≤ x.digits.2 && x.digits.2 ≤ 15 then Binary64.positional x.digits.1 x.digits.2
  else Binary64.scientific x.digits.1 x.digits.2

theorem renderChars_eq (x : Binary64) :
    x.renderChars = (if x.negative then ['-'] else []) ++ doubleChars x := by
  rw [Binary64.renderChars, ← doubleChars]
  cases x.negative <;> rfl

/-- A literal for the magnitude of a double makes its text legible. -/
theorem legible_of_spells {x : Binary64} {l : Literal} {number : ℚ}
    (hnegative : l.negative = x.negative) (h : l.Spells (doubleChars x) number)
    (hnumber : number ≤ Binary64.safe) : Legible x := by
  refine ⟨l, h.proper, Literal.fits_of_size_le_safe h.proper h.room h.exponent ?_, ?_⟩
  · rw [h.size]
    exact hnumber
  · rw [Literal.text, h.magnitude, hnegative, renderChars_eq]

/-- The greatest doubles are legible, too. -/
theorem any_number_greatest : ∀ i < 16, ∀ negative : Bool,
    (number negative (doubleChars ⟨negative, 2 ^ 53 - 1 - i, Binary64.maxExponent⟩)).any
      (·.2.isEmpty) = true := by
  decide +kernel

theorem legible_of_greatest {x : Binary64} (hx : x.Proper)
    (hexponent : x.exponent = Binary64.maxExponent) (hmantissa : 2 ^ 53 - 16 ≤ x.mantissa) :
    Legible x := by
  obtain ⟨negative, m, e⟩ := x
  obtain rfl : e = Binary64.maxExponent := hexponent
  have hm : m = 2 ^ 53 - 1 - (2 ^ 53 - 1 - m) := by
    have := hx.1
    dsimp only at this hmantissa
    omega
  have hany := any_number_greatest (2 ^ 53 - 1 - m) (by dsimp only at hmantissa; omega) negative
  rw [← hm] at hany
  obtain ⟨⟨v, rest⟩, hnumber, hrest⟩ := (Option.any_eq_true _ _).1 hany
  obtain ⟨-, l, hnegative, hproper, hfits, htext⟩ := exists_literal_of_number hnumber
  have hnil : rest = [] := List.isEmpty_iff.1 hrest
  rw [hnil, List.append_nil] at htext
  refine ⟨l, hproper, hfits, ?_⟩
  rw [Literal.text, renderChars_eq, htext, hnegative]

/-- The exponent of a number within range, when one digit is before the point. -/
theorem exponent_le_of_le_safe {n : Nat} {e : Int} (hn : n ≠ 0)
    (h : (n : ℚ) * 10 ^ e ≤ Binary64.safe) : e + (Nat.toDigits 10 n).length - 1 ≤ 308 := by
  have hlt := h.trans_lt Binary64.safe_lt
  rw [← zpow_natCast] at hlt
  have hone : (1 : ℚ) ≤ n := mod_cast Nat.one_le_iff_ne_zero.2 hn
  have he : e < 309 := by
    by_contra! hge
    have hle : (10 : ℚ) ^ ((309 : ℕ) : Int) ≤ 10 ^ e := zpow_le_zpow_right₀ (by norm_num) hge
    exact absurd hlt (not_lt.2 (hle.trans (le_mul_of_one_le_left (by positivity) hone)))
  obtain ⟨k, hk⟩ := Int.eq_ofNat_of_zero_le (a := (309 : ℕ) - e) (by omega)
  have hpow : (n : ℚ) < 10 ^ k := by
    rw [← lt_div_iff₀ (by positivity), ← zpow_sub₀ (by norm_num), hk] at hlt
    exact_mod_cast hlt
  have hlength := (Nat.length_toDigits_le_iff (b := 10) (n := n) (k := k) (by decide)
    (by omega)).2 (mod_cast hpow)
  omega

theorem exists_spells_zero (negative : Bool) :
    ∃ l : Literal, l.negative = negative ∧ l.Spells ['0', '.', '0'] 0 := by
  refine exists_spells_point negative ['0'] ['0'] ⟨by simp, by simp⟩ (fun _ => rfl) (by simp)
    ⟨by simp, by simp⟩ rfl ?_
  simp [digitsAfter, digitValue]

/-- The text of a double spells a number that is not above the middle between the double and the
next one. -/
theorem exists_spells_doubleChars {x : Binary64} (hsafe : x.above ≤ Binary64.safe) :
    ∃ (l : Literal) (number : ℚ), l.negative = x.negative ∧ l.Spells (doubleChars x) number ∧
      number ≤ Binary64.safe := by
  obtain ⟨n, e, hdigits, hle, hzero⟩ := x.digits_spec
  have hnumber := hle.trans hsafe
  rw [doubleChars]
  split
  · obtain ⟨l, hnegative, hl⟩ := exists_spells_zero x.negative
    exact ⟨l, 0, hnegative, hl, le_trans (by positivity) Binary64.two_pow_le_safe⟩
  · rw [hdigits]
    split
    · next hpositional =>
      simp only [Bool.and_eq_true, decide_eq_true_eq] at hpositional
      obtain ⟨l, hnegative, hl⟩ := exists_spells_positional x.negative hzero hpositional.2
      exact ⟨l, _, hnegative, hl, hnumber⟩
    · next hscientific =>
      have hn : n ≠ 0 := by
        rintro rfl
        rw [hzero rfl] at hscientific
        exact hscientific (by decide)
      have hexponent : e + (Nat.toDigits 10 n).length - 1 < 2 ^ 31 :=
        (exponent_le_of_le_safe hn hnumber).trans_lt (by decide)
      obtain ⟨l, hnegative, hl⟩ := exists_spells_scientific x.negative hexponent
      exact ⟨l, _, hnegative, hl, hnumber⟩

/-- The text of a double is legible. -/
theorem legible_of_proper {x : Binary64} (hx : x.Proper) : Legible x := by
  rcases hx.le_safe with hsafe | ⟨hexponent, hmantissa⟩
  · obtain ⟨l, number, hnegative, hl, hnumber⟩ := exists_spells_doubleChars hsafe
    exact legible_of_spells hnegative hl hnumber
  · exact legible_of_greatest hx hexponent hmantissa

end RequestBinding.Json
