import RequestBinding.Proofs.Json.Numbers

/-!
# Numbers within range

A number literal is within the range of doubles if its magnitude is clearly below that of the
greatest double, and not if it is clearly above. What is dropped from the digits does not change
the magnitude by more than a factor of two. An exponent has to have less than 32 bits for that, since
a greater one decides by its sign alone.

## Main definitions

* `Json.Literal.size` - the magnitude of a literal
* `Json.Literal.SmallExponent` - literals whose exponent counts with its value

## Main statements

* `Json.Literal.IsDecimal.bounds` - the significand and its power of ten are close to the digits
* `Json.Literal.fits_of_size_le`, `Json.Literal.fits_of_size_le_safe` - literals below the greatest
  double fit
* `Json.Literal.Fits.size_lt` - literals beyond it do not
-/

namespace RequestBinding.Json

/-- The number that digits make behind a number. -/
def digitsAfter (n : Nat) (ds : List Char) : Nat := ds.foldl (fun n c => n * 10 + digitValue c) n

theorem digitValue_lt {c : Char} (h : c.isDigit = true) : digitValue c < 10 := by
  simp only [Char.isDigit, Bool.and_eq_true, decide_eq_true_eq, UInt32.le_iff_toNat_le] at h
  have hmax : c.toNat ≤ 57 := h.2
  have hvalue : digitValue c = c.toNat - 48 := rfl
  omega

theorem digitsAfter_cons (n : Nat) (c : Char) (ds : List Char) :
    digitsAfter n (c :: ds) = digitsAfter (n * 10 + digitValue c) ds := List.foldl_cons ..

theorem digitsAfter_append (n : Nat) (ds ds' : List Char) :
    digitsAfter n (ds ++ ds') = digitsAfter (digitsAfter n ds) ds' := List.foldl_append

/-- Digits behind a number make one up to the next number. -/
theorem digitsAfter_bounds (n : Nat) {ds : List Char} (hds : ∀ c ∈ ds, c.isDigit = true) :
    n * 10 ^ ds.length ≤ digitsAfter n ds ∧ digitsAfter n ds < (n + 1) * 10 ^ ds.length := by
  induction ds generalizing n with
  | nil => simp [digitsAfter]
  | cons c ds ih =>
    have hc := digitValue_lt (hds c List.mem_cons_self)
    obtain ⟨hmin, hmax⟩ := ih (n * 10 + digitValue c) fun d hd => hds d (List.mem_cons_of_mem c hd)
    rw [digitsAfter_cons, List.length_cons, pow_succ', ← mul_assoc, ← mul_assoc]
    constructor
    · exact (Nat.mul_le_mul_right _ (by omega)).trans hmin
    · exact hmax.trans_le (Nat.mul_le_mul_right _ (by omega))

theorem digitsValue_append (ds ds' : List Char) :
    digitsValue (ds ++ ds') = digitsAfter (digitsValue ds) ds' := List.foldl_append

namespace Literal.Keeps

variable {before ds kept dropped : List Char}

/-- Digits are only dropped behind a number that is not zero. -/
theorem pos (h : Keeps before ds kept dropped) (hds : ∀ c ∈ ds, c.isDigit = true)
    (hne : dropped ≠ []) : 0 < digitsValue (before ++ kept) := by
  obtain ⟨c, more, rfl⟩ := List.exists_cons_of_ne_nil hne
  have hfull := h.full c rfl
  have hc : digitValue c < 10 := by
    refine digitValue_lt (hds c ?_)
    rw [h.eq_append]
    exact List.mem_append_right _ List.mem_cons_self
  rw [← List.append_assoc, digitsValue_concat] at hfull
  omega

/-- No digit is dropped if there is room for all of them. -/
theorem eq_nil (h : Keeps before ds kept dropped) (hroom : digitsValue (before ++ ds) < 2 ^ 64) :
    dropped = [] := by
  cases dropped with
  | nil => rfl
  | cons c more =>
    have hle := digitsValue_le_append (before ++ (kept ++ [c])) more
    have hsplit : before ++ (kept ++ [c]) ++ more = before ++ ds := by
      rw [h.eq_append, List.append_assoc, ← List.append_cons]
    rw [hsplit] at hle
    exact absurd hroom (not_lt.2 ((h.full c rfl).trans hle))

end Literal.Keeps

theorem digitsAfter_cast_bounds (n : Nat) {ds : List Char} (hds : ∀ c ∈ ds, c.isDigit = true)
    (e : Int) : (n : ℚ) * 10 ^ ((ds.length : Int) + e) ≤ digitsAfter n ds * 10 ^ e ∧
      (digitsAfter n ds : ℚ) * 10 ^ e ≤ (n + 1) * 10 ^ ((ds.length : Int) + e) := by
  obtain ⟨hmin, hmax⟩ := digitsAfter_bounds n hds
  have hmin' : (n : ℚ) * 10 ^ ds.length ≤ digitsAfter n ds := mod_cast hmin
  have hmax' : (digitsAfter n ds : ℚ) ≤ (n + 1) * 10 ^ ds.length := mod_cast hmax.le
  rw [zpow_add₀ (by norm_num), zpow_natCast, ← mul_assoc, ← mul_assoc]
  exact ⟨mul_le_mul_of_nonneg_right hmin' (by positivity),
    mul_le_mul_of_nonneg_right hmax' (by positivity)⟩

/-- Magnitudes between a number and the next one are close. -/
theorem le_two_mul {p : Nat} (hp : 0 < p) {u a b : ℚ} (hu : 0 ≤ u) (ha : a ≤ (p + 1) * u)
    (hb : p * u ≤ b) : a ≤ 2 * b := by
  have hp' : (1 : ℚ) ≤ p := mod_cast hp
  calc a ≤ (p + 1) * u := ha
    _ ≤ (2 * p) * u := by
      gcongr
      linarith
    _ = 2 * (p * u) := mul_assoc 2 _ u
    _ ≤ 2 * b := by gcongr

/-- Whether digits are dropped behind a number, before the point or behind it, hardly matters. -/
theorem bounds_of_dropped {n : Nat} {dropped taken left : List Char}
    (hdropped : ∀ c ∈ dropped, c.isDigit = true) (htaken : ∀ c ∈ taken, c.isDigit = true)
    (hleft : ∀ c ∈ left, c.isDigit = true) (hn : dropped ≠ [] → 0 < n)
    (hm : left ≠ [] → 0 < digitsAfter n taken) {a b : ℚ}
    (ha : a = digitsAfter n taken * 10 ^ ((dropped.length : Int) - taken.length))
    (hb : b = digitsAfter n (dropped ++ (taken ++ left)) *
      10 ^ (-((taken ++ left).length : Int))) : a ≤ 2 * b ∧ b ≤ 2 * a := by
  have hpow : ∀ e : Int, (0 : ℚ) ≤ 10 ^ e := fun e => by positivity
  by_cases hnil : dropped = []
  · rw [hnil, List.nil_append, digitsAfter_append] at hb
    rw [hnil, List.length_nil, Nat.cast_zero, zero_sub] at ha
    by_cases hnil' : left = []
    · rw [hnil', List.append_nil] at hb
      have hab : a = b := ha.trans hb.symm
      have hnonneg : 0 ≤ a := by
        rw [ha]
        positivity
      rw [← hab]
      exact ⟨le_mul_of_one_le_left hnonneg one_le_two, le_mul_of_one_le_left hnonneg one_le_two⟩
    · obtain ⟨hmin, hmax⟩ := digitsAfter_cast_bounds (digitsAfter n taken) hleft
        (-((taken ++ left).length : Int))
      have hlength : (left.length : Int) + -((taken ++ left).length : Int) = -taken.length := by
        rw [List.length_append]
        omega
      rw [hlength, ← hb] at hmin hmax
      have hpos := hm hnil'
      refine ⟨le_two_mul hpos (hpow _) ?_ hmin, le_two_mul hpos (hpow _) hmax ha.ge⟩
      rw [ha]
      exact mul_le_mul_of_nonneg_right (le_add_of_nonneg_right zero_le_one) (hpow _)
  · have hpos := hn hnil
    obtain ⟨hmin, hmax⟩ := digitsAfter_cast_bounds n htaken ((dropped.length : Int) - taken.length)
    have hlength : (taken.length : Int) + (dropped.length - taken.length) = dropped.length := by
      omega
    rw [hlength, ← ha] at hmin hmax
    have hall : ∀ c ∈ dropped ++ (taken ++ left), c.isDigit = true := by
      simpa [or_imp, forall_and] using ⟨hdropped, htaken, hleft⟩
    obtain ⟨hmin', hmax'⟩ := digitsAfter_cast_bounds n hall (-((taken ++ left).length : Int))
    have hlength' : ((dropped ++ (taken ++ left)).length : Int) + -((taken ++ left).length : Int) =
        dropped.length := by
      rw [List.length_append]
      omega
    rw [hlength', ← hb] at hmin' hmax'
    exact ⟨le_two_mul hpos (hpow _) hmax hmin', le_two_mul hpos (hpow _) hmax' hmin⟩

namespace Literal

/-- The magnitude of the digits of a literal. -/
def digits (x : Literal) : ℚ :=
  digitsAfter 0 (x.whole ++ x.fraction) * 10 ^ (-(x.fraction.length : Int))

/-- The magnitude of a literal. -/
def size (x : Literal) : ℚ := x.digits * 10 ^ x.exponent.elim 0 Exponent.value

theorem IsDecimal.lt {x : Literal} {m : Nat} {power : Int} (h : x.IsDecimal m power) :
    m < 2 ^ 64 := by
  obtain ⟨_, _, _, _, _, hfraction, rfl, _⟩ := h
  exact hfraction.room

/-- The significand and its power of ten are close to the digits, whatever has been dropped. -/
theorem IsDecimal.bounds {x : Literal} (hx : x.Proper) {m : Nat} {power : Int}
    (h : x.IsDecimal m power) :
    (m : ℚ) * 10 ^ power ≤ 2 * x.digits ∧ x.digits ≤ 2 * (m * 10 ^ power) := by
  obtain ⟨whole, dropped, fraction, dropped', hwhole, hfraction, rfl, rfl⟩ := h
  have hwholeDigits := hx.whole.2
  have hfractionDigits := hx.fraction
  have hpos := hwhole.pos hwholeDigits
  have hpos' := hfraction.pos hfractionDigits
  rw [digitsValue_append] at hpos' ⊢
  rw [hwhole.eq_append, List.forall_mem_append] at hwholeDigits
  rw [hfraction.eq_append, List.forall_mem_append] at hfractionDigits
  refine bounds_of_dropped hwholeDigits.2 hfractionDigits.1 hfractionDigits.2 hpos hpos' rfl ?_
  rw [digits, hwhole.eq_append, hfraction.eq_append, List.append_assoc, digitsAfter_append]
  rfl

/-- With an exponent, they are as close to the literal. -/
theorem IsDecimal.shifted_bounds {x : Literal} (hx : x.Proper) {m : Nat} {power : Int}
    (h : x.IsDecimal m power) (written : Int) :
    (m : ℚ) * 10 ^ (power + written) ≤ 2 * (x.digits * 10 ^ written) ∧
      x.digits * 10 ^ written ≤ 2 * (m * 10 ^ (power + written)) := by
  obtain ⟨hmin, hmax⟩ := h.bounds hx
  have hpow : (0 : ℚ) ≤ 10 ^ written := by positivity
  rw [zpow_add₀ (by norm_num), ← mul_assoc, ← mul_assoc, ← mul_assoc]
  exact ⟨mul_le_mul_of_nonneg_right hmin hpow, mul_le_mul_of_nonneg_right hmax hpow⟩

theorem exists_isDecimal {x : Literal} (hx : x.Proper) : ∃ m power, x.IsDecimal m power :=
  ⟨_, _, hx.isDecimal_iff.2 ⟨rfl, rfl⟩⟩

/-- The exponents that may count with their value: those of less than 32 bits. -/
def SmallExponent (x : Literal) : Prop := ∀ e ∈ x.exponent, digitsValue e.digits < 2 ^ 31

theorem inRange_iff {x : Literal} (hsmall : x.SmallExponent) (m : Nat) (power : Int) :
    InRange m power x.exponent ↔
      Binary64.InRange m (power + x.exponent.elim 0 Exponent.value) := by
  cases hexponent : x.exponent with
  | none => rw [InRange, Option.elim_none, add_zero]
  | some e => rw [InRange, if_pos (hsmall e hexponent), Option.elim_some]

/-- A literal fits if its significand does, with all powers of ten. -/
theorem IsDecimal.fits {x : Literal} {m : Nat} {power : Int} (h : x.IsDecimal m power)
    (hexponent : ∀ e ∈ x.exponent, e.sign = ['-'] ∨ digitsValue e.digits < 2 ^ 31)
    (hle : (m : ℚ) * 10 ^ (power + x.exponent.elim 0 Exponent.value) ≤ Binary64.safe) :
    x.Fits := by
  refine ⟨m, power, h, ?_⟩
  cases hexp : x.exponent with
  | none =>
    rw [hexp, Option.elim_none, add_zero] at hle
    exact Binary64.inRange_of_le h.lt hle
  | some e =>
    rw [hexp, Option.elim_some] at hle
    rw [InRange]
    split
    · exact Binary64.inRange_of_le h.lt hle
    · next hmax => exact .inr ((hexponent e hexp).resolve_right hmax)

/-- Literals that are clearly below the greatest double fit. -/
theorem fits_of_size_le {x : Literal} (hx : x.Proper) (hsmall : x.SmallExponent)
    (h : x.size ≤ 2 ^ (1022 : Int)) : x.Fits := by
  obtain ⟨m, power, hdecimal⟩ := exists_isDecimal hx
  refine hdecimal.fits (fun e he => .inr (hsmall e he)) ?_
  calc (m : ℚ) * 10 ^ (power + x.exponent.elim 0 Exponent.value)
      ≤ 2 * x.size := (hdecimal.shifted_bounds hx _).1
    _ ≤ 2 * 2 ^ (1022 : Int) := by gcongr
    _ = 2 ^ (1023 : Int) := (zpow_one_add₀ two_ne_zero 1022).symm
    _ ≤ Binary64.safe := Binary64.two_pow_le_safe

/-- What has no room is dropped, which does not make a literal greater if there is room for all
whole digits. -/
theorem IsDecimal.le_digits {x : Literal} (hx : x.Proper) (hroom : digitsValue x.whole < 2 ^ 64)
    {m : Nat} {power : Int} (h : x.IsDecimal m power) : (m : ℚ) * 10 ^ power ≤ x.digits := by
  obtain ⟨whole, dropped, fraction, dropped', hwhole, hfraction, rfl, rfl⟩ := h
  obtain rfl := hwhole.eq_nil hroom
  have hdropped : ∀ c ∈ dropped', c.isDigit = true := by
    have hdigits := hx.fraction
    rw [hfraction.eq_append, List.forall_mem_append] at hdigits
    exact hdigits.2
  have hlength : ((([] : List Char).length : Int) - fraction.length) =
      dropped'.length + -((fraction ++ dropped').length : Int) := by
    rw [List.length_append, List.length_nil]
    omega
  have hvalue : digitsAfter 0 (whole ++ (fraction ++ dropped')) =
      digitsAfter (digitsValue (whole ++ fraction)) dropped' := by
    rw [← List.append_assoc, digitsAfter_append]
    rfl
  rw [digits, hwhole.eq_append, hfraction.eq_append, List.append_nil, hlength, hvalue]
  exact (digitsAfter_cast_bounds _ hdropped _).1

/-- Literals below the greatest double fit, up to the errors of rounding. -/
theorem fits_of_size_le_safe {x : Literal} (hx : x.Proper) (hroom : digitsValue x.whole < 2 ^ 64)
    (hexponent : ∀ e ∈ x.exponent, e.sign = ['-'] ∨ digitsValue e.digits < 2 ^ 31)
    (h : x.size ≤ Binary64.safe) : x.Fits := by
  obtain ⟨m, power, hdecimal⟩ := exists_isDecimal hx
  refine hdecimal.fits hexponent (le_trans ?_ h)
  rw [size, zpow_add₀ (by norm_num), ← mul_assoc]
  exact mul_le_mul_of_nonneg_right (hdecimal.le_digits hx hroom) (by positivity)

/-- Literals that fit are not clearly above the greatest double. -/
theorem Fits.size_lt {x : Literal} (h : x.Fits) (hx : x.Proper) (hsmall : x.SmallExponent) :
    x.size < 2 ^ (1027 : Int) := by
  obtain ⟨m, power, hdecimal, hrange⟩ := h
  calc x.size ≤ 2 * (m * 10 ^ (power + x.exponent.elim 0 Exponent.value)) :=
        (hdecimal.shifted_bounds hx _).2
    _ < 2 * (4 * Binary64.limit) :=
        mul_lt_mul_of_pos_left (((inRange_iff hsmall m power).1 hrange).lt hdecimal.lt) two_pos
    _ < 2 * (4 * 2 ^ (1024 : Int)) := by
        gcongr
        exact Binary64.limit_lt
    _ = 2 ^ (3 : Int) * 2 ^ (1024 : Int) := by ring
    _ = 2 ^ (1027 : Int) := (zpow_add₀ two_ne_zero 3 1024).symm

end Literal

end RequestBinding.Json
