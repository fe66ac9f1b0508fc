import RequestBinding.Proofs.Number.Rounding

/-!
# The range of decimal numbers

A decimal number has a double exactly if it is within range. Both its parts are rounded, so that
its magnitude alone does not decide at the border; but it is within range if it is clearly below the
greatest double, and not if it is clearly above.

## Main definitions

* `Binary64.safe` - magnitudes that are within range however they are rounded

## Main statements

* `Binary64.powerOfTen_bounds` - the doubles of powers of ten
* `Binary64.exists_ofDecimal_iff` - the decimal numbers that have a double
* `Binary64.inRange_of_le`, `Binary64.InRange.lt` - magnitudes of numbers within range
-/

namespace RequestBinding.Binary64

/-! ## Products and quotients -/

theorem toRatio_pos (x : Binary64) : 0 < x.toRatio.2 := by
  rw [toRatio]
  split
  · exact Nat.one_pos
  · exact Nat.pow_pos Nat.two_pos

theorem toRatio_eq (x : Binary64) : (x.toRatio.1 : ℚ) / x.toRatio.2 = x.size := by
  obtain ⟨negative, m, e⟩ := x
  rw [toRatio, size]
  split
  · next h =>
    lift e to ℕ using h
    simp
  · next h =>
    rw [zpow_eq_inv 2 h]
    simp [div_eq_mul_inv]

theorem rounds_scale? (x y : Binary64) : Rounds (x.size * y.size) (x.scale? y) := by
  have h := rounds_ofRatio x.negative (x.toRatio.1 * y.toRatio.1)
    (Nat.mul_pos x.toRatio_pos y.toRatio_pos)
  rw [Nat.cast_mul, Nat.cast_mul, mul_div_mul_comm, toRatio_eq, toRatio_eq] at h
  exact h

theorem rounds_divide? (x : Binary64) {y : Binary64} (hy : 0 < y.size) :
    Rounds (x.size / y.size) (x.divide? y) := by
  have hnum : 0 < y.toRatio.1 := by
    rw [← toRatio_eq] at hy
    by_contra hzero
    rw [Nat.eq_zero_of_not_pos hzero, Nat.cast_zero, zero_div] at hy
    exact lt_irrefl 0 hy
  have h := rounds_ofRatio x.negative (x.toRatio.1 * y.toRatio.2) (Nat.mul_pos x.toRatio_pos hnum)
  rw [Nat.cast_mul, Nat.cast_mul, mul_div_mul_comm, toRatio_eq, ← inv_div (y.toRatio.1 : ℚ),
    toRatio_eq, ← div_eq_mul_inv] at h
  exact h

/-- A double of no magnitude is a zero. -/
theorem isZero_iff (x : Binary64) : x.isZero = true ↔ x.size = 0 := by
  have hpow : (2 : ℚ) ^ x.exponent ≠ 0 := by positivity
  rw [isZero, size, beq_iff_eq, mul_eq_zero, or_iff_left hpow, Nat.cast_eq_zero]

/-- Nothing is left of a magnitude below the least double. -/
theorem isZero_of_lt {x : Binary64} (he : minExponent ≤ x.exponent)
    (h : x.size < 2 ^ minExponent) : x.isZero = true := by
  rw [isZero, beq_iff_eq]
  by_contra hne
  have hone : (1 : ℚ) ≤ x.mantissa := mod_cast Nat.one_le_iff_ne_zero.2 hne
  have hpow : (2 : ℚ) ^ minExponent ≤ 2 ^ x.exponent := zpow_le_zpow_right₀ one_le_two he
  have hle : (2 : ℚ) ^ minExponent ≤ x.size := by
    rw [size]
    calc (2 : ℚ) ^ minExponent ≤ 2 ^ x.exponent := hpow
      _ ≤ x.mantissa * 2 ^ x.exponent := le_mul_of_one_le_left (by positivity) hone
  exact absurd h (not_lt.2 hle)

/-! ## Powers of ten -/

theorem ten_pow_lt_limit {k : Nat} (hk : k ≤ 308) : (10 : ℚ) ^ k < limit := by
  have hlt : 10 ^ 308 + 2 ^ 970 < 2 ^ 1024 := by
    decide +kernel
  refine (pow_le_pow_right₀ (by norm_num) hk).trans_lt ?_
  rw [limit, lt_sub_iff_add_lt]
  exact_mod_cast hlt

theorem ofRatio_powerOfTen {k : Nat} (hk : k ≤ 308) :
    ofRatio false (Nat.pow 10 k) 1 = some (powerOfTen k) := by
  have hrounds := rounds_ofRatio false (Nat.pow 10 k) Nat.one_pos
  obtain ⟨x, hx⟩ := hrounds.exists_iff.2 (by simpa using ten_pow_lt_limit hk)
  rw [powerOfTen, hx, Option.getD_some]

theorem powerOfTen_bounds {k : Nat} (hk : k ≤ 308) :
    (10 : ℚ) ^ k ≤ 2 * (powerOfTen k).size ∧ (powerOfTen k).size ≤ 2 * 10 ^ k := by
  have hrounds := rounds_ofRatio false (Nat.pow 10 k) Nat.one_pos
  have hvalue : ((Nat.pow 10 k : ℕ) : ℚ) / (1 : ℕ) = 10 ^ k := by
    simp
  rw [hvalue] at hrounds
  have hx := ofRatio_powerOfTen hk
  refine ⟨hrounds.le_size hx ?_, hrounds.size_le hx⟩
  calc (2 : ℚ) ^ minExponent ≤ 2 ^ (0 : Int) := zpow_le_zpow_right₀ one_le_two (by decide)
    _ = 1 := zpow_zero 2
    _ ≤ 10 ^ k := one_le_pow₀ (by norm_num)

theorem powerOfTen_pos {k : Nat} (hk : k ≤ 308) : 0 < (powerOfTen k).size := by
  have hpow : (0 : ℚ) < 10 ^ k := by positivity
  exact pos_of_mul_pos_right (hpow.trans_le (powerOfTen_bounds hk).1) zero_le_two

theorem two_pow_le_ten_pow : (2 : ℚ) ^ (1018 : Int) ≤ 10 ^ 308 := by
  have hle : 2 ^ 1018 ≤ 10 ^ 308 := by
    decide +kernel
  exact_mod_cast hle

/-- What a magnitude is divided by in order to bring its exponent into range. -/
theorem le_powerOfTen : (2 : ℚ) ^ (1001 : Int) ≤ (powerOfTen 308).size := by
  refine le_of_mul_le_mul_left ?_ two_pos
  calc (2 : ℚ) * 2 ^ (1001 : Int) = 2 ^ (1002 : Int) := (zpow_one_add₀ two_ne_zero 1001).symm
    _ ≤ 2 ^ (1018 : Int) := zpow_le_zpow_right₀ one_le_two (by decide)
    _ ≤ 10 ^ 308 := two_pow_le_ten_pow
    _ ≤ 2 * (powerOfTen 308).size := (powerOfTen_bounds (le_refl 308)).1

/-! ## Negative exponents -/

theorem div_powerOfTen_le (x : Binary64) {k : Nat} (hk : k ≤ 308) :
    x.size / (powerOfTen k).size ≤ 2 * x.size := by
  have hone : (1 : ℚ) ≤ 2 * (powerOfTen k).size :=
    (one_le_pow₀ (by norm_num)).trans (powerOfTen_bounds hk).1
  rw [div_le_iff₀ (powerOfTen_pos hk), mul_right_comm]
  exact le_mul_of_one_le_left x.size_nonneg hone

/-- Each division brings a magnitude down far enough. -/
theorem size_divided {x : Binary64} (hx : x.size < 2 ^ (1021 : Int)) :
    ((x.divide? (powerOfTen 308)).getD x).size * 2 ^ (1000 : Int) ≤ x.size ∧
      minExponent ≤ ((x.divide? (powerOfTen 308)).getD x).exponent := by
  have hpos := powerOfTen_pos (le_refl 308)
  have hrounds := x.rounds_divide? hpos
  have hwithin : x.size / (powerOfTen 308).size < limit :=
    calc x.size / (powerOfTen 308).size ≤ 2 * x.size := x.div_powerOfTen_le (le_refl 308)
      _ < 2 * 2 ^ (1021 : Int) := by gcongr
      _ = 2 ^ (1022 : Int) := (zpow_one_add₀ two_ne_zero 1021).symm
      _ < limit := two_pow_lt_limit
  obtain ⟨z, hz⟩ := hrounds.exists_iff.2 hwithin
  rw [hz, Option.getD_some]
  refine ⟨?_, hrounds.exponent hz⟩
  calc z.size * 2 ^ (1000 : Int)
      ≤ 2 * (x.size / (powerOfTen 308).size) * 2 ^ (1000 : Int) := by
        gcongr
        exact hrounds.size_le hz
    _ = x.size / (powerOfTen 308).size * 2 ^ (1001 : Int) := by
        rw [mul_comm 2, mul_assoc, ← zpow_one_add₀ two_ne_zero]
        rfl
    _ ≤ x.size / (powerOfTen 308).size * (powerOfTen 308).size := by
        have hnonneg : 0 ≤ x.size / (powerOfTen 308).size := div_nonneg x.size_nonneg hpos.le
        exact mul_le_mul_of_nonneg_left le_powerOfTen hnonneg
    _ = x.size := div_mul_cancel₀ _ hpos.ne'

/-- With enough divisions, an exponent comes into range or nothing is left of the number. -/
theorem shrink_spec (fuel : Nat) {x : Binary64} {e : Int} (he : e < 0)
    (hexponent : minExponent ≤ x.exponent) (hx : x.size < 2 ^ (1021 : Int))
    (hfuel : x.size < 2 ^ (1000 * (fuel : Int) + minExponent)) :
    (shrink fuel x e).1.size ≤ x.size ∧ ((shrink fuel x e).1.isZero = true ∨
      -308 ≤ (shrink fuel x e).2 ∧ (shrink fuel x e).2 < 0) := by
  induction fuel generalizing x e with
  | zero =>
    rw [shrink]
    refine ⟨le_refl _, .inl (isZero_of_lt hexponent ?_)⟩
    simpa using hfuel
  | succ fuel ih =>
    rw [shrink]
    split
    · next hdone =>
      rw [Bool.or_eq_true, decide_eq_true_eq] at hdone
      rcases hdone with hrange | hzero
      · exact ⟨le_refl _, .inr ⟨hrange, he⟩⟩
      · exact ⟨le_refl _, .inl hzero⟩
    · next hgo =>
      obtain ⟨hdivided, hexponent'⟩ := size_divided hx
      generalize (x.divide? (powerOfTen 308)).getD x = z at hdivided hexponent' ⊢
      have hlow : e < -308 := by
        simp only [Bool.or_eq_true, decide_eq_true_eq, not_or] at hgo
        omega
      have hle : z.size ≤ x.size :=
        (le_mul_of_one_le_right z.size_nonneg (one_le_zpow₀ one_le_two (by omega))).trans hdivided
      have hsucc : 1000 * ((fuel + 1 : ℕ) : Int) + minExponent =
          1000 * (fuel : Int) + minExponent + 1000 := by
        push_cast
        ring
      have hlt : z.size < 2 ^ (1000 * (fuel : Int) + minExponent) := by
        refine lt_of_mul_lt_mul_right ?_ (zpow_nonneg zero_le_two 1000)
        calc z.size * 2 ^ (1000 : Int) ≤ x.size := hdivided
          _ < 2 ^ (1000 * ((fuel + 1 : ℕ) : Int) + minExponent) := hfuel
          _ = 2 ^ (1000 * (fuel : Int) + minExponent) * 2 ^ (1000 : Int) := by
            rw [hsucc, zpow_add₀ two_ne_zero]
      have he' : e + 308 < 0 := by omega
      obtain ⟨hsize, hdone⟩ := ih he' hexponent' (hle.trans_lt hx) hlt
      exact ⟨hsize.trans hle, hdone⟩

/-! ## Decimal numbers -/

theorem limit_pos : 0 < limit := (zpow_pos two_pos 1022).trans two_pow_lt_limit

theorem four_mul_limit_lt : 4 * limit < 10 ^ 309 := by
  have hlt : 4 * 2 ^ 1024 < 10 ^ 309 := by
    decide +kernel
  calc 4 * limit < 4 * 2 ^ (1024 : Int) := by
        gcongr
        exact limit_lt
    _ < 10 ^ 309 := mod_cast hlt

/-- A significand of 64 bits has a double, which is close to it. -/
theorem exists_ofRatio_one (negative : Bool) {m : Nat} (hm : m < 2 ^ 64) :
    ∃ x, ofRatio negative m 1 = some x ∧ x.size ≤ 2 * m ∧ (m : ℚ) ≤ 2 * x.size ∧
      minExponent ≤ x.exponent := by
  have hrounds := rounds_ofRatio negative m Nat.one_pos
  rw [Nat.cast_one, div_one] at hrounds
  have hm' : (m : ℚ) < 2 ^ (64 : Int) := mod_cast hm
  have hrange : (2 : ℚ) ^ (64 : Int) < 2 ^ (1022 : Int) :=
    zpow_lt_zpow_right₀ one_lt_two (by decide)
  obtain ⟨x, hx⟩ := hrounds.exists_iff.2 (hm'.trans (hrange.trans two_pow_lt_limit))
  refine ⟨x, hx, hrounds.size_le hx, ?_, hrounds.exponent hx⟩
  rcases Nat.eq_zero_or_pos m with rfl | hpos
  · rw [Nat.cast_zero]
    exact mul_nonneg zero_le_two x.size_nonneg
  · refine hrounds.le_size hx ?_
    calc (2 : ℚ) ^ minExponent ≤ 2 ^ (0 : Int) := zpow_le_zpow_right₀ one_le_two (by decide)
      _ = 1 := zpow_zero 2
      _ ≤ m := mod_cast hpos

/-- What is left of a significand is not greater, and its exponent comes into range. -/
theorem shrink_ofRatio_one {negative : Bool} {m : Nat} (hm : m < 2 ^ 64) {e : Int} (he : e < 0)
    {x : Binary64} (hx : ofRatio negative m 1 = some x) :
    (shrink 8 x e).1.size < 2 ^ (65 : Int) ∧
      ((shrink 8 x e).1.isZero = true ∨ (-(shrink 8 x e).2).toNat ≤ 308) := by
  obtain ⟨x', hx', hsize, -, hexponent⟩ := exists_ofRatio_one negative hm
  obtain rfl : x' = x := Option.some.inj (hx'.symm.trans hx)
  have hm' : (m : ℚ) < 2 ^ (64 : Int) := mod_cast hm
  have hsmall : x'.size < 2 ^ (65 : Int) :=
    calc x'.size ≤ 2 * m := hsize
      _ < 2 * 2 ^ (64 : Int) := by gcongr
      _ = 2 ^ (65 : Int) := (zpow_one_add₀ two_ne_zero 64).symm
  have hbelow : ∀ k : Int, 65 ≤ k → x'.size < 2 ^ k := fun k hk =>
    hsmall.trans_le (zpow_le_zpow_right₀ one_le_two hk)
  obtain ⟨hle, hdone⟩ := shrink_spec 8 he hexponent (hbelow _ (by decide))
    (hbelow _ (by decide))
  exact ⟨hle.trans_lt hsmall, hdone.imp_right fun h => by omega⟩

theorem exists_ofDecimal_of_neg (negative : Bool) {m : Nat} (hm : m < 2 ^ 64) {e : Int}
    (he : e < 0) : ∃ x, ofDecimal negative m e = some x := by
  obtain ⟨x, hx, -⟩ := exists_ofRatio_one negative hm
  obtain ⟨hsmall, hdone⟩ := shrink_ofRatio_one hm he hx
  rw [ofDecimal, hx]
  dsimp only
  rw [if_neg (not_le.2 he)]
  generalize shrink 8 x e = shrunk at hsmall hdone ⊢
  split
  · exact ⟨_, rfl⟩
  · next hne =>
    have hk := hdone.resolve_left hne
    refine (shrunk.1.rounds_divide? (powerOfTen_pos hk)).exists_iff.2 ?_
    calc shrunk.1.size / (powerOfTen (-shrunk.2).toNat).size
        ≤ 2 * shrunk.1.size := shrunk.1.div_powerOfTen_le hk
      _ < 2 * 2 ^ (65 : Int) := by gcongr
      _ = 2 ^ (66 : Int) := (zpow_one_add₀ two_ne_zero 65).symm
      _ < 2 ^ (1022 : Int) := zpow_lt_zpow_right₀ one_lt_two (by decide)
      _ < limit := two_pow_lt_limit

/-- What is left to be multiplied if the exponent is not negative. -/
theorem ofDecimal_of_nonneg {negative : Bool} {m : Nat} {x : Binary64}
    (hx : ofRatio negative m 1 = some x) (k : Nat) : ofDecimal negative m k =
      if k ≤ 308 then x.scale? (powerOfTen k) else if x.isZero then some x else none := by
  rw [ofDecimal, hx]
  simp

/-- A significand that is not zero is rounded to 53 bits. -/
theorem roundsTo_ofRatio_one {negative : Bool} {m : Nat} (hm : 0 < m) {x : Binary64}
    (h : ofRatio negative m 1 = some x) : RoundsTo m x.size := by
  have hone : (1 : ℚ) ≤ m := mod_cast hm
  have hrounds := (rounds_ofRatio negative m Nat.one_pos).roundsTo h
  rw [Nat.cast_one, div_one] at hrounds
  exact hrounds ((zpow_le_one_of_nonpos₀ one_le_two (by decide)).trans hone)

/-- Powers of ten are rounded to 53 bits. -/
theorem roundsTo_powerOfTen {k : Nat} (hk : k ≤ 308) :
    RoundsTo (10 ^ (k : Int)) (powerOfTen k).size := by
  have hpos : 0 < Nat.pow 10 k := Nat.pow_pos (by decide)
  have h := roundsTo_ofRatio_one hpos (ofRatio_powerOfTen hk)
  rwa [Nat.pow_eq, Nat.cast_pow, Nat.cast_ofNat, ← zpow_natCast] at h

/-- Magnitudes up to this one are within range, however they are rounded. -/
def safe : ℚ := 2 ^ (1024 : Int) - 2 ^ (975 : Int)

theorem safe_mul_lt : safe * ((1 + 2 ^ (-53 : Int)) * (1 + 2 ^ (-53 : Int))) < limit := by
  rw [safe, limit, show (1024 : Int) = 54 + 970 by rfl, show (975 : Int) = 5 + 970 by rfl,
    zpow_add₀ two_ne_zero, zpow_add₀ two_ne_zero]
  have hpos : (0 : ℚ) < 2 ^ (970 : Int) := by positivity
  generalize (2 : ℚ) ^ (970 : Int) = a at *
  norm_num
  linarith

theorem two_pow_le_safe : (2 : ℚ) ^ (1023 : Int) ≤ safe := by
  have hle : 2 ^ 1023 + 2 ^ 975 ≤ 2 ^ 1024 := by
    decide +kernel
  rw [safe, le_sub_iff_add_le]
  exact_mod_cast hle

theorem safe_lt : safe < 10 ^ 309 := by
  have hlt : 2 ^ 1024 < 10 ^ 309 := by
    decide +kernel
  calc safe < 2 ^ (1024 : Int) := sub_lt_self _ (by positivity)
    _ < 10 ^ 309 := mod_cast hlt

/-- Only zero stays below a power of ten that is no double any more. -/
theorem le_of_mul_lt {m k : Nat} (hm : 0 < m) (h : (m : ℚ) * 10 ^ (k : Int) < 10 ^ 309) :
    k ≤ 308 := by
  by_contra hk
  have hone : (1 : ℚ) ≤ m := mod_cast hm
  have hge : (10 : ℚ) ^ 309 ≤ m * 10 ^ (k : Int) :=
    calc (10 : ℚ) ^ 309 ≤ 10 ^ k := pow_le_pow_right₀ (by norm_num) (by omega)
      _ ≤ m * 10 ^ (k : Int) := by
        rw [zpow_natCast]
        exact le_mul_of_one_le_left (by positivity) hone
  exact absurd h (not_lt.2 hge)

/-- Numbers whose magnitude is clearly below the limit are within range. -/
theorem inRange_of_le {m : Nat} (hm : m < 2 ^ 64) {k : Int} (h : (m : ℚ) * 10 ^ k ≤ safe) :
    InRange m k := by
  rcases Nat.eq_zero_or_pos m with hzero | hpos
  · exact .inl hzero
  rcases lt_or_ge k 0 with hneg | hk
  · exact .inr (.inl hneg)
  lift k to ℕ using hk
  have hk := le_of_mul_lt hpos (h.trans_lt safe_lt)
  obtain ⟨x, hx, -⟩ := exists_ofRatio_one false hm
  have hrounds := roundsTo_ofRatio_one hpos hx
  refine .inr (.inr ⟨_, _, hrounds, roundsTo_powerOfTen hk, ?_⟩)
  calc x.size * (powerOfTen k).size
      ≤ m * (1 + 2 ^ (-53 : Int)) * (10 ^ (k : Int) * (1 + 2 ^ (-53 : Int))) :=
        mul_le_mul hrounds.le_mul (roundsTo_powerOfTen hk).le_mul (size_nonneg _) (by positivity)
    _ = m * 10 ^ (k : Int) * ((1 + 2 ^ (-53 : Int)) * (1 + 2 ^ (-53 : Int))) := by ring
    _ ≤ safe * ((1 + 2 ^ (-53 : Int)) * (1 + 2 ^ (-53 : Int))) :=
        mul_le_mul_of_nonneg_right h (by positivity)
    _ < limit := safe_mul_lt

/-- Whole numbers of 64 bits are within range. -/
theorem inRange_zero {m : Nat} (hm : m < 2 ^ 64) : InRange m 0 := by
  refine inRange_of_le hm ?_
  rw [zpow_zero, mul_one]
  calc (m : ℚ) ≤ 2 ^ (64 : Int) := mod_cast hm.le
    _ ≤ 2 ^ (1023 : Int) := zpow_le_zpow_right₀ one_le_two (by decide)
    _ ≤ safe := two_pow_le_safe

/-- Numbers within range are not clearly above the limit. -/
theorem InRange.lt {m : Nat} (hm : m < 2 ^ 64) {k : Int} (h : InRange m k) :
    (m : ℚ) * 10 ^ k < 4 * limit := by
  have hlimit : (2 : ℚ) ^ (1022 : Int) < 4 * limit :=
    two_pow_lt_limit.trans_le (le_mul_of_one_le_left limit_pos.le (by norm_num))
  rcases h with rfl | hneg | ⟨a, b, ha, hb, hab⟩
  · rw [Nat.cast_zero, zero_mul]
    exact mul_pos four_pos limit_pos
  · calc (m : ℚ) * 10 ^ k ≤ m :=
          mul_le_of_le_one_right (Nat.cast_nonneg m)
            (zpow_le_one_of_nonpos₀ (by norm_num) hneg.le)
      _ < 2 ^ (64 : Int) := mod_cast hm
      _ ≤ 2 ^ (1022 : Int) := zpow_le_zpow_right₀ one_le_two (by decide)
      _ < 4 * limit := hlimit
  · have hpow : (0 : ℚ) < 10 ^ k := by positivity
    have ha' : (0 : ℚ) ≤ 2 * a := (Nat.cast_nonneg m).trans ha.le_two_mul
    calc (m : ℚ) * 10 ^ k ≤ 2 * a * (2 * b) :=
          mul_le_mul ha.le_two_mul hb.le_two_mul hpow.le ha'
      _ = 4 * (a * b) := by ring
      _ < 4 * limit := by gcongr

/-- The decimal numbers that have a double are those within range. -/
theorem exists_ofDecimal_iff (negative : Bool) {m : Nat} (hm : m < 2 ^ 64) (k : Int) :
    (∃ x, ofDecimal negative m k = some x) ↔ InRange m k := by
  rcases lt_or_ge k 0 with hneg | hk
  · exact iff_of_true (exists_ofDecimal_of_neg negative hm hneg) (.inr (.inl hneg))
  lift k to ℕ using hk
  obtain ⟨x, hx, hsize, hle, -⟩ := exists_ofRatio_one negative hm
  rw [ofDecimal_of_nonneg hx]
  rcases Nat.eq_zero_or_pos m with rfl | hpos
  · -- zero has a double with every power of ten
    rw [Nat.cast_zero, mul_zero] at hsize
    have hzero : x.size = 0 := le_antisymm hsize x.size_nonneg
    rw [if_pos ((isZero_iff x).2 hzero)]
    refine iff_of_true ?_ (.inl rfl)
    split
    · refine (x.rounds_scale? (powerOfTen k)).exists_iff.2 ?_
      rw [hzero, zero_mul]
      exact limit_pos
    · exact ⟨x, rfl⟩
  have hrounds := roundsTo_ofRatio_one hpos hx
  split
  · next hk =>
    rw [(x.rounds_scale? (powerOfTen k)).exists_iff]
    constructor
    · exact fun hlt => .inr (.inr ⟨_, _, hrounds, roundsTo_powerOfTen hk, hlt⟩)
    · rintro (hzero | hneg | ⟨a, b, ha, hb, hab⟩)
      · omega
      · omega
      · rwa [hrounds.unique ha, (roundsTo_powerOfTen hk).unique hb]
  · next hk =>
    have hne : ¬x.isZero = true := fun hzero => by
      have hone : (1 : ℚ) ≤ m := mod_cast hpos
      rw [(isZero_iff x).1 hzero, mul_zero] at hle
      linarith
    rw [if_neg hne]
    exact iff_of_false nofun fun h => hk (le_of_mul_lt hpos ((h.lt hm).trans four_mul_limit_lt))

/-- With a power of ten that is no double, only zero is within range. -/
theorem InRange.eq_zero {m : Nat} (hm : m < 2 ^ 64) {k : Int} (hk : 308 < k) (h : InRange m k) :
    m = 0 := by
  by_contra hne
  lift k to ℕ using by omega
  have hle := le_of_mul_lt (Nat.pos_of_ne_zero hne) ((h.lt hm).trans four_mul_limit_lt)
  omega

/-! ## Proper doubles -/

theorem proper_shrink (fuel : Nat) {x : Binary64} (hx : x.Proper) (e : Int) :
    (shrink fuel x e).1.Proper := by
  induction fuel generalizing x e with
  | zero => exact hx
  | succ fuel ih =>
    rw [shrink]
    split
    · exact hx
    · refine ih ?_ _
      cases hdivided : x.divide? (powerOfTen 308) with
      | none => exact hx
      | some y => exact (x.rounds_divide? (powerOfTen_pos (le_refl 308))).proper hdivided

/-- Decimal numbers have proper doubles. -/
theorem proper_ofDecimal {negative : Bool} {m : Nat} (hm : m < 2 ^ 64) {e : Int} {y : Binary64}
    (h : ofDecimal negative m e = some y) : y.Proper := by
  obtain ⟨x, hx, -⟩ := exists_ofRatio_one negative hm
  have hproper := proper_ofRatio Nat.one_pos hx
  rcases lt_or_ge e 0 with he | he
  · have hdone := (shrink_ofRatio_one hm he hx).2
    have hshrunk := proper_shrink 8 hproper e
    rw [ofDecimal, hx] at h
    dsimp only at h
    rw [if_neg (not_le.2 he)] at h
    generalize shrink 8 x e = shrunk at h hdone hshrunk
    split at h
    · cases h
      exact hshrunk
    · next hne =>
      exact (shrunk.1.rounds_divide? (powerOfTen_pos (hdone.resolve_left hne))).proper h
  · lift e to ℕ using he
    rw [ofDecimal_of_nonneg hx] at h
    split at h
    · exact (x.rounds_scale? _).proper h
    · split at h
      · cases h
        exact hproper
      · cases h

end RequestBinding.Binary64
