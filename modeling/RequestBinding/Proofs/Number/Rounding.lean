import Mathlib.Tactic.FieldSimp
import RequestBinding.Number.Binary64
import RequestBinding.Proofs.Number.Nearest

/-!
# Rounding to doubles

A fraction is rounded to a double that is at most twice as great, and at least half as great unless
the fraction is below the least double. Unless it is small, the double has the nearest significand
of 53 bits. There is a double for a fraction exactly if it is below the limit.

## Main definitions

* `Binary64.size` - the magnitude of a double
* `Binary64.Proper` - the doubles that there are
* `Binary64.Rounds` - what a magnitude is rounded to

## Main statements

* `Binary64.exists_ofRatio_iff` - the fractions that have a double
* `Binary64.roundsTo_ofRatio` - the double of a fraction
* `Binary64.rounds_ofRatio` - fractions are rounded
-/

namespace RequestBinding.Binary64

/-- The magnitude of a double. -/
def size (x : Binary64) : ℚ := x.mantissa * 2 ^ x.exponent

/-! ## Rounding to integers -/

/-- The nearest whole number is found by comparing the rest of a division with a half. -/
theorem isNearest_roundEven (n : Nat) {d : Nat} (hd : 0 < d) :
    IsNearest (roundEven n d) ((n : ℚ) / d) := by
  have hd' : (0 : ℚ) < d := mod_cast hd
  have hn : (n : ℚ) / d = (n / d : ℕ) + (n % d : ℕ) / d := by
    rw [div_eq_iff hd'.ne', add_mul, div_mul_cancel₀ _ hd'.ne', mul_comm]
    exact_mod_cast (Nat.div_add_mod n d).symm
  rw [roundEven, hn]
  generalize n / d = q
  generalize hr : n % d = r
  have hlt : r < d := hr ▸ Nat.mod_lt n hd
  have hnonneg : (0 : ℚ) ≤ r / d := by positivity
  have hle : (r / d : ℚ) ≤ 1 := by
    rw [div_le_one hd']
    exact_mod_cast hlt.le
  split
  · next h =>
    refine .down hnonneg (.inl ?_)
    rw [div_lt_iff₀ hd', one_div_mul_eq_div, lt_div_iff₀ two_pos, mul_comm]
    exact_mod_cast h
  · split
    · next h =>
      refine .up hle (.inl ?_)
      rw [lt_div_iff₀ hd', one_div_mul_eq_div, div_lt_iff₀ two_pos, mul_comm]
      exact_mod_cast h
    · next hless hmore =>
      -- in the middle, the even one of the two is taken
      have hhalf : (r / d : ℚ) = 1 / 2 := by
        have htwice : 2 * r = d := by omega
        rw [div_eq_iff hd'.ne', ← htwice]
        push_cast
        ring
      split
      · next heven => exact .down hnonneg (.inr ⟨hhalf, Nat.even_iff.2 (beq_iff_eq.1 heven)⟩)
      · next hodd =>
        refine .up hle (.inr ⟨hhalf, Nat.even_add_one.2 fun heven => hodd ?_⟩)
        exact beq_iff_eq.2 (Nat.even_iff.1 heven)

/-! ## Fractions -/

/-- A negative exponent divides. -/
theorem zpow_eq_inv (a : ℚ) {e : Int} (h : ¬0 ≤ e) : a ^ e = (a ^ (-e).toNat)⁻¹ := by
  rw [← zpow_natCast, Int.toNat_of_nonneg (by omega), zpow_neg, inv_inv]

theorem scaled_pos (num : Nat) {den : Nat} (hden : 0 < den) (e : Int) :
    0 < (scaled num den e).2 := by
  rw [scaled]
  split
  · exact Nat.mul_pos hden (Nat.pow_pos Nat.two_pos)
  · exact hden

theorem scaled_eq (num den : Nat) (e : Int) :
    ((scaled num den e).1 : ℚ) / (scaled num den e).2 = num / den / 2 ^ e := by
  rw [scaled]
  split
  · next h =>
    lift e to ℕ using h
    simp [div_div]
  · next h =>
    rw [zpow_eq_inv 2 h]
    simp [div_eq_mul_inv]
    ring

theorem two_pow_log2_div_lt {num den : Nat} (hnum : 0 < num) :
    (2 : ℚ) ^ ((Nat.log2 num : Int) - Nat.log2 den - 1) * den < num := by
  have hnum' : (2 : ℚ) ^ (Nat.log2 num : Int) ≤ num := by
    rw [zpow_natCast]
    exact_mod_cast Nat.log2_self_le hnum.ne'
  have hden' : (den : ℚ) < 2 ^ ((Nat.log2 den : Int) + 1) := by
    rw [← Nat.cast_succ, zpow_natCast]
    exact_mod_cast Nat.lt_log2_self (n := den)
  calc (2 : ℚ) ^ ((Nat.log2 num : Int) - Nat.log2 den - 1) * den
      < 2 ^ ((Nat.log2 num : Int) - Nat.log2 den - 1) * 2 ^ ((Nat.log2 den : Int) + 1) := by
        gcongr
    _ = 2 ^ (Nat.log2 num : Int) := by
        rw [← zpow_add₀ two_ne_zero]
        congr 1
        omega
    _ ≤ num := hnum'

/-- A positive fraction lies between the powers of two that the lengths of its parts give. -/
theorem two_pow_bounds {num den : Nat} (hnum : 0 < num) (hden : 0 < den) :
    (2 : ℚ) ^ ((Nat.log2 num : Int) - Nat.log2 den - 1) < num / den ∧
      (num / den : ℚ) < 2 ^ ((Nat.log2 num : Int) - Nat.log2 den + 1) := by
  have hden' : (0 : ℚ) < den := mod_cast hden
  constructor
  · rw [lt_div_iff₀ hden']
    exact two_pow_log2_div_lt hnum
  · rw [div_lt_iff₀ hden']
    calc (num : ℚ)
        = 2 ^ ((Nat.log2 num : Int) - Nat.log2 den + 1) *
            (2 ^ ((Nat.log2 den : Int) - Nat.log2 num - 1) * num) := by
          rw [← mul_assoc, ← zpow_add₀ two_ne_zero]
          ring_nf
          simp
      _ < 2 ^ ((Nat.log2 num : Int) - Nat.log2 den + 1) * den := by
          gcongr
          exact two_pow_log2_div_lt hden

/-- The whole part of a scaled fraction tells on which side of a power of two the fraction is. -/
theorem scaled_div_lt_iff (num : Nat) {den : Nat} (hden : 0 < den) (e : Int) (k : Nat) :
    (scaled num den e).1 / (scaled num den e).2 < 2 ^ k ↔ (num / den : ℚ) < 2 ^ (e + k) := by
  have hpos := scaled_pos num hden e
  have hpos' : (0 : ℚ) < (scaled num den e).2 := mod_cast hpos
  have hpow : (0 : ℚ) < 2 ^ e := by positivity
  calc (scaled num den e).1 / (scaled num den e).2 < 2 ^ k
      ↔ (scaled num den e).1 < 2 ^ k * (scaled num den e).2 := Nat.div_lt_iff_lt_mul hpos
    _ ↔ ((scaled num den e).1 : ℚ) / (scaled num den e).2 < 2 ^ k := by
        rw [div_lt_iff₀ hpos']
        exact_mod_cast Iff.rfl
    _ ↔ (num / den : ℚ) < 2 ^ (e + k) := by
        rw [scaled_eq, div_lt_iff₀ hpow, add_comm, zpow_add₀ two_ne_zero, zpow_natCast]

/-- The exponent of a positive fraction leaves 53 bits before the point, or fewer if it is the least
one. -/
theorem exponentFor_spec {num den : Nat} (hnum : 0 < num) (hden : 0 < den) :
    (num / den : ℚ) < 2 ^ (exponentFor num den + 53) ∧ (exponentFor num den = minExponent ∨
      (2 : ℚ) ^ (exponentFor num den + 52) ≤ num / den) := by
  obtain ⟨hmin, hmax⟩ := two_pow_bounds hnum hden
  have hle : minExponent ≤ exponentFor num den := le_max_left _ _
  rw [exponentFor] at hle ⊢
  dsimp only at hle ⊢
  generalize hguess : (Nat.log2 num : Int) - Nat.log2 den - 52 = guess at hle ⊢
  rw [show (Nat.log2 num : Int) - Nat.log2 den - 1 = guess + 51 by omega] at hmin
  rw [show (Nat.log2 num : Int) - Nat.log2 den + 1 = guess + 53 by omega] at hmax
  have hup : ∀ {e e' : Int}, e ≤ e' → (2 : ℚ) ^ e ≤ 2 ^ e' :=
    fun h => zpow_le_zpow_right₀ one_le_two h
  split
  · next hlow =>
    -- one bit less than guessed
    have hlow' : (num / den : ℚ) < 2 ^ (guess + 52) := (scaled_div_lt_iff num hden guess 52).1 hlow
    refine ⟨hlow'.trans_le (hup (by omega)), ?_⟩
    rcases le_total (guess - 1) minExponent with h | h
    · exact .inl (max_eq_left h)
    · refine .inr ((hup ?_).trans hmin.le)
      omega
  · next hhigh =>
    have hhigh' : (2 : ℚ) ^ (guess + 52) ≤ num / den :=
      not_lt.1 (mt (scaled_div_lt_iff num hden guess 52).2 hhigh)
    refine ⟨hmax.trans_le (hup (by omega)), ?_⟩
    rcases le_total guess minExponent with h | h
    · exact .inl (max_eq_left h)
    · refine .inr ((hup ?_).trans hhigh')
      omega

theorem minExponent_le_exponentFor (num den : Nat) : minExponent ≤ exponentFor num den := by
  rw [exponentFor]
  exact le_max_left _ _

/-- The significand of a positive fraction is rounded from at least one, if the fraction is not
below the least double. -/
theorem one_le_scaled {num den : Nat} (hnum : 0 < num) (hden : 0 < den)
    (h : (2 : ℚ) ^ minExponent ≤ num / den) :
    (1 : ℚ) ≤ num / den / 2 ^ exponentFor num den := by
  have hpow : (2 : ℚ) ^ exponentFor num den ≤ num / den := by
    rcases (exponentFor_spec hnum hden).2 with heq | hle
    · rw [heq]
      exact h
    · exact (zpow_le_zpow_right₀ one_le_two (by omega)).trans hle
  rw [le_div_iff₀ (by positivity), one_mul]
  exact hpow

/-! ## Rounding to doubles -/

/-- The significand of a fraction, rounded at its exponent. -/
def significand (num den : Nat) : Nat :=
  roundEven (scaled num den (exponentFor num den)).1 (scaled num den (exponentFor num den)).2

/-- The double of a positive fraction, unless its exponent is too great: the significand is rounded
at the exponent, or that has to grow by one if the significand gets too long. -/
theorem ofRatio_cases (negative : Bool) {num : Nat} (hnum : 0 < num) (den : Nat) :
    ∃ m e, ofRatio negative num den =
        (if maxExponent < e then none else some ⟨negative, m, if m = 0 then minExponent else e⟩) ∧
      (significand num den ≠ 2 ^ 53 ∧ m = significand num den ∧ e = exponentFor num den ∨
        significand num den = 2 ^ 53 ∧ m = 2 ^ 52 ∧ e = exponentFor num den + 1) := by
  have hne : (num == 0) = false := beq_eq_false_iff_ne.2 hnum.ne'
  rw [ofRatio, hne]
  dsimp only
  rw [← significand]
  by_cases hcarry : significand num den = 2 ^ 53
  · exact ⟨2 ^ 52, exponentFor num den + 1, by simp [hcarry], .inr ⟨hcarry, rfl, rfl⟩⟩
  · have hbeq : (significand num den == Nat.pow 2 53) = false := beq_eq_false_iff_ne.2 hcarry
    exact ⟨significand num den, exponentFor num den, by simp [hbeq], .inl ⟨hcarry, rfl, rfl⟩⟩

/-- The magnitude of the double of a positive fraction is its significand at its exponent. -/
theorem size_of_ofRatio_eq {negative : Bool} {num den : Nat} (hnum : 0 < num) {x : Binary64}
    (h : ofRatio negative num den = some x) :
    x.size = significand num den * 2 ^ exponentFor num den := by
  obtain ⟨m, e, heq, hcases⟩ := ofRatio_cases negative hnum den
  rw [heq] at h
  split at h
  · cases h
  · cases h
    -- a significand of zero has no magnitude, whatever its exponent is
    have hsize : size ⟨negative, m, if m = 0 then minExponent else e⟩ = m * 2 ^ e := by
      rw [size]
      by_cases hzero : m = 0 <;> simp [hzero]
    rw [hsize]
    rcases hcases with ⟨-, rfl, rfl⟩ | ⟨hcarry, rfl, rfl⟩
    · rfl
    · rw [hcarry, zpow_add_one₀ two_ne_zero]
      push_cast
      ring

theorem size_nonneg (x : Binary64) : 0 ≤ x.size := by
  rw [size]
  positivity

/-- A significand is the nearest one at its exponent. -/
theorem isNearest_significand (num : Nat) {den : Nat} (hden : 0 < den) :
    IsNearest (significand num den) (num / den / 2 ^ exponentFor num den) := by
  rw [← scaled_eq]
  exact isNearest_roundEven _ (scaled_pos num hden _)

/-- The exponent of a double is not below the least one. -/
theorem le_exponent_of_ofRatio {negative : Bool} {num den : Nat} {x : Binary64}
    (h : ofRatio negative num den = some x) : minExponent ≤ x.exponent := by
  rcases Nat.eq_zero_or_pos num with rfl | hnum
  · cases h
    exact le_refl minExponent
  · obtain ⟨m, e, heq, hcases⟩ := ofRatio_cases negative hnum den
    have hle := minExponent_le_exponentFor num den
    rw [heq] at h
    split at h
    · cases h
    · cases h
      dsimp only
      split <;> omega

/-- A double is at most twice as great as its fraction, and at least half as great unless the
fraction is below the least double. -/
theorem size_of_ofRatio {negative : Bool} {num den : Nat} (hden : 0 < den) {x : Binary64}
    (h : ofRatio negative num den = some x) : x.size ≤ 2 * (num / den) ∧
      ((2 : ℚ) ^ minExponent ≤ num / den → num / den ≤ 2 * x.size) := by
  rcases Nat.eq_zero_or_pos num with rfl | hnum
  · cases h
    have hpow : (0 : ℚ) < 2 ^ minExponent := by positivity
    refine ⟨by simp [size, zero], fun hle => ?_⟩
    simp only [Nat.cast_zero, zero_div] at hle
    exact absurd hle (not_le.2 hpow)
  · have hnearest := isNearest_significand num hden
    have hpos : (0 : ℚ) < 2 ^ exponentFor num den := by positivity
    rw [size_of_ofRatio_eq hnum h]
    constructor
    · rw [← le_div_iff₀ hpos, mul_div_assoc]
      exact hnearest.le_two_mul (by positivity)
    · intro hle
      rw [← mul_assoc, ← div_le_iff₀ hpos]
      exact hnearest.two_mul_ge (one_le_scaled hnum hden hle)

/-- Before the point, a fraction has at most 53 bits at its exponent. -/
theorem scaled_lt {num den : Nat} (hnum : 0 < num) (hden : 0 < den) :
    (num / den / 2 ^ exponentFor num den : ℚ) < 2 ^ 53 := by
  rw [div_lt_iff₀ (by positivity), ← zpow_natCast, ← zpow_add₀ two_ne_zero, add_comm]
  exact (exponentFor_spec hnum hden).1

/-- A fraction is rounded to 53 bits unless its exponent may be the least one. -/
theorem roundsTo_ofRatio {negative : Bool} {num den : Nat} (hden : 0 < den) {x : Binary64}
    (h : ofRatio negative num den = some x) (hnormal : (2 : ℚ) ^ (minExponent + 52) ≤ num / den) :
    RoundsTo (num / den) x.size := by
  rcases Nat.eq_zero_or_pos num with rfl | hnum
  · rw [Nat.cast_zero, zero_div] at hnormal
    exact absurd hnormal (not_le.2 (by positivity))
  · refine ⟨significand num den, exponentFor num den, ?_, scaled_lt hnum hden,
      isNearest_significand num hden, size_of_ofRatio_eq hnum h⟩
    rw [le_div_iff₀ (by positivity), ← zpow_natCast, ← zpow_add₀ two_ne_zero, add_comm]
    rcases (exponentFor_spec hnum hden).2 with heq | hle
    · rwa [heq]
    · exact hle

/-- The doubles that there are: the mantissa has 53 bits, and the exponent is not too great. -/
def Proper (x : Binary64) : Prop := x.mantissa < 2 ^ 53 ∧ x.exponent ≤ maxExponent

theorem proper_zero (negative : Bool) : (zero negative).Proper := by
  cases negative <;> exact ⟨by decide, by decide⟩

theorem significand_le {num den : Nat} (hnum : 0 < num) (hden : 0 < den) :
    significand num den ≤ 2 ^ 53 := by
  have hlt : (significand num den : ℚ) < 2 ^ 53 + 1 := by
    linarith [(isNearest_significand num hden).le_add, scaled_lt hnum hden]
  exact Nat.le_of_lt_succ (mod_cast hlt)

/-- Fractions are rounded to proper doubles. -/
theorem proper_ofRatio {negative : Bool} {num den : Nat} (hden : 0 < den) {x : Binary64}
    (h : ofRatio negative num den = some x) : x.Proper := by
  rcases Nat.eq_zero_or_pos num with rfl | hnum
  · cases h
    exact proper_zero negative
  · have hle := significand_le hnum hden
    obtain ⟨m, e, heq, hcases⟩ := ofRatio_cases negative hnum den
    rw [heq] at h
    split at h
    · cases h
    · next hmax =>
      cases h
      constructor
      · rcases hcases with ⟨hne, rfl, -⟩ | ⟨-, rfl, -⟩
        · exact Nat.lt_of_le_of_ne hle hne
        · exact Nat.pow_lt_pow_right (by decide) (by decide)
      · dsimp only
        split
        · decide
        · exact not_lt.1 hmax

theorem limit_lt : limit < 2 ^ (1024 : Int) := sub_lt_self _ (by positivity)

theorem two_pow_le_limit : (2 : ℚ) ^ (1023 : Int) ≤ limit := by
  have hpow : (2 : ℚ) ^ (970 : Int) ≤ 2 ^ (1023 : Int) := zpow_le_zpow_right₀ one_le_two (by decide)
  have hsum : (2 : ℚ) ^ (1024 : Int) = 2 * 2 ^ (1023 : Int) := zpow_one_add₀ two_ne_zero 1023
  rw [limit, hsum]
  clear hsum
  generalize (2 : ℚ) ^ (1023 : Int) = a at *
  generalize (2 : ℚ) ^ (970 : Int) = b at *
  linarith

theorem two_pow_lt_limit : (2 : ℚ) ^ (1022 : Int) < limit :=
  (zpow_lt_zpow_right₀ one_lt_two (by decide)).trans_le two_pow_le_limit

theorem limit_div : limit / 2 ^ (971 : Int) = 2 ^ 53 - 1 / 2 := by
  rw [limit, div_eq_iff (by positivity), show (1024 : Int) = 53 + 971 by rfl,
    show (970 : Int) = -1 + 971 by rfl, zpow_add₀ two_ne_zero, zpow_add₀ two_ne_zero, sub_mul]
  norm_num

/-- At the greatest exponent, a significand gets too long exactly if the fraction is not below the
limit. -/
theorem significand_eq_iff {num den : Nat} (hnum : 0 < num) (hden : 0 < den)
    (he : exponentFor num den = maxExponent) :
    significand num den = 2 ^ 53 ↔ limit ≤ num / den := by
  have hnearest := isNearest_significand num hden
  rw [he, maxExponent] at hnearest
  rw [← div_le_div_iff_of_pos_right (c := 2 ^ (971 : Int)) (by positivity), limit_div]
  generalize (num / den / 2 ^ (971 : Int) : ℚ) = q at hnearest ⊢
  constructor
  · intro heq
    have hle := hnearest.le_add
    rw [heq] at hle
    push_cast at hle
    linarith
  · intro hle
    have heven : Even (2 ^ 53) := by decide
    exact Nat.le_antisymm (significand_le hnum hden)
      (hnearest.le_of_even heven (by exact_mod_cast hle))

/-- The fractions that have a double are those below the limit. -/
theorem exists_ofRatio_iff (negative : Bool) (num : Nat) {den : Nat} (hden : 0 < den) :
    (∃ x, ofRatio negative num den = some x) ↔ (num / den : ℚ) < limit := by
  rcases Nat.eq_zero_or_pos num with rfl | hnum
  · rw [Nat.cast_zero, zero_div]
    exact iff_of_true ⟨zero negative, rfl⟩ ((by positivity : (0 : ℚ) < _).trans two_pow_lt_limit)
  obtain ⟨hmax, hmin⟩ := exponentFor_spec hnum hden
  obtain ⟨m, e, heq, hcases⟩ := ofRatio_cases negative hnum den
  have hexists : (∃ x, ofRatio negative num den = some x) ↔ e ≤ maxExponent := by
    rw [heq]
    split
    · next h => exact iff_of_false nofun (not_le.2 h)
    · next h => exact iff_of_true ⟨_, rfl⟩ (not_lt.1 h)
  rw [hexists]
  rcases lt_trichotomy (exponentFor num den) maxExponent with hlow | htop | hhigh
  · -- the magnitude is far below, and the exponent may grow by one
    refine iff_of_true (by omega) (hmax.trans_le ?_)
    refine (zpow_le_zpow_right₀ one_le_two ?_).trans two_pow_le_limit
    rw [maxExponent] at hlow
    omega
  · have hcarry := significand_eq_iff hnum hden htop
    rw [← not_le, ← hcarry]
    constructor
    · intro hle hsignificand
      omega
    · intro hne
      omega
  · refine iff_of_false (by omega) (not_lt.2 (limit_lt.le.trans ?_))
    rcases hmin with hmin | hle
    · rw [hmin] at hhigh
      exact absurd hhigh (by decide)
    · refine (zpow_le_zpow_right₀ one_le_two ?_).trans hle
      rw [maxExponent] at hhigh
      omega

/-- What a magnitude is rounded to: a double exactly if it is within range. The double is within a
factor of two, and the nearest one with 53 bits unless the magnitude is small. -/
structure Rounds (r : ℚ) (rounded : Option Binary64) : Prop where
  exists_iff : (∃ x, rounded = some x) ↔ r < limit
  size_le : ∀ {x}, rounded = some x → x.size ≤ 2 * r
  le_size : ∀ {x}, rounded = some x → (2 : ℚ) ^ minExponent ≤ r → r ≤ 2 * x.size
  roundsTo : ∀ {x}, rounded = some x → (2 : ℚ) ^ (minExponent + 52) ≤ r → RoundsTo r x.size
  exponent : ∀ {x}, rounded = some x → minExponent ≤ x.exponent
  proper : ∀ {x}, rounded = some x → x.Proper

theorem rounds_ofRatio (negative : Bool) (num : Nat) {den : Nat} (hden : 0 < den) :
    Rounds (num / den) (ofRatio negative num den) where
  exists_iff := exists_ofRatio_iff negative num hden
  size_le h := (size_of_ofRatio hden h).1
  le_size h := (size_of_ofRatio hden h).2
  roundsTo h := roundsTo_ofRatio hden h
  exponent h := le_exponent_of_ofRatio h
  proper h := proper_ofRatio hden h

end RequestBinding.Binary64
