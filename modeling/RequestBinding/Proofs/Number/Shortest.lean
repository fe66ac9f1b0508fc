import RequestBinding.Number.Shortest
import RequestBinding.Proofs.Number.Range

/-!
# The digits of a double

The shortest digits of a double lie within its interval, so they are not above the middle between
the double and the next one. Only for the greatest doubles may that be out of range.

## Main statements

* `Binary64.digits_spec` - the digits of a double with their power of ten
* `Binary64.Proper.le_safe` - the middle above a double is within range, or the double is one of the
  greatest
-/

namespace RequestBinding.Binary64

/-! ## Intervals -/

theorem tenTo_spec (e : Int) :
    0 < (tenTo e).1 ∧ 0 < (tenTo e).2 ∧ ((tenTo e).1 : ℚ) / (tenTo e).2 = 10 ^ e := by
  rw [tenTo]
  split
  · next h =>
    lift e to ℕ using h
    exact ⟨Nat.pow_pos (by decide), Nat.one_pos, by simp⟩
  · next h =>
    exact ⟨Nat.one_pos, Nat.pow_pos (by decide), by simp [zpow_eq_inv 10 h]⟩

/-- The middle between a double and the next one. -/
def above (x : Binary64) : ℚ := (x.mantissa + 1 / 2) * 2 ^ x.exponent

/-- An interval reaches up to the middle between its double and the next one. -/
theorem interval_spec (x : Binary64) :
    0 < x.interval.den ∧ (x.interval.high : ℚ) / x.interval.den = x.above := by
  rw [interval, above]
  generalize x.exponent = e
  dsimp only
  split
  · next h =>
    lift e to ℕ using h
    refine ⟨Nat.succ_pos 3, ?_⟩
    simp
    ring
  · next h =>
    refine ⟨Nat.mul_pos (by decide) (Nat.pow_pos Nat.two_pos), ?_⟩
    rw [zpow_eq_inv 2 h]
    simp
    field_simp
    ring

/-- What an interval holds is not above its upper end. -/
theorem Interval.le_of_holds {i : Interval} (hden : 0 < i.den) {e : Int} {n : Nat}
    (h : i.holds n (tenTo e).1 (tenTo e).2 = true) : (n : ℚ) * 10 ^ e ≤ i.high / i.den := by
  obtain ⟨-, hpos, heq⟩ := tenTo_spec e
  have hle : n * (tenTo e).1 * i.den ≤ i.high * (tenTo e).2 := by
    rw [holds] at h
    split at h
    · simp only [Bool.and_eq_true, decide_eq_true_eq] at h
      exact h.2
    · simp only [Bool.and_eq_true, decide_eq_true_eq] at h
      exact h.2.le
  have hden' : (0 : ℚ) < i.den := mod_cast hden
  have hpos' : (0 : ℚ) < (tenTo e).2 := mod_cast hpos
  have hle' : (n : ℚ) * (tenTo e).1 * i.den ≤ i.high * (tenTo e).2 := mod_cast hle
  rw [← heq, ← mul_div_assoc, div_le_div_iff₀ hpos' hden']
  exact hle'

theorem Interval.holds_of_gridPoint {i : Interval} {e : Int} {n : Nat}
    (h : i.gridPoint e = some n) : i.holds n (tenTo e).1 (tenTo e).2 = true := by
  rw [gridPoint] at h
  dsimp only at h
  split at h
  · next hbelow habove =>
    split at h
    · cases h
      exact hbelow
    · cases h
      exact habove
  · next hbelow _ =>
    cases h
    exact hbelow
  · next _ habove =>
    cases h
    exact habove
  · cases h

/-! ## Digits -/

/-- What is found on a grid lies within the interval, and is not zero. -/
theorem gridSearch_spec {i : Interval} (hden : 0 < i.den) {k : Int} {fuel count n : Nat} {e : Int}
    (h : gridSearch i k fuel count = some (n, e)) : n ≠ 0 ∧ (n : ℚ) * 10 ^ e ≤ i.high / i.den := by
  induction fuel generalizing count with
  | zero => cases h
  | succ fuel ih =>
    rw [gridSearch] at h
    split at h
    · next m hm =>
      split at h
      · exact ih h
      · next hne =>
        cases h
        exact ⟨mt beq_iff_eq.2 hne, Interval.le_of_holds hden (Interval.holds_of_gridPoint hm)⟩
    · exact ih h

/-- Without the zeros at its end, a decimal is the same number. -/
theorem dropZeros_spec (fuel n : Nat) (e : Int) :
    ((dropZeros fuel n e).1 : ℚ) * 10 ^ (dropZeros fuel n e).2 = n * 10 ^ e ∧
      (n = 0 → dropZeros fuel n e = (0, e)) ∧ (n ≠ 0 → (dropZeros fuel n e).1 ≠ 0) := by
  induction fuel generalizing n e with
  | zero => exact ⟨rfl, fun h => by rw [dropZeros, h], id⟩
  | succ fuel ih =>
    rw [dropZeros]
    split
    · next hzero =>
      simp only [Bool.and_eq_true, beq_iff_eq, bne_iff_ne, ne_eq] at hzero
      obtain ⟨heq, -, hne⟩ := ih (n / 10) (e + 1)
      refine ⟨?_, fun h => absurd h hzero.2, fun _ => hne (by omega)⟩
      have hn : (n : ℚ) = (n / 10 : ℕ) * 10 := by
        exact_mod_cast (Nat.div_mul_cancel (Nat.dvd_of_mod_eq_zero hzero.1)).symm
      rw [heq, hn, zpow_add_one₀ (by norm_num)]
      ring
    · exact ⟨rfl, fun h => by rw [h], id⟩

/-- What is found on the grids, as the digits and the exponent of the first one. -/
theorem digits_of_found (x : Binary64) {found : Nat × Int}
    (h : (gridSearch x.interval x.magnitude 18 0).getD (0, 0) = found) :
    x.digits = (Nat.toDigits 10 (dropZeros 400 found.1 found.2).1,
      (dropZeros 400 found.1 found.2).2 +
        (Nat.toDigits 10 (dropZeros 400 found.1 found.2).1).length - 1) := by
  rw [digits, h]

/-- The digits of a double with their power of ten: they are not above the middle between it and the
next one. -/
theorem digits_spec (x : Binary64) : ∃ (n : Nat) (e : Int),
    x.digits = (Nat.toDigits 10 n, e + (Nat.toDigits 10 n).length - 1) ∧
      (n : ℚ) * 10 ^ e ≤ x.above ∧ (n = 0 → e = 0) := by
  obtain ⟨hden, hhigh⟩ := interval_spec x
  cases hsearch : gridSearch x.interval x.magnitude 18 0 with
  | none =>
    have hfound : (gridSearch x.interval x.magnitude 18 0).getD (0, 0) = (0, 0) := by
      rw [hsearch, Option.getD_none]
    have hdigits := x.digits_of_found hfound
    rw [(dropZeros_spec 400 0 0).2.1 rfl] at hdigits
    refine ⟨0, 0, hdigits, ?_, fun _ => rfl⟩
    rw [above, Nat.cast_zero, zero_mul]
    positivity
  | some found =>
    obtain ⟨hn, hle⟩ := gridSearch_spec hden hsearch
    obtain ⟨heq, -, hne⟩ := dropZeros_spec 400 found.1 found.2
    refine ⟨_, _, x.digits_of_found (by rw [hsearch, Option.getD_some]), ?_,
      fun h => absurd h (hne hn)⟩
    rw [heq, ← hhigh]
    exact hle

/-! ## Range -/

/-- The middle above a double is within range, unless the double is one of the greatest. -/
theorem Proper.le_safe {x : Binary64} (hx : x.Proper) :
    x.above ≤ safe ∨ x.exponent = maxExponent ∧ 2 ^ 53 - 16 ≤ x.mantissa := by
  obtain ⟨hmantissa, hexponent⟩ := hx
  have hsafe : safe = (2 ^ 53 - 2 ^ 4) * 2 ^ maxExponent := by
    rw [safe, sub_mul, ← zpow_natCast, ← zpow_natCast, ← zpow_add₀ two_ne_zero,
      ← zpow_add₀ two_ne_zero]
    rfl
  have hpos : (0 : ℚ) < 2 ^ maxExponent := by positivity
  rw [above, hsafe]
  rcases hexponent.lt_or_eq with hlt | heq
  · left
    have hpow : (2 : ℚ) ^ x.exponent ≤ 2 ^ (maxExponent - 1) :=
      zpow_le_zpow_right₀ one_le_two (by omega)
    have hmantissa' : (x.mantissa : ℚ) + 1 / 2 ≤ 2 ^ 53 := by
      have hle : (x.mantissa : ℚ) + 1 ≤ 2 ^ 53 := mod_cast hmantissa
      linarith
    rw [zpow_sub_one₀ two_ne_zero] at hpow
    calc ((x.mantissa : ℚ) + 1 / 2) * 2 ^ x.exponent
        ≤ 2 ^ 53 * (2 ^ maxExponent * 2⁻¹) := by gcongr
      _ = 2 ^ 52 * 2 ^ maxExponent := by ring
      _ ≤ (2 ^ 53 - 2 ^ 4) * 2 ^ maxExponent := by
        gcongr
        norm_num
  · rcases Nat.lt_or_ge x.mantissa (2 ^ 53 - 16) with hlow | hhigh
    · left
      have hlow' : (x.mantissa : ℚ) + 1 / 2 ≤ 2 ^ 53 - 2 ^ 4 := by
        have hle : (x.mantissa : ℚ) + 1 ≤ (2 ^ 53 - 16 : ℕ) := mod_cast hlow
        norm_num at hle ⊢
        linarith
      rw [heq]
      gcongr
    · exact .inr ⟨heq, hhigh⟩

end RequestBinding.Binary64
