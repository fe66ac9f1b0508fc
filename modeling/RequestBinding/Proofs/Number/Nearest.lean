import Mathlib.Algebra.Order.Field.Basic
import Mathlib.Algebra.Order.Field.Power
import Mathlib.Data.Rat.Cast.Order
import Mathlib.Tactic.Linarith
import Mathlib.Tactic.NormNum
import Mathlib.Tactic.Positivity
import Mathlib.Tactic.Ring

/-!
# Magnitudes with 53 bits

The significands of doubles have 53 bits. A positive magnitude is rounded to the nearest one with
such a significand, and between two of them to the one with the even significand. A decimal number
is within range if its significand and its power of ten, each of them rounded, have a product below
the middle between the greatest double and the next power of two.

## Main definitions

* `Binary64.IsNearest` - the nearest whole number, a half to the even one
* `Binary64.RoundsTo` - the rounding of magnitudes
* `Binary64.limit` - where the range of doubles ends
* `Binary64.InRange` - decimal numbers within range

## Main statements

* `Binary64.RoundsTo.unique` - there is one rounded magnitude
* `Binary64.RoundsTo.le_two_mul`, `Binary64.RoundsTo.le_mul` - it is close to what is rounded
-/

namespace RequestBinding.Binary64

/-! ## Whole numbers -/

/-- The whole number that is nearest to a magnitude; of two of them, the even one. -/
structure IsNearest (n : ℕ) (q : ℚ) : Prop where
  near : |(n : ℚ) - q| ≤ 1 / 2
  even : |(n : ℚ) - q| = 1 / 2 → Even n

namespace IsNearest

variable {n n' : ℕ} {q : ℚ}

/-- A number is rounded down if less than a half is above it. -/
theorem down {f : ℚ} (hf : 0 ≤ f) (h : f < 1 / 2 ∨ f = 1 / 2 ∧ Even n) :
    IsNearest n (n + f) := by
  have hdistance : |(n : ℚ) - (n + f)| = f := by
    rw [sub_add_cancel_left, abs_neg, abs_of_nonneg hf]
  constructor <;> rw [hdistance]
  · rcases h with hlt | ⟨heq, -⟩
    · exact hlt.le
    · exact heq.le
  · exact fun heq => (h.resolve_left heq.not_lt).2

/-- A number is rounded up if more than a half is above the one before it. -/
theorem up {f : ℚ} (hf : f ≤ 1) (h : 1 / 2 < f ∨ f = 1 / 2 ∧ Even (n + 1)) :
    IsNearest (n + 1) (n + f) := by
  have hdistance : |((n + 1 : ℕ) : ℚ) - (n + f)| = 1 - f := by
    rw [Nat.cast_add, Nat.cast_one, add_sub_add_left_eq_sub, abs_of_nonneg (sub_nonneg.2 hf)]
  constructor <;> rw [hdistance]
  · rcases h with hlt | ⟨heq, -⟩ <;> linarith
  · exact fun heq => (h.resolve_left fun hlt => by linarith).2

theorem le_add (h : IsNearest n q) : (n : ℚ) ≤ q + 1 / 2 := by
  linarith [(abs_le.1 h.near).2]

theorem sub_le (h : IsNearest n q) : q - 1 / 2 ≤ n := by
  linarith [(abs_le.1 h.near).1]

theorem le_two_mul (h : IsNearest n q) (hq : 0 ≤ q) : (n : ℚ) ≤ 2 * q := by
  rcases Nat.eq_zero_or_pos n with rfl | hpos
  · rw [Nat.cast_zero]
    linarith
  · have hone : (1 : ℚ) ≤ n := mod_cast hpos
    linarith [h.le_add]

theorem two_mul_ge (h : IsNearest n q) (hq : 1 ≤ q) : q ≤ 2 * n := by
  linarith [h.sub_le]

/-- A magnitude that is not nearer to a smaller number than to an even one is not rounded to a
smaller one. -/
theorem le_of_even (h : IsNearest n q) (heven : Even n') (hq : n' - 1 / 2 ≤ q) : n' ≤ n := by
  by_contra hlt
  have hsucc : n + 1 ≤ n' := Nat.succ_le_of_lt (not_le.1 hlt)
  have hsucc' : (n : ℚ) + 1 ≤ n' := mod_cast hsucc
  have habove := h.sub_le
  -- the magnitude is in the middle of two numbers, which are both even
  have hhalf : |(n : ℚ) - q| = 1 / 2 := by
    rw [abs_eq (by norm_num)]
    right
    linarith
  have heq : n + 1 = n' := by
    have hle : (n' : ℚ) ≤ n + 1 := by linarith
    exact Nat.le_antisymm hsucc (mod_cast hle)
  rw [← heq, Nat.even_add_one] at heven
  exact heven (h.even hhalf)

theorem le (h : IsNearest n q) (h' : IsNearest n' q) : n ≤ n' := by
  by_contra hlt
  have hsucc : n' + 1 ≤ n := Nat.succ_le_of_lt (not_le.1 hlt)
  have hsucc' : (n' : ℚ) + 1 ≤ n := mod_cast hsucc
  have habove := h.le_add
  have hbelow := h'.sub_le
  have hhalf : |(n : ℚ) - q| = 1 / 2 := by
    rw [abs_eq (by norm_num)]
    left
    linarith
  exact hlt (h'.le_of_even (h.even hhalf) (by linarith))

theorem unique (h : IsNearest n q) (h' : IsNearest n' q) : n = n' :=
  Nat.le_antisymm (h.le h') (h'.le h)

end IsNearest

/-! ## Magnitudes -/

/-- What a positive magnitude is rounded to: in units of the power of two that leaves 53 bits before
the point, the nearest whole number. -/
def RoundsTo (r y : ℚ) : Prop :=
  ∃ (n : ℕ) (e : ℤ), 2 ^ 52 ≤ r / 2 ^ e ∧ r / 2 ^ e < 2 ^ 53 ∧ IsNearest n (r / 2 ^ e) ∧
    y = n * 2 ^ e

namespace RoundsTo

variable {r y y' : ℚ}

/-- A magnitude has 53 bits before the point in at most one unit. -/
theorem le_of_bits {e e' : ℤ} (h : 2 ^ 52 ≤ r / 2 ^ e) (h' : r / 2 ^ e' < 2 ^ 53) : e ≤ e' := by
  rw [le_div_iff₀ (by positivity), ← zpow_natCast, ← zpow_add₀ two_ne_zero] at h
  rw [div_lt_iff₀ (by positivity), ← zpow_natCast, ← zpow_add₀ two_ne_zero] at h'
  have hlt := (zpow_lt_zpow_iff_right₀ one_lt_two).1 (h.trans_lt h')
  push_cast at hlt
  omega

theorem unique (h : RoundsTo r y) (h' : RoundsTo r y') : y = y' := by
  obtain ⟨n, e, hmin, hmax, hn, rfl⟩ := h
  obtain ⟨n', e', hmin', hmax', hn', rfl⟩ := h'
  obtain rfl : e = e' := le_antisymm (le_of_bits hmin hmax') (le_of_bits hmin' hmax)
  rw [hn.unique hn']

theorem le_two_mul (h : RoundsTo r y) : r ≤ 2 * y := by
  obtain ⟨n, e, hmin, -, hn, rfl⟩ := h
  have hle : r / 2 ^ e ≤ 2 * n := by linarith [hn.sub_le]
  rw [div_le_iff₀ (by positivity)] at hle
  linarith

/-- Rounding hardly makes a magnitude greater. -/
theorem le_mul (h : RoundsTo r y) : y ≤ r * (1 + 2 ^ (-53 : ℤ)) := by
  obtain ⟨n, e, hmin, -, hn, rfl⟩ := h
  have hpos : (0 : ℚ) < 2 ^ e := by positivity
  have hhalf : (1 : ℚ) / 2 ≤ r / 2 ^ e * 2 ^ (-53 : ℤ) :=
    calc (1 : ℚ) / 2 = 2 ^ 52 * 2 ^ (-53 : ℤ) := by norm_num
      _ ≤ r / 2 ^ e * 2 ^ (-53 : ℤ) := by gcongr
  calc (n : ℚ) * 2 ^ e ≤ (r / 2 ^ e + 1 / 2) * 2 ^ e :=
        mul_le_mul_of_nonneg_right hn.le_add hpos.le
    _ ≤ (r / 2 ^ e + r / 2 ^ e * 2 ^ (-53 : ℤ)) * 2 ^ e :=
        mul_le_mul_of_nonneg_right (by linarith) hpos.le
    _ = r / 2 ^ e * 2 ^ e * (1 + 2 ^ (-53 : ℤ)) := by ring
    _ = r * (1 + 2 ^ (-53 : ℤ)) := by rw [div_mul_cancel₀ _ hpos.ne']

end RoundsTo

/-! ## Ranges -/

/-- The middle between the greatest double and the next power of two. -/
def limit : ℚ := 2 ^ (1024 : ℤ) - 2 ^ (970 : ℤ)

/-- Whether a significand with a power of ten is within range: their roundings have a product below
the limit. Nothing is too great without a significand, or with a negative power. -/
def InRange (significand : ℕ) (power : ℤ) : Prop :=
  significand = 0 ∨ power < 0 ∨
    ∃ a b, RoundsTo significand a ∧ RoundsTo (10 ^ power) b ∧ a * b < limit

end RequestBinding.Binary64
