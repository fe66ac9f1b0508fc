import Mathlib.Data.List.Induction
import Mathlib.Data.Nat.Digits.Defs
import RequestBinding.User

/-!
# Integers in decimal

Digits with a sign or without one denote an integer, however many zeros they begin with. What is
read is this integer if it has 64 bits with its sign, and nothing otherwise.

## Main definitions

* `Decimal.IsDigits`, `Decimal.value` - digits and their value
* `Decimal.Denotes` - the integer that a text denotes

## Main statements

* `Decimal.digitsValue?_eq_some_iff` - the digits that are read, and their value
* `Decimal.parseInt64?_eq_some_iff` - the integers that are read
* `Decimal.parseInt64?_of_isDigits` - digits without a sign
-/

namespace RequestBinding.Decimal

/-- Decimal digits, at least one. -/
def IsDigits (ds : List Char) : Prop := ds ≠ [] ∧ ∀ d ∈ ds, d.isDigit = true

/-- The value of decimal digits, the most significant one first. -/
def value (ds : List Char) : Nat := Nat.ofDigits 10 (ds.reverse.map fun d => d.toNat - '0'.toNat)

/-- A text denotes an integer: digits, behind a sign or without one. -/
inductive Denotes : List Char → Int → Prop
  | unsigned {ds : List Char} (h : IsDigits ds) : Denotes ds (value ds)
  | plus {ds : List Char} (h : IsDigits ds) : Denotes ('+' :: ds) (value ds)
  | minus {ds : List Char} (h : IsDigits ds) : Denotes ('-' :: ds) (-(value ds : Int))

theorem isDigits_iff {ds : List Char} :
    (ds.isEmpty || !ds.all Char.isDigit) = false ↔ IsDigits ds := by
  simp [IsDigits]

theorem value_append_singleton (ds : List Char) (d : Char) :
    value (ds ++ [d]) = value ds * 10 + (d.toNat - '0'.toNat) := by
  rw [value, List.reverse_append, List.reverse_singleton, List.singleton_append, List.map_cons,
    Nat.ofDigits_cons, Nat.add_comm, Nat.mul_comm, value]

theorem foldl_eq_value (ds : List Char) :
    ds.foldl (fun n d => n * 10 + (d.toNat - '0'.toNat)) 0 = value ds := by
  induction ds using List.reverseRecOn with
  | nil => rfl
  | append_singleton ds d ih =>
    rw [List.foldl_append, ih, List.foldl_cons, List.foldl_nil, value_append_singleton]

/-- Digits are read as their value. -/
theorem digitsValue?_eq_some_iff {ds : List Char} {n : Nat} :
    digitsValue? ds = some n ↔ IsDigits ds ∧ value ds = n := by
  rw [digitsValue?, foldl_eq_value, ← isDigits_iff]
  cases ds.isEmpty || !ds.all Char.isDigit <;> simp

/-- What is taken for an integer is an integer value of 64 bits with its sign. -/
theorem int64?_eq_some_iff {v : Json} {n : Int} :
    v.int64? = some n ↔ v = .int n ∧ -2 ^ 63 ≤ n ∧ n ≤ 2 ^ 63 - 1 := by
  cases v with
  | int m =>
    have hrange : (decide (Json.int64Min ≤ m) && decide (m ≤ Json.int64Max)) = true ↔
        -2 ^ 63 ≤ m ∧ m ≤ 2 ^ 63 - 1 := by
      rw [Bool.and_eq_true, decide_eq_true_eq, decide_eq_true_eq]
      rfl
    rw [Json.int64?, Option.ite_none_right_eq_some, hrange, Option.some.injEq, Json.int.injEq]
    constructor
    · rintro ⟨hm, rfl⟩
      exact ⟨rfl, hm⟩
    · rintro ⟨rfl, hm⟩
      exact ⟨hm, rfl⟩
  | _ => simp [Json.int64?]

/-- Digits behind a sign are read as the integer that the sign makes of their value. -/
theorem signed_eq_some_iff (sign : Nat → Int) {ds : List Char} {n : Int} :
    (match digitsValue? ds with
      | none => none
      | some m => (Json.int (sign m)).int64?) = some n ↔
      (IsDigits ds ∧ n = sign (value ds)) ∧ -2 ^ 63 ≤ n ∧ n ≤ 2 ^ 63 - 1 := by
  split
  · next hnone =>
    have hdigits : ¬IsDigits ds := fun h => by
      rw [digitsValue?_eq_some_iff.2 ⟨h, rfl⟩] at hnone
      cases hnone
    simp [hdigits]
  · next m hm =>
    obtain ⟨hdigits, rfl⟩ := digitsValue?_eq_some_iff.1 hm
    rw [int64?_eq_some_iff, Json.int.injEq, and_iff_right hdigits, eq_comm]

/-! ## Texts -/

theorem denotes_minus_iff {ds : List Char} {n : Int} :
    Denotes ('-' :: ds) n ↔ IsDigits ds ∧ n = -(value ds : Int) := by
  constructor
  · rintro (h | h | h)
    · exact absurd (h.2 '-' List.mem_cons_self) (by decide)
    · exact ⟨h, rfl⟩
  · rintro ⟨h, rfl⟩
    exact .minus h

theorem denotes_plus_iff {ds : List Char} {n : Int} :
    Denotes ('+' :: ds) n ↔ IsDigits ds ∧ n = value ds := by
  constructor
  · rintro (h | h | h)
    · exact absurd (h.2 '+' List.mem_cons_self) (by decide)
    · exact ⟨h, rfl⟩
  · rintro ⟨h, rfl⟩
    exact .plus h

theorem denotes_unsigned_iff {cs : List Char} (hminus : ∀ ds, cs ≠ '-' :: ds)
    (hplus : ∀ ds, cs ≠ '+' :: ds) {n : Int} : Denotes cs n ↔ IsDigits cs ∧ n = value cs := by
  constructor
  · rintro (h | h | h)
    · exact ⟨h, rfl⟩
    · exact absurd rfl (hplus _)
    · exact absurd rfl (hminus _)
  · rintro ⟨h, rfl⟩
    exact .unsigned h

/-- What is read is the integer that a text denotes, if it has 64 bits with its sign. -/
theorem parseInt64?_eq_some_iff {s : String} {n : Int} : parseInt64? s = some n ↔
    Denotes s.toList n ∧ -2 ^ 63 ≤ n ∧ n ≤ 2 ^ 63 - 1 := by
  unfold parseInt64?
  split
  next negative ds hsign =>
  split at hsign
  · next rest hs =>
    cases hsign
    rw [hs, denotes_minus_iff]
    exact signed_eq_some_iff fun m => -(m : Int)
  · next rest hs =>
    cases hsign
    rw [hs, denotes_plus_iff]
    exact signed_eq_some_iff fun m => (m : Int)
  · next hminus hplus =>
    cases hsign
    rw [denotes_unsigned_iff hminus hplus]
    exact signed_eq_some_iff fun m => (m : Int)

theorem denotes_iff_of_isDigits {ds : List Char} (h : IsDigits ds) {n : Int} :
    Denotes ds n ↔ n = value ds := by
  have hne : ∀ c, c.isDigit = false → ∀ rest, ds ≠ c :: rest := by
    rintro c hc rest rfl
    exact Bool.false_ne_true (hc.symm.trans (h.2 c List.mem_cons_self))
  rw [denotes_unsigned_iff (hne '-' rfl) (hne '+' rfl), and_iff_right h]

/-- Digits without a sign are read if their value is not too large. -/
theorem parseInt64?_of_isDigits {s : String} (h : IsDigits s.toList) : parseInt64? s =
    if value s.toList ≤ 2 ^ 63 - 1 then some (value s.toList : Int) else none := by
  split
  · next hle => exact parseInt64?_eq_some_iff.2 ⟨.unsigned h, by omega, by omega⟩
  · next hlarge =>
    rw [Option.eq_none_iff_forall_ne_some]
    intro n hn
    obtain ⟨hdenotes, _, hmax⟩ := parseInt64?_eq_some_iff.1 hn
    rw [denotes_iff_of_isDigits h] at hdenotes
    omega

end RequestBinding.Decimal
