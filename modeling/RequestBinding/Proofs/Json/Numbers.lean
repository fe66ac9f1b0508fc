import RequestBinding.Proofs.Json.Grammar
import RequestBinding.Proofs.Number.Range
import RequestBinding.Proofs.Text.Cutting

/-!
# Reading numbers

A number is read if it is a literal of the grammar within the range of doubles. The digits of a
literal are gathered into its significand, and what has no room there is dropped; an exponent counts
with its sign.

## Main statements

* `Json.gather_append` - digits are gathered up to what follows them
* `Json.Literal.Keeps.gather_eq`, `Json.Literal.exists_keeps` - what is gathered is the longest
  beginning that has room
* `Json.exists_ofDecimal_addExponent_iff` - exponents within 32 bits
* `Json.exists_literal_of_number` - what is read is a literal within range
* `Json.exists_number` - literals within range are read
-/

namespace RequestBinding.Json

open Literal (InRange exponentText fractionText)

/-! ## Digits -/

/-- A text that does not begin with a digit. -/
def NoDigit (cs : List Char) : Prop := cs.head?.any Char.isDigit = false

theorem noDigit_iff {cs : List Char} : NoDigit cs ↔ ∀ c ∈ cs.head?, c.isDigit = false := by
  cases cs <;> simp [NoDigit]

theorem takeWhile_digits {ds rest : List Char} (hds : ∀ c ∈ ds, c.isDigit = true)
    (hrest : NoDigit rest) : (ds ++ rest).takeWhile Char.isDigit = ds ∧
      (ds ++ rest).dropWhile Char.isDigit = rest :=
  takeWhile_append_of_head? hds (noDigit_iff.1 hrest)

theorem exists_digits (cs : List Char) : ∃ ds rest, cs = ds ++ rest ∧
    (∀ c ∈ ds, c.isDigit = true) ∧ NoDigit rest := by
  obtain ⟨rest, hcs, hds, hrest⟩ := exists_takeWhile Char.isDigit cs
  exact ⟨_, rest, hcs, hds, noDigit_iff.2 hrest⟩

/-- Digits are gathered up to what follows them. -/
theorem gather_append (n k : Nat) (ds : List Char) {rest : List Char} (hrest : NoDigit rest) :
    gather n k (ds ++ rest) =
      ((gather n k ds).1, (gather n k ds).2.1, (gather n k ds).2.2 ++ rest) := by
  induction ds generalizing n k with
  | nil =>
    cases rest with
    | nil => rfl
    | cons c rest =>
      have hc : c.isDigit = false := hrest
      simp [gather, hc]
  | cons c ds ih =>
    rw [List.cons_append, gather, gather]
    split
    · exact ih _ _
    · rfl

/-- Each digit is either gathered or dropped. -/
theorem gather_count (n k : Nat) (ds : List Char) :
    (gather n k ds).2.1 + (gather n k ds).2.2.length = k + ds.length := by
  induction ds generalizing n k with
  | nil => rfl
  | cons c ds ih =>
    rw [gather]
    split
    · rw [ih, List.length_cons]
      omega
    · rfl

/-- What is gathered has 64 bits. -/
theorem gathered_le {n : Nat} (hn : n ≤ significandMax) (k : Nat) (ds : List Char) :
    (gather n k ds).1 ≤ significandMax := by
  induction ds generalizing n k with
  | nil => exact hn
  | cons c ds ih =>
    rw [gather]
    split
    · next h =>
      simp only [Bool.and_eq_true, decide_eq_true_eq] at h
      exact ih h.2 (k + 1)
    · exact hn

theorem mem_of_mem_dropped {n k : Nat} {ds : List Char} {c : Char}
    (h : c ∈ (gather n k ds).2.2) : c ∈ ds := by
  induction ds generalizing n k with
  | nil => exact h
  | cons d ds ih =>
    rw [gather] at h
    split at h
    · exact List.mem_cons_of_mem d (ih h)
    · exact h

theorem le_foldl_digits (n : Nat) (ds : List Char) :
    n ≤ ds.foldl (fun n c => n * 10 + digitValue c) n := by
  induction ds generalizing n with
  | nil => exact Nat.le_refl n
  | cons c ds ih =>
    have h := ih (n * 10 + digitValue c)
    rw [List.foldl_cons]
    omega

/-- No digit is dropped if the significand has room for all of them. -/
theorem dropped_eq_nil_iff {n k : Nat} {ds : List Char} (hn : n ≤ significandMax)
    (hds : ∀ c ∈ ds, c.isDigit = true) : (gather n k ds).2.2 = [] ↔
      ds.foldl (fun n c => n * 10 + digitValue c) n ≤ significandMax := by
  induction ds generalizing n k with
  | nil => simp [gather, hn]
  | cons c ds ih =>
    have hc := hds c List.mem_cons_self
    rw [gather, List.foldl_cons]
    by_cases hfits : n * 10 + digitValue c ≤ significandMax
    · rw [if_pos (by simp [hc, hfits])]
      exact ih hfits fun d hd => hds d (List.mem_cons_of_mem c hd)
    · rw [if_neg (by simp [hfits])]
      have hle := le_foldl_digits (n * 10 + digitValue c) ds
      simp only [List.cons_ne_nil, false_iff]
      omega

theorem digitsValue_concat (ds : List Char) (c : Char) :
    digitsValue (ds ++ [c]) = digitsValue ds * 10 + digitValue c := List.foldl_concat ..

theorem digitsValue_le_append (ds ds' : List Char) : digitsValue ds ≤ digitsValue (ds ++ ds') := by
  rw [digitsValue, digitsValue, List.foldl_append]
  exact le_foldl_digits _ ds'

theorem le_significandMax_iff (n : Nat) : n ≤ significandMax ↔ n < 2 ^ 64 := by
  rw [significandMax]
  omega

namespace Literal

variable {before ds kept dropped : List Char}

/-- The longest beginning of digits that has room is what is gathered. -/
theorem Keeps.gather_eq (h : Keeps before ds kept dropped) (hds : ∀ c ∈ ds, c.isDigit = true)
    (k : Nat) : gather (digitsValue before) k ds =
      (digitsValue (before ++ kept), k + kept.length, dropped) := by
  induction kept generalizing before ds k with
  | nil =>
    obtain ⟨heq, _, hfull⟩ := h
    rw [heq, List.nil_append, List.append_nil]
    cases dropped with
    | nil => rfl
    | cons c dropped =>
      have hc := hfull c rfl
      rw [List.nil_append, digitsValue_concat] at hc
      rw [gather, if_neg]
      · rfl
      · rw [Bool.and_eq_true, decide_eq_true_eq, le_significandMax_iff]
        exact fun hroom => absurd hroom.2 (not_lt.2 hc)
  | cons c kept ih =>
    obtain ⟨rfl, hroom, hfull⟩ := h
    rw [List.append_cons] at hroom
    have hnext : Keeps (before ++ [c]) (kept ++ dropped) kept dropped := by
      refine ⟨rfl, hroom, fun d hd => ?_⟩
      rw [← List.append_cons, ← List.cons_append]
      exact hfull d hd
    have hlt : digitsValue before * 10 + digitValue c < 2 ^ 64 := by
      rw [← digitsValue_concat]
      exact (digitsValue_le_append _ kept).trans_lt hroom
    rw [List.cons_append, gather, if_pos]
    · rw [← digitsValue_concat, ih hnext (fun d hd => hds d (List.mem_cons_of_mem c hd)),
        ← List.append_cons, List.length_cons, Nat.add_assoc, Nat.add_comm 1]
    · rw [Bool.and_eq_true, decide_eq_true_eq, le_significandMax_iff]
      exact ⟨hds c List.mem_cons_self, hlt⟩

/-- Some beginning of digits is the longest one that has room. -/
theorem exists_keeps (before ds : List Char) (hbefore : digitsValue before < 2 ^ 64) :
    ∃ kept dropped, Keeps before ds kept dropped := by
  induction ds generalizing before with
  | nil => exact ⟨[], [], rfl, by rwa [List.append_nil], nofun⟩
  | cons c ds ih =>
    by_cases hc : digitsValue (before ++ [c]) < 2 ^ 64
    · obtain ⟨kept, dropped, rfl, hroom, hfull⟩ := ih _ hc
      refine ⟨c :: kept, dropped, rfl, ?_, fun d hd => ?_⟩
      · rwa [List.append_cons]
      · rw [List.cons_append, List.append_cons]
        exact hfull d hd
    · refine ⟨[], c :: ds, rfl, by rwa [List.append_nil], ?_⟩
      rintro _ ⟨⟩
      exact not_lt.1 hc

/-- The significand and the power of ten that are gathered. -/
def gathered (x : Literal) : Nat × Int :=
  let (n, _, dropped) := gather 0 0 x.whole
  let (m, count, _) := gather n 0 x.fraction
  (m, dropped.length - count)

theorem gathered_of_nil {x : Literal} (h : x.fraction = []) :
    x.gathered = ((gather 0 0 x.whole).1, ((gather 0 0 x.whole).2.2.length : Int)) := by
  simp [gathered, h, gather]

theorem gathered_lt (x : Literal) : x.gathered.1 < 2 ^ 64 := by
  have h := gathered_le (gathered_le (Nat.zero_le _) 0 x.whole) 0 x.fraction
  exact (le_significandMax_iff _).1 h

theorem Proper.gathered_of_keeps {x : Literal} (hx : x.Proper)
    {whole dropped fraction dropped' : List Char} (hwhole : Keeps [] x.whole whole dropped)
    (hfraction : Keeps whole x.fraction fraction dropped') :
    x.gathered = (digitsValue (whole ++ fraction), (dropped.length : Int) - fraction.length) := by
  have hfirst : gather 0 0 x.whole = (digitsValue whole, 0 + whole.length, dropped) :=
    hwhole.gather_eq hx.whole.2 0
  rw [gathered, hfirst]
  simp only [hfraction.gather_eq hx.fraction 0, Nat.zero_add]

/-- The digits of a literal are gathered into its significand. -/
theorem Proper.isDecimal_iff {x : Literal} (hx : x.Proper) {m : Nat} {power : Int} :
    x.IsDecimal m power ↔ m = x.gathered.1 ∧ power = x.gathered.2 := by
  constructor
  · rintro ⟨whole, dropped, fraction, dropped', hwhole, hfraction, rfl, rfl⟩
    rw [hx.gathered_of_keeps hwhole hfraction]
    exact ⟨rfl, rfl⟩
  · rintro ⟨rfl, rfl⟩
    obtain ⟨whole, dropped, hwhole⟩ := exists_keeps [] x.whole (by decide)
    obtain ⟨fraction, dropped', hfraction⟩ := exists_keeps whole x.fraction hwhole.room
    rw [hx.gathered_of_keeps hwhole hfraction]
    exact ⟨whole, dropped, fraction, dropped', hwhole, hfraction, rfl, rfl⟩

theorem Proper.fits_iff {x : Literal} (hx : x.Proper) :
    x.Fits ↔ InRange x.gathered.1 x.gathered.2 x.exponent := by
  constructor
  · rintro ⟨m, power, hdecimal, hrange⟩
    obtain ⟨rfl, rfl⟩ := hx.isDecimal_iff.1 hdecimal
    exact hrange
  · exact fun hrange => ⟨_, _, hx.isDecimal_iff.2 ⟨rfl, rfl⟩, hrange⟩

end Literal

/-- The numbers that digits may be read as: whole ones, or doubles with a significand that has
room. -/
inductive FromDigits (negative : Bool) : Json → Prop
  | whole {n : Nat} (hn : n ≤ significandMax) : FromDigits negative (wholeNumber negative n)
  | zero : FromDigits negative (.float (Binary64.zero negative))
  | decimal {n : Nat} (hn : n ≤ significandMax) {e : Int} {x : Binary64}
      (hx : Binary64.ofDecimal negative n e = some x) : FromDigits negative (.float x)

theorem FromDigits.ne_obj {negative : Bool} {v : Json} (h : FromDigits negative v)
    (members : List (String × Json)) : v ≠ .obj members := by
  cases h with
  | whole =>
    rw [wholeNumber]
    split
    · nofun
    · split <;> nofun
  | zero => nofun
  | decimal => nofun

/-! ## Exponents -/

/-- Keeping an exponent within 32 bits does not matter for the range of doubles. -/
theorem inRange_addExponent_iff {m : Nat} (hm : m < 2 ^ 64) (start written : Int) :
    Binary64.InRange m (addExponent start written) ↔ Binary64.InRange m (start + written) := by
  rw [addExponent, exponentMax]
  rcases lt_trichotomy (start + written) (-2147483647 - 1) with hlow | hsame | hhigh
  · exact iff_of_true (.inr (.inl (by omega))) (.inr (.inl (by omega)))
  · rw [hsame]
    exact Iff.rfl
  · by_cases hmax : start + written ≤ 2147483647
    · rw [min_eq_right hmax, max_eq_right hhigh.le]
    · exact ⟨fun h => .inl (h.eq_zero hm (by omega)), fun h => .inl (h.eq_zero hm (by omega))⟩

theorem exponentMax_lt_iff (n : Nat) : exponentMax < n ↔ ¬n < 2 ^ 31 := by
  rw [exponentMax]
  omega

theorem exists_ofDecimal_addExponent_iff (negative : Bool) {m : Nat} (hm : m < 2 ^ 64)
    (start written : Int) : (∃ x, Binary64.ofDecimal negative m (addExponent start written) =
      some x) ↔ Binary64.InRange m (start + written) := by
  rw [Binary64.exists_ofDecimal_iff negative hm, inRange_addExponent_iff hm]

/-- What follows the sign of an exponent. -/
theorem exponentPart_eq (negative : Bool) (n : Nat) (start : Int) {letter : Char}
    (hletter : letter = 'e' ∨ letter = 'E') {sign ds rest : List Char}
    (hsign : sign = [] ∨ sign = ['+'] ∨ sign = ['-']) (hds : ∀ c ∈ ds, c.isDigit = true)
    (hrest : NoDigit rest) (hnone : sign = [] → ∀ c ∈ (ds ++ rest).head?, c ≠ '+' ∧ c ≠ '-') :
    exponentPart negative n start (letter :: (sign ++ (ds ++ rest))) =
      if ds = [] then none
      else if exponentMax < digitsValue ds then
        if n = 0 ∨ sign = ['-'] then some (.float (Binary64.zero negative), rest) else none
      else
        (Binary64.ofDecimal negative n (addExponent start (Exponent.value ⟨letter, sign, ds⟩))).map
          fun x => (.float x, rest) := by
  obtain ⟨htake, hdrop⟩ := takeWhile_digits hds hrest
  have hmark : (letter == 'e' || letter == 'E') = true := by
    rcases hletter with rfl | rfl <;> rfl
  rcases hsign with rfl | rfl | rfl
  · rw [List.nil_append, exponentPart, if_pos hmark]
    · simp only [htake, hdrop]
      by_cases hn : n = 0 <;> simp [hn, Exponent.value]
    · intro more heq
      exact (hnone rfl '+' (by rw [heq]; rfl)).1 rfl
    · intro more heq
      exact (hnone rfl '-' (by rw [heq]; rfl)).2 rfl
  · rw [List.singleton_append, exponentPart, if_pos hmark]
    simp only [htake, hdrop]
    by_cases hn : n = 0 <;> simp [hn, Exponent.value]
  · rw [List.singleton_append, exponentPart, if_pos hmark]
    simp only [htake, hdrop]
    simp [Exponent.value]

/-- The letters that begin an exponent. -/
def isExponentLetter (c : Char) : Bool := c == 'e' || c == 'E'

theorem exponentPart_of_not (negative : Bool) (n : Nat) (start : Int) {rest : List Char}
    (h : rest.head?.any isExponentLetter = false) : exponentPart negative n start rest =
      (Binary64.ofDecimal negative n start).map fun x => (.float x, rest) := by
  cases rest with
  | nil => rfl
  | cons c rest =>
    have hc : ¬(c == 'e' || c == 'E') = true := by
      rw [Bool.not_eq_true]
      exact h
    unfold exponentPart
    exact if_neg hc

/-- A text is a sign and what does not begin with one. -/
theorem exists_sign (cs : List Char) : ∃ sign more, cs = sign ++ more ∧
    (sign = [] ∨ sign = ['+'] ∨ sign = ['-']) ∧
    (sign = [] → ∀ c ∈ more.head?, c ≠ '+' ∧ c ≠ '-') := by
  by_cases hplus : cs.head? = some '+'
  · obtain ⟨more, rfl⟩ := List.head?_eq_some_iff.1 hplus
    exact ⟨['+'], more, rfl, .inr (.inl rfl), nofun⟩
  · by_cases hminus : cs.head? = some '-'
    · obtain ⟨more, rfl⟩ := List.head?_eq_some_iff.1 hminus
      exact ⟨['-'], more, rfl, .inr (.inr rfl), nofun⟩
    · refine ⟨[], cs, rfl, .inl rfl, fun _ c hc => ⟨?_, ?_⟩⟩
      · rintro rfl
        exact hplus hc
      · rintro rfl
        exact hminus hc

/-- What is read as an exponent, or as none, is one within range. -/
theorem exists_exponent_of_exponentPart {negative : Bool} {n : Nat} (hn : n ≤ significandMax)
    {start : Int} {cs rest : List Char} {v : Json}
    (h : exponentPart negative n start cs = some (v, rest)) :
    FromDigits negative v ∧ ∃ e : Option Exponent, (∀ x ∈ e, x.Proper) ∧
      InRange n start e ∧ cs = exponentText e ++ rest := by
  have hlt := (le_significandMax_iff n).1 hn
  cases hletter : cs.head?.any isExponentLetter with
  | false =>
    rw [exponentPart_of_not negative n start hletter] at h
    obtain ⟨x, hx, heq⟩ := Option.map_eq_some_iff.1 h
    cases heq
    exact ⟨.decimal hn hx, none, nofun, (Binary64.exists_ofDecimal_iff negative hlt start).1 ⟨x, hx⟩,
      rfl⟩
  | true =>
    obtain ⟨letter, hhead, hletter⟩ := (Option.any_eq_true _ _).1 hletter
    obtain ⟨more, rfl⟩ := List.head?_eq_some_iff.1 hhead
    have hletter' : letter = 'e' ∨ letter = 'E' := by
      simpa [isExponentLetter] using hletter
    obtain ⟨sign, more, rfl, hsign, hnone⟩ := exists_sign more
    obtain ⟨ds, after, rfl, hds, hafter⟩ := exists_digits more
    rw [exponentPart_eq negative n start hletter' hsign hds hafter hnone] at h
    have htext : letter :: (sign ++ (ds ++ after)) =
        exponentText (some ⟨letter, sign, ds⟩) ++ after := by
      simp [exponentText, Exponent.text]
    split at h
    · cases h
    · next hne =>
      have hproper : ∀ x ∈ some (Exponent.mk letter sign ds), x.Proper := by
        rintro _ ⟨⟩
        exact ⟨hletter', hsign, hne, hds⟩
      split at h
      · next hmax =>
        split at h
        · next hzero =>
          cases h
          exact ⟨.zero, _, hproper, by rwa [InRange, if_neg ((exponentMax_lt_iff _).1 hmax)], htext⟩
        · cases h
      · next hmax =>
        obtain ⟨x, hx, heq⟩ := Option.map_eq_some_iff.1 h
        cases heq
        have hrange := (exists_ofDecimal_addExponent_iff negative hlt start _).1 ⟨x, hx⟩
        have hmax' := not_not.1 (mt (exponentMax_lt_iff _).2 hmax)
        exact ⟨.decimal hn hx, _, hproper, by rwa [InRange, if_pos hmax'], htext⟩

/-- The characters that follow the whole digits of a literal that has to be a double. -/
def continuesWhole (c : Char) : Bool := c == '.' || isExponentLetter c

/-- The characters that a number may be continued with. -/
def continuesNumber (c : Char) : Bool := c.isDigit || continuesWhole c

/-- A text that does not continue a number. -/
def EndsNumber (cs : List Char) : Prop := cs.head?.any continuesNumber = false

theorem EndsNumber.not_any {cs : List Char} (h : EndsNumber cs) {p : Char → Bool}
    (hp : ∀ c, p c = true → continuesNumber c = true) : cs.head?.any p = false := by
  rw [← Bool.not_eq_true]
  intro hany
  obtain ⟨c, hc, hpc⟩ := (Option.any_eq_true _ _).1 hany
  rw [EndsNumber, hc, Option.any_some, hp c hpc] at h
  cases h

theorem EndsNumber.noDigit {cs : List Char} (h : EndsNumber cs) : NoDigit cs :=
  h.not_any fun c hc => by simp [continuesNumber, hc]

theorem EndsNumber.noExponent {cs : List Char} (h : EndsNumber cs) :
    cs.head?.any isExponentLetter = false :=
  h.not_any fun c hc => by simp [continuesNumber, continuesWhole, hc]

theorem ne_sign_of_isDigit {c : Char} (h : c.isDigit = true) : c ≠ '+' ∧ c ≠ '-' := by
  constructor <;> rintro rfl <;> cases h

/-- An exponent within range, or none, is read up to the end of the number, wherever that is. -/
theorem exists_exponentPart (negative : Bool) {n : Nat} (hn : n < 2 ^ 64) {start : Int}
    {e : Option Exponent} (he : ∀ x ∈ e, x.Proper) (hrange : InRange n start e) :
    ∃ v, ∀ rest, EndsNumber rest →
      exponentPart negative n start (exponentText e ++ rest) = some (v, rest) := by
  cases e with
  | none =>
    obtain ⟨x, hx⟩ := (Binary64.exists_ofDecimal_iff negative hn start).2 hrange
    refine ⟨.float x, fun rest hrest => ?_⟩
    rw [exponentText, Option.elim_none, List.nil_append,
      exponentPart_of_not negative n start hrest.noExponent, hx, Option.map_some]
  | some x =>
    obtain ⟨letter, sign, ds⟩ := x
    obtain ⟨hletter, hsign, hne, hds⟩ := he _ rfl
    have hnone : ∀ rest : List Char, sign = [] → ∀ c ∈ (ds ++ rest).head?, c ≠ '+' ∧ c ≠ '-' := by
      intro rest _ c hc
      obtain ⟨d, ds, rfl⟩ := List.exists_cons_of_ne_nil hne
      cases hc
      exact ne_sign_of_isDigit (hds c List.mem_cons_self)
    have htext : ∀ rest, exponentText (some ⟨letter, sign, ds⟩) ++ rest =
        letter :: (sign ++ (ds ++ rest)) := by
      simp [exponentText, Exponent.text]
    have heq := fun rest (hrest : EndsNumber rest) =>
      exponentPart_eq negative n start hletter hsign hds hrest.noDigit (hnone rest)
    simp only [htext]
    rw [InRange] at hrange
    split at hrange
    · next hmax =>
      obtain ⟨x, hx⟩ := (exists_ofDecimal_addExponent_iff negative hn start _).2 hrange
      refine ⟨.float x, fun rest hrest => ?_⟩
      rw [heq rest hrest, if_neg hne, if_neg (mt (exponentMax_lt_iff _).1 (not_not.2 hmax)), hx]
      rfl
    · next hmax =>
      refine ⟨.float (Binary64.zero negative), fun rest hrest => ?_⟩
      rw [heq rest hrest, if_neg hne, if_pos ((exponentMax_lt_iff _).2 hmax), if_pos hrange]

/-! ## Literals -/

/-- The digits behind the point are gathered behind those before it. -/
theorem fractionPart_eq (negative : Bool) (n : Nat) (start : Int) {fraction rest : List Char}
    (hfraction : ∀ c ∈ fraction, c.isDigit = true) (hrest : NoDigit rest) :
    fractionPart negative n start (fraction ++ rest) =
      if fraction = [] then none
      else
        exponentPart negative (gather n 0 fraction).1 (start - (gather n 0 fraction).2.1) rest := by
  have hdropped : ∀ c ∈ (gather n 0 fraction).2.2, c.isDigit = true :=
    fun c hc => hfraction c (mem_of_mem_dropped hc)
  have hcount := gather_count n 0 fraction
  simp only [fractionPart, gather_append n 0 fraction hrest, (takeWhile_digits hdropped hrest).2]
  cases fraction with
  | nil => simp [gather]
  | cons c fraction =>
    rw [if_neg, if_neg (List.cons_ne_nil c fraction)]
    -- a digit is gathered or dropped
    simp only [Bool.and_eq_true, beq_iff_eq, List.length_append, List.length_cons] at hcount ⊢
    omega

theorem longPart_of_ne (negative : Bool) (n : Nat) (start : Int) {cs : List Char}
    (h : cs.head? ≠ some '.') :
    longPart negative n start cs = exponentPart negative n start cs := by
  unfold longPart
  split
  · exact absurd rfl h
  · rfl

/-- A zero is gathered like any other digits, since no digit may follow it. -/
theorem gathered_eq {c : Char} {ds rest : List Char}
    (hzero : c = '0' → ds = []) (hrest : NoDigit rest) :
    (if c == '0' then (0, 1, ds ++ rest) else gather 0 0 (c :: (ds ++ rest))) =
      let gathered := gather 0 0 (c :: ds)
      (gathered.1, gathered.2.1, gathered.2.2 ++ rest) := by
  by_cases hc : c = '0'
  · rw [if_pos (beq_iff_eq.2 hc), hc, hzero hc]
    rfl
  · rw [if_neg (mt beq_iff_eq.1 hc), ← List.cons_append]
    exact gather_append 0 0 (c :: ds) hrest

/-- A number is read by its whole digits and what follows them. -/
theorem number_eq (negative : Bool) {whole rest : List Char} (hwhole : IsDigits whole)
    (hzero : whole.head? = some '0' → whole = ['0']) (hrest : NoDigit rest) :
    number negative (whole ++ rest) =
      if (gather 0 0 whole).2.2 = [] ∧ rest.head?.any continuesWhole = false then
        some (wholeNumber negative (gather 0 0 whole).1, rest)
      else longPart negative (gather 0 0 whole).1 (gather 0 0 whole).2.2.length rest := by
  obtain ⟨hne, hdigits⟩ := hwhole
  obtain ⟨c, ds, rfl⟩ := List.exists_cons_of_ne_nil hne
  have hc := hdigits c List.mem_cons_self
  have hzero' : c = '0' → ds = [] := fun h => (List.cons.inj (hzero (congrArg some h))).2
  have hdropped : ∀ d ∈ (gather 0 0 (c :: ds)).2.2, d.isDigit = true :=
    fun d hd => hdigits d (mem_of_mem_dropped hd)
  simp only [List.cons_append, number, hc, gathered_eq hzero' hrest, Bool.not_true,
    Bool.false_eq_true, if_false]
  cases hextra : (gather 0 0 (c :: ds)).2.2 with
  | nil =>
    cases rest with
    | nil => rfl
    | cons d more =>
      have hd : d.isDigit = false := hrest
      have hmark : (d == '.' || d == 'e' || d == 'E') = continuesWhole d := Bool.or_assoc ..
      simp only [List.nil_append, hd, hmark, List.head?_cons, Option.any_some]
      cases continuesWhole d <;> rfl
  | cons d more =>
    have hc0 : c ≠ '0' := by
      rintro rfl
      rw [hzero' rfl] at hextra
      cases hextra
    rw [hextra] at hdropped
    have hd := hdropped d List.mem_cons_self
    obtain ⟨htake, hdrop⟩ := takeWhile_digits hdropped hrest
    rw [List.cons_append] at htake hdrop ⊢
    simp only [hd, if_true, htake, hdrop, beq_iff_eq, hc0, if_false]
    rw [if_neg (by simp)]

/-- A number has digits where it begins, and no zero before other digits. -/
theorem isDigits_of_number {negative : Bool} {whole rest : List Char} {r : Json × List Char}
    (h : number negative (whole ++ rest) = some r) (hdigits : ∀ c ∈ whole, c.isDigit = true)
    (hrest : NoDigit rest) : IsDigits whole ∧ (whole.head? = some '0' → whole = ['0']) := by
  cases whole with
  | nil =>
    cases rest with
    | nil => cases h
    | cons c rest =>
      have hc : c.isDigit = false := hrest
      rw [List.nil_append, number, hc, if_pos (by rfl)] at h
      cases h
  | cons c ds =>
    refine ⟨⟨List.cons_ne_nil c ds, hdigits⟩, fun hzero => ?_⟩
    obtain rfl : c = '0' := Option.some.inj hzero
    cases ds with
    | nil => rfl
    | cons d ds =>
      have hd : d.isDigit = true := hdigits d (by simp)
      simp [number, hd] at h

/-- What is read as a number is a literal within range. -/
theorem exists_literal_of_number {negative : Bool} {cs rest : List Char} {v : Json}
    (h : number negative cs = some (v, rest)) : FromDigits negative v ∧
      ∃ x : Literal, x.negative = negative ∧ x.Proper ∧ x.Fits ∧ cs = x.magnitude ++ rest := by
  obtain ⟨whole, after, rfl, hdigits, hafter⟩ := exists_digits cs
  obtain ⟨hwhole, hzero⟩ := isDigits_of_number h hdigits hafter
  have hroom : (gather 0 0 whole).1 ≤ significandMax := gathered_le (Nat.zero_le _) 0 whole
  rw [number_eq negative hwhole hzero hafter] at h
  split at h
  · next hshort =>
    cases h
    have hx : Literal.Proper ⟨negative, whole, [], none⟩ := ⟨hwhole, hzero, nofun, nofun⟩
    refine ⟨.whole hroom, _, rfl, hx, hx.fits_iff.2 ?_,
      by simp [Literal.magnitude, fractionText, exponentText]⟩
    rw [Literal.gathered_of_nil rfl, hshort.1]
    exact Binary64.inRange_zero ((le_significandMax_iff _).1 hroom)
  · by_cases hpoint : after.head? = some '.'
    · obtain ⟨more, rfl⟩ := List.head?_eq_some_iff.1 hpoint
      obtain ⟨fraction, more, rfl, hfraction, hmore⟩ := exists_digits more
      rw [longPart, fractionPart_eq _ _ _ hfraction hmore] at h
      split at h
      · cases h
      · next hne =>
        obtain ⟨hv, e, he, hrange, rfl⟩ :=
          exists_exponent_of_exponentPart (gathered_le hroom 0 fraction) h
        have hx : Literal.Proper ⟨negative, whole, fraction, e⟩ := ⟨hwhole, hzero, hfraction, he⟩
        refine ⟨hv, _, rfl, hx, hx.fits_iff.2 hrange, ?_⟩
        simp [Literal.magnitude, fractionText, hne]
    · rw [longPart_of_ne _ _ _ hpoint] at h
      obtain ⟨hv, e, he, hrange, rfl⟩ := exists_exponent_of_exponentPart hroom h
      have hx : Literal.Proper ⟨negative, whole, [], e⟩ := ⟨hwhole, hzero, nofun, he⟩
      refine ⟨hv, _, rfl, hx, hx.fits_iff.2 ?_, by simp [Literal.magnitude, fractionText]⟩
      rw [Literal.gathered_of_nil rfl]
      exact hrange

theorem noDigit_exponentText {e : Option Exponent} (he : ∀ x ∈ e, x.Proper) {rest : List Char}
    (hrest : EndsNumber rest) : NoDigit (exponentText e ++ rest) := by
  cases e with
  | none => exact hrest.noDigit
  | some x =>
    change x.letter.isDigit = false
    rcases (he x rfl).letter with h | h <;> rw [h] <;> rfl

theorem exponentText_ne_point {e : Option Exponent} (he : ∀ x ∈ e, x.Proper) {rest : List Char}
    (hrest : EndsNumber rest) : (exponentText e ++ rest).head? ≠ some '.' := by
  intro h
  cases e with
  | none =>
    change rest.head? = some '.' at h
    rw [EndsNumber, h] at hrest
    cases hrest
  | some x =>
    have hpoint : x.letter = '.' := Option.some.inj h
    rcases (he x rfl).letter with h | h <;> rw [h] at hpoint <;> cases hpoint

theorem eq_none_of_not_any {e : Option Exponent} (he : ∀ x ∈ e, x.Proper) {rest : List Char}
    (h : (exponentText e ++ rest).head?.any continuesWhole = false) : e = none := by
  cases e with
  | none => rfl
  | some x =>
    change continuesWhole x.letter = false at h
    rcases (he x rfl).letter with hletter | hletter <;> rw [hletter] at h <;> cases h

/-- Literals within range are read, up to the end of the number, wherever that is. -/
theorem exists_number {x : Literal} (hx : x.Proper) (hfits : x.Fits) :
    ∃ v, ∀ rest, EndsNumber rest →
      number x.negative (x.magnitude ++ rest) = some (v, rest) := by
  have hrange := hx.fits_iff.1 hfits
  have hroom := x.gathered_lt
  obtain ⟨negative, whole, fraction, e⟩ := x
  obtain ⟨hwhole, hzero, hfraction, he⟩ := hx
  have hdigit := fun rest (hrest : EndsNumber rest) => noDigit_exponentText he hrest
  obtain ⟨v, hv⟩ := exists_exponentPart negative hroom he hrange
  simp only [Literal.magnitude, List.append_assoc]
  by_cases hnil : fraction = []
  · subst hnil
    simp only [fractionText, if_true, List.nil_append]
    by_cases hshort : e = none ∧ digitsValue whole ≤ significandMax
    · obtain ⟨rfl, hmax⟩ := hshort
      refine ⟨wholeNumber negative (gather 0 0 whole).1, fun rest hrest => ?_⟩
      rw [number_eq negative hwhole hzero (hdigit rest hrest), if_pos]
      · rfl
      · exact ⟨(dropped_eq_nil_iff (Nat.zero_le _) hwhole.2).2 hmax,
          hrest.not_any fun c hc => by simp [continuesNumber, hc]⟩
    · rw [Literal.gathered_of_nil rfl] at hv
      refine ⟨v, fun rest hrest => ?_⟩
      rw [number_eq negative hwhole hzero (hdigit rest hrest), if_neg,
        longPart_of_ne _ _ _ (exponentText_ne_point he hrest), hv rest hrest]
      exact fun h => hshort ⟨eq_none_of_not_any he h.2,
        (dropped_eq_nil_iff (Nat.zero_le _) hwhole.2).1 h.1⟩
  · refine ⟨v, fun rest hrest => ?_⟩
    have hmark : NoDigit ('.' :: (fraction ++ (exponentText e ++ rest))) := rfl
    rw [fractionText, if_neg hnil, List.cons_append, number_eq negative hwhole hzero hmark,
      if_neg (by simp [continuesWhole]), longPart,
      fractionPart_eq _ _ _ hfraction (hdigit rest hrest), if_neg hnil]
    exact hv rest hrest

end RequestBinding.Json
