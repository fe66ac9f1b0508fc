import Mathlib.Data.List.Basic
import RequestBinding.Regex.Syntax

/-!
# What is read does not depend on what follows

A function that reads a piece of a pattern reads the same piece if a closing parenthesis and more
text follow the pattern. There is one exception: a comment at the end of the pattern would take them
in. Comments are only skipped in verbose mode, and one that is not at the end leaves some text.

## Main definitions

* `Remains` - in verbose mode some text remains
* `Stable` - a function reads the same with a closing parenthesis behind the text

## Main statements

* `skipSpace_append` - skipping blanks and comments stops at the same place
* `stable_readEscape`, `readBounds_append`, `readFlags_append` - escapes, bounds and flags
-/

namespace RequestBinding.Regex

open RequestBinding.Unicode

variable {m : Mode} {α β : Type}

/-! ## Stable functions -/

/-- In verbose mode some text remains. -/
def Remains (m : Mode) (rest : List Char) : Prop := m.verbose = true → rest ≠ []

theorem remains_cons (m : Mode) (c : Char) (rest : List Char) : Remains m (c :: rest) :=
  fun _ => List.cons_ne_nil c rest

theorem remains_of_ne_nil {rest : List Char} (h : rest ≠ []) : Remains m rest := fun _ => h

/-- What a function reads, and what it leaves, are the same if a closing parenthesis and more text
follow. -/
def Stable (m : Mode) (read : List Char → Option (α × List Char)) : Prop :=
  ∀ {cs a r}, read cs = some (a, r) → Remains m r →
    ∀ x, read (cs ++ ')' :: x) = some (a, r ++ ')' :: x)

/-! ## Blanks and comments -/

theorem skipLine_append {cs : List Char} (h : skipLine cs ≠ []) (x : List Char) :
    skipLine (cs ++ x) = skipLine cs ++ x := by
  induction cs with
  | nil => exact (h rfl).elim
  | cons c cs ih =>
    rw [List.cons_append, skipLine, skipLine]
    split
    · rfl
    · next hc =>
      rw [skipLine, if_neg hc] at h
      exact ih h

theorem skipVerbose_append {cs : List Char} (h : skipVerbose cs ≠ []) (x : List Char) :
    skipVerbose (cs ++ x) = skipVerbose cs ++ x := by
  fun_induction skipVerbose cs with
  | case1 => exact (h rfl).elim
  | case2 c rest hc ih =>
    rw [List.cons_append, skipVerbose, if_pos hc]
    exact ih h
  | case3 c rest hc hs ih =>
    rw [List.cons_append, skipVerbose, if_neg hc, if_pos hs, skipLine_append]
    · exact ih h
    · intro hnil
      rw [hnil] at h
      exact h (by simp [skipVerbose])
  | case4 c rest hc hs => rw [List.cons_append, skipVerbose, if_neg hc, if_neg hs]

theorem skipSpace_nil : skipSpace m [] = [] := by simp [skipSpace, skipVerbose]

/-- Skipping stops at the same place if it does not reach the end in verbose mode. -/
theorem skipSpace_append {cs : List Char} (h : Remains m (skipSpace m cs)) (x : List Char) :
    skipSpace m (cs ++ x) = skipSpace m cs ++ x := by
  unfold skipSpace at h ⊢
  cases hv : m.verbose with
  | true =>
    simp only [hv, if_true] at h ⊢
    exact skipVerbose_append (h hv) x
  | false => simp

theorem dropWhile_append {p : Char → Bool} {cs : List Char} (h : cs.dropWhile p ≠ [])
    (x : List Char) : (cs ++ x).dropWhile p = cs.dropWhile p ++ x := by
  rw [List.dropWhile_append, if_neg]
  simpa using h

/-- What is left after a first character is skipped too, unless the next step needs a character. -/
theorem remains_of_some {read : List Char → Option α} {a : α} {cs : List Char}
    (hnil : read [] = none) (h : read cs = some a) : Remains m cs := by
  intro _ hcs
  rw [hcs, hnil] at h
  cases h

/-! ## Escapes -/

theorem stable_hexDigits (n value : Nat) : Stable m (hexDigits m n value) := by
  induction n generalizing value with
  | zero =>
    intro cs a r h _ x
    cases h
    rfl
  | succ n ih =>
    intro cs a r h hr x
    cases cs with
    | nil => cases h
    | cons c cs =>
      rw [hexDigits] at h
      rw [List.cons_append, hexDigits]
      split at h
      · next d hd =>
        have hskip : Remains m (skipSpace m cs) := by
          cases n with
          | zero =>
            cases h
            exact hr
          | succ n => exact remains_of_some rfl h
        simp only [skipSpace_append hskip, ih _ h hr]
      · cases h

theorem stable_hexBrace (count value : Nat) : Stable m (hexBrace m count value) := by
  intro cs a r h hr x
  fun_induction hexBrace m count value cs with
  | case1 => cases h
  | case2 => cases h
  | case3 count value c rest hc hcount =>
    cases h
    rw [List.cons_append, hexBrace, if_pos hc, if_neg hcount, skipSpace_append hr]
  | case4 count value c rest hc d hd hlt ih =>
    have hskip : Remains m (skipSpace m rest) := remains_of_some (by rw [hexBrace]) h
    rw [List.cons_append, hexBrace, if_neg hc]
    simp only [hd, if_pos hlt, skipSpace_append hskip]
    exact ih h
  | case5 => cases h
  | case6 => cases h

theorem stable_readHex (digits : Nat) : Stable m (readHex m digits) := by
  intro cs p r h hr x
  unfold readHex at h ⊢
  split at h
  · cases h
  · next rest hcs =>
    rw [skipSpace_append (hcs ▸ remains_cons m _ _), hcs]
    simp only [List.cons_append]
    split at h
    · next n rest' hb =>
      rw [skipSpace_append (remains_of_some (by rw [hexBrace]) hb)]
      obtain ⟨c, hc, heq⟩ := Option.map_eq_some_iff.1 h
      cases heq
      rw [stable_hexBrace 0 0 hb hr]
      simp [hc]
    · cases h
  · next hne hbrace =>
    split at h
    · next n rest' hd =>
      obtain ⟨c, hc, heq⟩ := Option.map_eq_some_iff.1 h
      cases heq
      rw [skipSpace_append (remains_of_ne_nil hne)]
      cases hcs : skipSpace m cs with
      | nil => exact (hne hcs).elim
      | cons d ds =>
        rw [hcs] at hd
        have hd' := stable_hexDigits digits 0 hd hr x
        rw [List.cons_append] at hd' ⊢
        split
        · next heq => cases heq
        · next rest heq =>
          cases heq
          exact (hbrace _ hcs).elim
        · simp [hd', hc]
    · cases h

theorem stable_queryBrace : Stable m (queryBrace m) := by
  intro cs q r h hr x
  fun_induction queryBrace m cs generalizing q r with
  | case1 => cases h
  | case2 c rest hc =>
    cases h
    rw [List.cons_append, queryBrace, if_pos hc]
  | case3 c rest hc ih =>
    obtain ⟨⟨q', r'⟩, hq, heq⟩ := Option.map_eq_some_iff.1 h
    cases heq
    rw [List.cons_append, queryBrace, if_neg hc,
      skipSpace_append (remains_of_some (by rw [queryBrace]) hq), ih hq hr]
    rfl

theorem stable_boundaryName : Stable m (boundaryName m) := by
  intro cs q r h hr x
  fun_induction boundaryName m cs generalizing q r with
  | case1 => cases h
  | case2 c rest hc =>
    cases h
    rw [List.cons_append, boundaryName, if_pos hc]
  | case3 c rest hc hb ih =>
    obtain ⟨⟨q', r'⟩, hq, heq⟩ := Option.map_eq_some_iff.1 h
    cases heq
    rw [List.cons_append, boundaryName, if_neg hc, if_pos hb,
      skipSpace_append (remains_of_some (by rw [boundaryName]) hq), ih hq hr]
    rfl
  | case4 => cases h

theorem stable_readProperty (negated : Bool) : Stable m (readProperty m negated) := by
  intro cs p r h hr x
  unfold readProperty at h ⊢
  simp only at h ⊢
  split at h
  · cases h
  · next rest hcs =>
    rw [skipSpace_append (hcs ▸ remains_cons m _ _), hcs]
    simp only [List.cons_append]
    split at h
    · next query rest' hq =>
      rw [skipSpace_append (remains_of_some (by rw [queryBrace]) hq)]
      split at h
      · cases h
      · next hu =>
        obtain ⟨s, hs, heq⟩ := Option.map_eq_some_iff.1 h
        cases heq
        rw [stable_queryBrace hq hr]
        simp [hs, hu]
    · cases h
  · next c rest hbrace hcs =>
    rw [skipSpace_append (hcs ▸ remains_cons m _ _), hcs, List.cons_append]
    split at h
    · cases h
    · next hc =>
      split at h
      · cases h
      · next hu =>
        obtain ⟨s, hs, heq⟩ := Option.map_eq_some_iff.1 h
        cases heq
        split
        · next heq => cases heq
        · next heq =>
          cases heq
          exact (hbrace rfl).elim
        · next heq =>
          cases heq
          rw [if_neg hc, if_neg hu, skipSpace_append hr, hs]
          rfl

theorem stable_readBoundary : Stable m (readBoundary m) := by
  intro cs p r h hr x
  unfold readBoundary at h ⊢
  split at h
  · next rest =>
    simp only [List.cons_append]
    split at h
    · cases h
    · next d more hcs =>
      rw [skipSpace_append (hcs ▸ remains_cons m _ _), hcs, List.cons_append]
      simp only
      split at h
      · next hd =>
        cases h
        rw [if_pos hd]
        rfl
      · next hd =>
        rw [if_neg hd]
        split at h
        · cases h
        · next name rest' hname =>
          have hr' : rest' = r := by
            split at h <;> cases h <;> rfl
          have happend := stable_boundaryName hname (hr'.symm ▸ hr) x
          rw [List.cons_append] at happend
          rw [happend]
          simp only
          split at h <;> simp_all
  · next hbrace =>
    cases h
    cases cs with
    | nil => rfl
    | cons c cs =>
      rw [List.cons_append]
      split
      · next heq =>
        cases heq
        exact (hbrace cs rfl).elim
      · rfl

/-- A function that takes no more than it is given. -/
theorem stable_some (a : α) : Stable m fun cs => some (a, cs) := by
  intro cs b r h _ x
  cases h
  rfl

theorem stable_map_shorthand (c : Char) :
    Stable m fun rest => (shorthand m c).map fun s => (Primitive.set s, rest) := by
  intro cs p r h _ x
  obtain ⟨s, hs, heq⟩ := Option.map_eq_some_iff.1 h
  cases heq
  simp [hs]

theorem stable_readEscape : Stable m (readEscape m) := by
  intro cs p r h hr x
  cases cs with
  | nil => cases h
  | cons c rest =>
    rw [List.cons_append]
    unfold readEscape at h ⊢
    simp only at h ⊢
    split at h
    case h_1 => exact stable_readHex 2 h hr x
    case h_2 => exact stable_readHex 4 h hr x
    case h_3 => exact stable_readHex 8 h hr x
    case h_4 => exact stable_readProperty false h hr x
    case h_5 => exact stable_readProperty true h hr x
    case h_20 => exact stable_readBoundary h hr x
    case h_24 =>
      split at h
      · next hc =>
        cases h
        simp [hc]
      · cases h
    -- the other escapes are single characters
    all_goals first
      | exact stable_some _ h hr x
      | exact stable_map_shorthand _ h hr x

/-! ## Bounds of repetitions -/

theorem digits_append {v w : Option Nat} {cs r : List Char}
    (h : readDecimal.digits m v cs = (w, r)) (hr : r ≠ []) (x : List Char) :
    readDecimal.digits m v (cs ++ x) = (w, r ++ x) := by
  fun_induction readDecimal.digits m v cs with
  | case1 v =>
    cases h
    exact (hr rfl).elim
  | case2 v c rest hc ih =>
    have hskip : skipSpace m rest ≠ [] := by
      intro hnil
      rw [hnil, readDecimal.digits] at h
      cases h
      exact hr rfl
    rw [List.cons_append, readDecimal.digits, if_pos hc, skipSpace_append (remains_of_ne_nil hskip)]
    exact ih h
  | case3 v c rest hc =>
    cases h
    rw [List.cons_append, readDecimal.digits, if_neg hc]

theorem digits_nil (v : Option Nat) : readDecimal.digits m v [] = (v, []) := by
  rw [readDecimal.digits]

/-- The digits of a number, and what stands behind the blanks after it. -/
theorem readDecimal_eq {cs rest : List Char} {v : Option Nat}
    (h : readDecimal.digits m none (cs.dropWhile isBlank) = (v, rest)) : readDecimal m cs =
      if v.all (· < Nat.pow 2 32) then some (v, skipSpace m (rest.dropWhile isBlank))
      else none := by
  unfold readDecimal
  rw [h]
  cases v with
  | none => rfl
  | some n => simp

/-- A number with something behind it. -/
theorem readDecimal_append {n : Option Nat} {cs r : List Char} (h : readDecimal m cs = some (n, r))
    (hr : r ≠ []) (x : List Char) : readDecimal m (cs ++ x) = some (n, r ++ x) := by
  obtain ⟨v, rest, hdigits⟩ : ∃ v rest,
      readDecimal.digits m none (cs.dropWhile isBlank) = (v, rest) := ⟨_, _, rfl⟩
  rw [readDecimal_eq hdigits] at h
  split at h
  · next hv =>
    cases h
    -- none of the steps reaches the end
    have hblank : rest.dropWhile isBlank ≠ [] := by
      intro hnil
      rw [hnil] at hr
      exact hr skipSpace_nil
    have hrest : rest ≠ [] := by
      rintro rfl
      exact hblank rfl
    have hcs : cs.dropWhile isBlank ≠ [] := by
      intro hnil
      rw [hnil, digits_nil] at hdigits
      cases hdigits
      exact hrest rfl
    have hdigits' : readDecimal.digits m none ((cs ++ x).dropWhile isBlank) = (n, rest ++ x) := by
      rw [dropWhile_append hcs]
      exact digits_append hdigits hrest x
    rw [readDecimal_eq hdigits', if_pos hv, dropWhile_append hblank,
      skipSpace_append (remains_of_ne_nil hr)]
  · cases h

theorem readDecimal_nil : readDecimal m [] = some (none, []) := by
  rw [readDecimal_eq (digits_nil none), List.dropWhile_nil, skipSpace_nil]
  rfl

/-- A number that was read stood somewhere. -/
theorem remains_of_readDecimal {n : Nat} {cs r : List Char}
    (h : readDecimal m cs = some (some n, r)) : Remains m cs := by
  rintro _ rfl
  rw [readDecimal_nil] at h
  cases h

theorem readBounds_append {low : Nat} {high : Option Nat} {cs r : List Char}
    (h : readBounds m cs = some (low, high, r)) (x : List Char) :
    readBounds m (cs ++ x) = some (low, high, r ++ x) := by
  unfold readBounds at h ⊢
  split at h
  · next low' rest hlow =>
    rw [skipSpace_append (remains_of_readDecimal hlow),
      readDecimal_append hlow (List.cons_ne_nil _ _), List.cons_append]
    simp only
    split at h
    · next rest' hcs =>
      cases h
      rw [skipSpace_append (hcs ▸ remains_cons m _ _), hcs]
      rfl
    · next hbrace =>
      split at h
      · next high' rest' hhigh =>
        rw [skipSpace_append (remains_of_readDecimal hhigh)]
        have hhigh' := readDecimal_append hhigh (List.cons_ne_nil _ _) x
        split
        · next more heq =>
          -- a number does not begin with a brace
          cases hcs : skipSpace m rest with
          | nil =>
            rw [hcs, readDecimal_nil] at hhigh
            cases hhigh
          | cons d ds =>
            rw [hcs, List.cons_append] at heq
            exact (hbrace ds (by rw [hcs, (List.cons.inj heq).1])).elim
        · rw [hhigh', List.cons_append]
          simp only
          split at h
          · next hle =>
            cases h
            rw [if_pos hle]
          · cases h
      · cases h
  · next low' rest hlow =>
    cases h
    rw [skipSpace_append (remains_of_readDecimal hlow),
      readDecimal_append hlow (List.cons_ne_nil _ _)]
    rfl
  · cases h

/-! ## Groups -/

theorem readFlags_append {f g : FlagList} {b : Bool} {cs r : List Char}
    (h : readFlags f cs = some (g, b, r)) (x : List Char) :
    readFlags f (cs ++ x) = some (g, b, r ++ x) := by
  fun_induction readFlags f cs with
  | case1 => cases h
  | case2 => cases h
  | case3 f c rest hend hdangling =>
    cases h
    rw [List.cons_append, readFlags, if_pos hend, if_neg hdangling]
  | case4 => cases h
  | case5 f c rest hend hminus hnegated ih =>
    rw [List.cons_append, readFlags, if_neg hend, if_pos hminus, if_neg hnegated]
    exact ih h
  | case6 => cases h
  | case7 f c rest hend hminus hnamed m hm ih =>
    rw [List.cons_append, readFlags, if_neg hend, if_neg hminus, if_neg hnamed]
    simp only [hm]
    exact ih h
  | case8 => cases h

end RequestBinding.Regex
