import RequestBinding.Proofs.Json.Grammar

/-!
# Reading strings

A string is read if its body is one of the grammar whose surrogates are escaped in pairs.

## Main statements

* `Json.hex4_eq_some_iff` - the number of four hexadecimal digits
* `Json.exists_body_of_stringTail` - what is read is the body of a string
* `Json.exists_stringTail` - the bodies of strings are read
-/

namespace RequestBinding.Json

theorem isSome_shortEscape_iff (c : Char) : (shortEscape c).isSome = true ↔
    c ∈ ['"', '\\', '/', 'b', 'f', 'n', 'r', 't'] := by
  unfold shortEscape
  split <;> simp_all

/-- The value of a digit is the one that it has among the digits. -/
theorem hexValue_eq_some_iff {c : Char} {n : Nat} : hexValue c = some n ↔ (c, n) ∈ hexDigits := by
  have hread : ∀ digit ∈ hexDigits, hexValue digit.1 = some digit.2 := by decide
  have hdigit : ∀ k < 128, ∀ v ∈ hexValue (Char.ofNat k), (Char.ofNat k, v) ∈ hexDigits := by
    decide +kernel
  constructor
  · intro h
    -- all digits are ASCII, so there are only finitely many characters to look at
    have hascii : c.toNat < 128 := by
      simp only [hexValue, Char.isDigit, Bool.and_eq_true, decide_eq_true_eq, Char.le_def,
        UInt32.le_iff_toNat_le] at h
      change c.val.toNat < 128
      split at h
      · next hd => exact Nat.lt_of_le_of_lt hd.2 (by decide)
      · split at h
        · next hl => exact Nat.lt_of_le_of_lt hl.2 (by decide)
        · split at h
          · next hu => exact Nat.lt_of_le_of_lt hu.2 (by decide)
          · cases h
    rw [← Char.ofNat_toNat c] at h ⊢
    exact hdigit c.toNat hascii n h
  · exact hread (c, n)

theorem hex4_eq_some_iff {a b c d : Char} {n : Nat} :
    hex4 a b c d = some n ↔ IsHex4 a b c d n := by
  simp only [IsHex4, ← hexValue_eq_some_iff, hex4]
  constructor
  · intro h
    split at h
    · next i j k l ha hb hc hd => exact ⟨i, j, k, l, ha, hb, hc, hd, (Option.some.inj h).symm⟩
    · cases h
  · rintro ⟨i, j, k, l, ha, hb, hc, hd, rfl⟩
    rw [ha, hb, hc, hd]

theorem exists_text_of_escape {cs : List Char} {e : Char} {width : Nat}
    (h : escape cs = some (e, width)) :
    ∃ text, IsEscape .reader text ∧ cs = text ++ cs.drop width := by
  unfold escape at h
  split at h
  · next a b c d rest =>
    split at h
    · cases h
    · next n hn =>
      split at h
      -- a leading surrogate needs a trailing one
      · next hhigh =>
        simp only [Bool.and_eq_true, decide_eq_true_eq] at hhigh
        split at h
        · next e f g i more =>
          split at h
          · next low hlow =>
            split at h
            · next hlow' =>
              simp only [Bool.and_eq_true, decide_eq_true_eq] at hlow'
              obtain ⟨rfl, rfl⟩ := Prod.mk.inj (Option.some.inj h)
              exact ⟨_, .pair (hex4_eq_some_iff.1 hn) (hex4_eq_some_iff.1 hlow) hhigh hlow', rfl⟩
            · cases h
          · cases h
        · cases h
      · next hhigh =>
        split at h
        · cases h
        · next hlow =>
          simp only [Bool.and_eq_true, decide_eq_true_eq] at hhigh hlow
          obtain ⟨rfl, rfl⟩ := Prod.mk.inj (Option.some.inj h)
          refine ⟨['u', a, b, c, d], .single (hex4_eq_some_iff.1 hn) fun _ hsurrogate => ?_, rfl⟩
          obtain ⟨hmin, hmax⟩ := hsurrogate
          omega
  · next c rest _ =>
    obtain ⟨e', he', heq⟩ := Option.map_eq_some_iff.1 h
    cases heq
    exact ⟨[c], .short ((isSome_shortEscape_iff c).1 (by rw [he', Option.isSome_some])), rfl⟩
  · cases h

theorem exists_escape {text : List Char} (h : IsEscape .reader text) (rest : List Char) :
    ∃ e, escape (text ++ rest) = some (e, text.length) := by
  cases h with
  | @short c h =>
    obtain ⟨e, he⟩ := Option.isSome_iff_exists.1 ((isSome_shortEscape_iff c).2 h)
    refine ⟨e, ?_⟩
    rw [List.singleton_append]
    unfold escape
    split
    · next heq =>
      rw [(List.cons.inj heq).1] at h
      exact absurd h (by decide)
    · next heq =>
      cases heq
      rw [he]
      rfl
    · next heq => cases heq
  | @single a b c d n hn hl =>
    have hnot := hl rfl
    have hhigh : ¬(0xD800 ≤ n ∧ n ≤ 0xDBFF) := fun h => hnot ⟨h.1, by omega⟩
    have hlow : ¬(0xDC00 ≤ n ∧ n ≤ 0xDFFF) := fun h => hnot ⟨by omega, h.2⟩
    refine ⟨Char.ofNat n, ?_⟩
    simp [escape, hex4_eq_some_iff.2 hn, hhigh, hlow]
  | @pair a b c d e f g i high low hhigh hlow hhigh' hlow' =>
    refine ⟨joinSurrogates high low, ?_⟩
    simp [escape, hex4_eq_some_iff.2 hhigh, hex4_eq_some_iff.2 hlow, hhigh', hlow']

/-- What is read as a string is the body of a string, with a quotation mark behind it. -/
theorem exists_body_of_stringTail {cs v rest : List Char} (h : stringTail cs = some (v, rest)) :
    ∃ body, StringBody .reader body ∧ cs = body ++ '"' :: rest := by
  induction cs using stringTail.induct generalizing v with
  | case1 =>
    rw [stringTail] at h
    cases h
  | case2 c cs hc =>
    rw [stringTail, if_pos hc] at h
    cases h
    exact ⟨[], .nil, by rw [beq_iff_eq.1 hc, List.nil_append]⟩
  | case3 c cs hquote hc hescape =>
    rw [stringTail, if_neg hquote, if_pos hc, hescape] at h
    cases h
  | case4 c cs hquote hc e width hescape ds rest' htail ih =>
    rw [stringTail, if_neg hquote, if_pos hc, hescape] at h
    simp only [htail] at h
    cases h
    obtain ⟨text, htext, hcs⟩ := exists_text_of_escape hescape
    obtain ⟨body, hbody, hdrop⟩ := ih htail
    refine ⟨'\\' :: (text ++ body), .escaped htext hbody, ?_⟩
    rw [hcs, hdrop, beq_iff_eq.1 hc, List.cons_append, List.append_assoc]
  | case5 c cs hquote hc e width hescape htail ih =>
    rw [stringTail, if_neg hquote, if_pos hc, hescape] at h
    simp only [htail] at h
    cases h
  | case6 c cs hquote hc hcontrol =>
    rw [stringTail, if_neg hquote, if_neg hc, if_pos hcontrol] at h
    cases h
  | case7 c cs hquote hc hcontrol ds rest' htail ih =>
    rw [stringTail, if_neg hquote, if_neg hc, if_neg hcontrol, htail] at h
    cases h
    obtain ⟨body, hbody, hcs⟩ := ih htail
    refine ⟨c :: body, .plain ?_ ?_ (Nat.le_of_not_lt hcontrol) hbody, ?_⟩
    · exact mt beq_iff_eq.2 hquote
    · exact mt beq_iff_eq.2 hc
    · rw [hcs, List.cons_append]
  | case8 c cs hquote hc hcontrol htail ih =>
    rw [stringTail, if_neg hquote, if_neg hc, if_neg hcontrol, htail] at h
    cases h

/-- The body of a string is read up to the quotation mark behind it. -/
theorem exists_stringTail {body : List Char} (h : StringBody .reader body) (rest : List Char) :
    ∃ v, stringTail (body ++ '"' :: rest) = some (v, rest) := by
  induction h with
  | nil => exact ⟨[], by simp [stringTail]⟩
  | @plain c cs hquote hescape hcontrol _ ih =>
    obtain ⟨v, hv⟩ := ih
    refine ⟨c :: v, ?_⟩
    rw [List.cons_append, stringTail, if_neg (mt beq_iff_eq.1 hquote),
      if_neg (mt beq_iff_eq.1 hescape), if_neg (Nat.not_lt.2 hcontrol), hv]
  | @escaped text cs htext _ ih =>
    obtain ⟨v, hv⟩ := ih
    obtain ⟨e, he⟩ := exists_escape htext (cs ++ '"' :: rest)
    refine ⟨e :: v, ?_⟩
    rw [List.cons_append, List.append_assoc, stringTail, if_neg (by decide), if_pos (by rfl), he]
    simp only [List.drop_left, hv]

end RequestBinding.Json
