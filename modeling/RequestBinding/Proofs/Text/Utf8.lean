import RequestBinding.Text.Utf8

/-!
# Texts and their bytes

Reading the bytes of a text gives the text back, both strictly and with replacement; only the bytes
of a text are read strictly.

## Main statements

* `Utf8.exists_front` - the bytes of a character are read as that character
* `Utf8.decode_encodeChars`, `Utf8.decodeLossy_encodeChars` - the bytes of a text are read as the
  text
* `Utf8.decode_eq_ok_iff` - bytes are read as a text if they are its bytes
-/

namespace RequestBinding.Utf8

theorem toNat_ofNat_of_lt {n : Nat} (h : n < 256) : (UInt8.ofNat n).toNat = n := by
  rw [UInt8.toNat_ofNat']
  exact Nat.mod_eq_of_lt h

theorem isContinuation_ofNat {m : Nat} (h : m < 64) :
    isContinuation (UInt8.ofNat (0x80 + m)) = true := by
  have hn : (UInt8.ofNat (0x80 + m)).toNat = 0x80 + m := toNat_ofNat_of_lt (by omega)
  simp only [isContinuation, hn, Bool.and_eq_true, decide_eq_true_eq]
  omega

theorem payload_ofNat {m : Nat} (h : m < 64) : payload (UInt8.ofNat (0x80 + m)) = m := by
  have hn : (UInt8.ofNat (0x80 + m)).toNat = 0x80 + m := toNat_ofNat_of_lt (by omega)
  have hpayload : payload (UInt8.ofNat (0x80 + m)) = (UInt8.ofNat (0x80 + m)).toNat - 0x80 := rfl
  omega

/-- The numbers of characters leave out the surrogates. -/
theorem toNat_bounds (c : Char) : c.toNat < 0xD800 ∨ 0xDFFF < c.toNat ∧ c.toNat < 0x110000 := by
  have h := c.valid
  simp only [UInt32.isValidChar, Nat.isValidChar] at h
  have hval : c.toNat = c.val.toNat := rfl
  omega

/-- What follows a lead byte may lie in a narrower range than other bytes do. -/
theorem isSecond_ofNat {lead m : Nat} (h : m < 64) (hlow : lead = 0xE0 → 0x20 ≤ m)
    (hsurrogates : lead = 0xED → m < 0x20) (hlow' : lead = 0xF0 → 0x10 ≤ m)
    (hhigh : lead = 0xF4 → m < 0x10) : isSecond lead (UInt8.ofNat (0x80 + m)) = true := by
  have hn : (UInt8.ofNat (0x80 + m)).toNat = 0x80 + m := toNat_ofNat_of_lt (by omega)
  simp only [isSecond, hn, beq_iff_eq, Bool.and_eq_true, decide_eq_true_eq]
  constructor
  · split
    · omega
    · split <;> omega
  · split
    · omega
    · split <;> omega

section Fronts

variable {lead k l m : Nat} (rest : List UInt8)

theorem frontTwo_ofNat (hm : m < 64) : frontTwo lead (UInt8.ofNat (0x80 + m) :: rest) =
    .char (Char.ofNat ((lead - 0xC0) * 64 + m)) 1 := by
  rw [frontTwo, if_pos (isContinuation_ofNat hm), payload_ofNat hm]

theorem frontThree_ofNat (hl : l < 64) (hm : m < 64)
    (hsecond : isSecond lead (UInt8.ofNat (0x80 + l)) = true) :
    frontThree lead (UInt8.ofNat (0x80 + l) :: UInt8.ofNat (0x80 + m) :: rest) =
      .char (Char.ofNat ((lead - 0xE0) * 4096 + l * 64 + m)) 2 := by
  simp only [frontThree, hsecond, isContinuation_ofNat hm, payload_ofNat hl, payload_ofNat hm,
    Bool.not_true, Bool.false_eq_true, if_false]

theorem frontFour_ofNat (hk : k < 64) (hl : l < 64) (hm : m < 64)
    (hsecond : isSecond lead (UInt8.ofNat (0x80 + k)) = true) :
    frontFour lead (UInt8.ofNat (0x80 + k) :: UInt8.ofNat (0x80 + l) ::
      UInt8.ofNat (0x80 + m) :: rest) =
      .char (Char.ofNat ((lead - 0xF0) * 262144 + k * 4096 + l * 64 + m)) 3 := by
  simp only [frontFour, hsecond, isContinuation_ofNat hl, isContinuation_ofNat hm,
    payload_ofNat hk, payload_ofNat hl, payload_ofNat hm, Bool.not_true, Bool.false_eq_true,
    if_false]

end Fronts

/-- Whatever stands behind the bytes of a character, they are read as that character. -/
theorem exists_front (c : Char) : ∃ b more, encodeChar c = b :: more ∧
    ∀ rest, front b (more ++ rest) = .char c more.length := by
  have hbounds := toNat_bounds c
  have hchar : Char.ofNat c.toNat = c := Char.ofNat_toNat c
  unfold encodeChar
  generalize c.toNat = n at hbounds hchar ⊢
  -- the lead byte tells how long the form is
  have hlead : ∀ m, m < 256 → (UInt8.ofNat m).toNat = m := fun m => toNat_ofNat_of_lt
  by_cases h1 : n < 0x80
  · refine ⟨UInt8.ofNat n, [], if_pos h1, fun rest => ?_⟩
    rw [front, hlead n (by omega)]
    simp only [h1, if_pos, hchar, List.length_nil]
  by_cases h2 : n < 0x800
  · refine ⟨UInt8.ofNat (0xC0 + n / 64), [UInt8.ofNat (0x80 + n % 64)], ?_, fun rest => ?_⟩
    · simp only [h1, h2, if_false, if_true]
    have hvalue : (0xC0 + n / 64 - 0xC0) * 64 + n % 64 = n := by omega
    rw [front, hlead _ (by omega)]
    simp only [List.cons_append, List.nil_append]
    rw [if_neg (by omega), if_neg (by omega), if_pos (by omega), frontTwo_ofNat _ (by omega),
      hvalue, hchar]
    rfl
  by_cases h3 : n < 0x10000
  · refine ⟨UInt8.ofNat (0xE0 + n / 4096),
      [UInt8.ofNat (0x80 + n / 64 % 64), UInt8.ofNat (0x80 + n % 64)], ?_, fun rest => ?_⟩
    · simp only [h1, h2, h3, if_false, if_true]
    have hvalue : (0xE0 + n / 4096 - 0xE0) * 4096 + n / 64 % 64 * 64 + n % 64 = n := by omega
    have hsecond : isSecond (0xE0 + n / 4096) (UInt8.ofNat (0x80 + n / 64 % 64)) = true := by
      apply isSecond_ofNat <;> omega
    rw [front, hlead _ (by omega)]
    simp only [List.cons_append, List.nil_append]
    rw [if_neg (by omega), if_neg (by omega), if_neg (by omega), if_pos (by omega),
      frontThree_ofNat _ (by omega) (by omega) hsecond, hvalue, hchar]
    rfl
  · refine ⟨UInt8.ofNat (0xF0 + n / 262144), [UInt8.ofNat (0x80 + n / 4096 % 64),
      UInt8.ofNat (0x80 + n / 64 % 64), UInt8.ofNat (0x80 + n % 64)], ?_, fun rest => ?_⟩
    · simp only [h1, h2, h3, if_false]
    have hvalue : (0xF0 + n / 262144 - 0xF0) * 262144 + n / 4096 % 64 * 4096 + n / 64 % 64 * 64 +
        n % 64 = n := by omega
    have hsecond : isSecond (0xF0 + n / 262144) (UInt8.ofNat (0x80 + n / 4096 % 64)) = true := by
      apply isSecond_ofNat <;> omega
    rw [front, hlead _ (by omega)]
    simp only [List.cons_append, List.nil_append]
    rw [if_neg (by omega), if_neg (by omega), if_neg (by omega), if_neg (by omega),
      if_pos (by omega), frontFour_ofNat _ (by omega) (by omega) (by omega) hsecond, hvalue, hchar]
    rfl

theorem encodeChar_of_lt {c : Char} (h : c.toNat < 0x80) :
    encodeChar c = [UInt8.ofNat c.toNat] := if_pos h

theorem encodeChars_cons (c : Char) (cs : List Char) :
    encodeChars (c :: cs) = encodeChar c ++ encodeChars cs := List.flatMap_cons

theorem encodeChars_append (cs ds : List Char) :
    encodeChars (cs ++ ds) = encodeChars cs ++ encodeChars ds := List.flatMap_append

/-- Reading the bytes of a text does not stop before the end, and gives the text. -/
theorem decode_encodeChars (cs : List Char) : decode (encodeChars cs) = .ok cs := by
  -- the length of the input only matters for faults
  have h : ∀ total, decodeFrom total (encodeChars cs) = .ok cs := by
    intro total
    induction cs with
    | nil =>
      rw [encodeChars, List.flatMap_nil, decodeFrom]
    | cons c cs ih =>
      obtain ⟨b, more, hbytes, hfront⟩ := exists_front c
      rw [encodeChars_cons, hbytes, List.cons_append, decodeFrom, hfront]
      simp only [List.drop_left, ih]
  exact h _

theorem decodeLossy_encodeChars (cs : List Char) : decodeLossy (encodeChars cs) = cs := by
  induction cs with
  | nil => rw [encodeChars, List.flatMap_nil, decodeLossy]
  | cons c cs ih =>
    obtain ⟨b, more, hbytes, hfront⟩ := exists_front c
    rw [encodeChars_cons, hbytes, List.cons_append, decodeLossy, hfront]
    simp only [List.drop_left, ih]

/-! ## Bytes that are read -/

theorem toNat_ofNat_char {n : Nat} (h : n < 0xD800 ∨ 0xDFFF < n ∧ n < 0x110000) :
    (Char.ofNat n).toNat = n := by
  rw [Char.ofNat, dif_pos h]
  rfl

theorem ofNat_eq {n : Nat} {b : UInt8} (h : n = b.toNat) : UInt8.ofNat n = b := by
  rw [h, UInt8.ofNat_toNat]

theorem payload_of_isContinuation {b : UInt8} (h : isContinuation b = true) :
    b.toNat = 0x80 + payload b ∧ payload b < 64 := by
  simp only [isContinuation, Bool.and_eq_true, decide_eq_true_eq] at h
  have hpayload : payload b = b.toNat - 0x80 := rfl
  omega

/-- The bounds of the byte behind a lead byte. -/
theorem payload_of_isSecond {lead : Nat} {b : UInt8} (h : isSecond lead b = true) :
    b.toNat = 0x80 + payload b ∧ payload b < 64 ∧ (lead = 0xE0 → 0x20 ≤ payload b) ∧
      (lead = 0xED → payload b < 0x20) ∧ (lead = 0xF0 → 0x10 ≤ payload b) ∧
      (lead = 0xF4 → payload b < 0x10) := by
  simp only [isSecond, Bool.and_eq_true, decide_eq_true_eq, beq_iff_eq] at h
  have hpayload : payload b = b.toNat - 0x80 := rfl
  generalize b.toNat = n at h hpayload ⊢
  generalize payload b = m at hpayload ⊢
  obtain ⟨hmin, hmax⟩ := h
  split at hmin <;> split at hmax
  all_goals (try split at hmin) <;> (try split at hmax)
  all_goals omega

theorem encodeChar_two {c : Char} (h : 0x80 ≤ c.toNat) (h' : c.toNat < 0x800) :
    encodeChar c = [UInt8.ofNat (0xC0 + c.toNat / 64), UInt8.ofNat (0x80 + c.toNat % 64)] :=
  (if_neg (Nat.not_lt.2 h)).trans (if_pos h')

theorem encodeChar_three {c : Char} (h : 0x800 ≤ c.toNat) (h' : c.toNat < 0x10000) :
    encodeChar c = [UInt8.ofNat (0xE0 + c.toNat / 4096), UInt8.ofNat (0x80 + c.toNat / 64 % 64),
      UInt8.ofNat (0x80 + c.toNat % 64)] :=
  (if_neg (by omega)).trans ((if_neg (Nat.not_lt.2 h)).trans (if_pos h'))

theorem encodeChar_four {c : Char} (h : 0x10000 ≤ c.toNat) :
    encodeChar c = [UInt8.ofNat (0xF0 + c.toNat / 262144), UInt8.ofNat (0x80 + c.toNat / 4096 % 64),
      UInt8.ofNat (0x80 + c.toNat / 64 % 64), UInt8.ofNat (0x80 + c.toNat % 64)] :=
  (if_neg (by omega)).trans ((if_neg (by omega)).trans (if_neg (Nat.not_lt.2 h)))

section Characters

variable {b : UInt8} {bs : List UInt8} {c : Char} {more : Nat}

theorem encodeChar_of_frontTwo (hmin : 0xC2 ≤ b.toNat) (hmax : b.toNat < 0xE0)
    (h : frontTwo b.toNat bs = .char c more) : b :: bs = encodeChar c ++ bs.drop more := by
  unfold frontTwo at h
  split at h
  · cases h
  · next b1 bs =>
    split at h
    · next hb1 =>
      obtain ⟨hb1, hpayload⟩ := payload_of_isContinuation hb1
      obtain ⟨hc, hmore⟩ := Front.char.inj h
      have hn : c.toNat = (b.toNat - 0xC0) * 64 + payload b1 :=
        hc ▸ toNat_ofNat_char (by omega)
      have hbytes : encodeChar c = [b, b1] := by
        rw [encodeChar_two (by omega) (by omega), hn, ofNat_eq (b := b) (by omega),
          ofNat_eq (b := b1) (by omega)]
      rw [hbytes, ← hmore]
      rfl
    · cases h

theorem encodeChar_of_frontThree (hmin : 0xE0 ≤ b.toNat) (hmax : b.toNat < 0xF0)
    (h : frontThree b.toNat bs = .char c more) : b :: bs = encodeChar c ++ bs.drop more := by
  unfold frontThree at h
  split at h
  · cases h
  · next b1 bs =>
    split at h
    · cases h
    · next hb1 =>
      split at h
      · cases h
      · next b2 bs =>
        split at h
        · cases h
        · next hb2 =>
          rw [Bool.not_eq_true, Bool.not_eq_false'] at hb1 hb2
          obtain ⟨hb1, hpayload, hlow, hsurrogates, -⟩ := payload_of_isSecond hb1
          obtain ⟨hb2, hpayload'⟩ := payload_of_isContinuation hb2
          obtain ⟨hc, hmore⟩ := Front.char.inj h
          have hn : c.toNat = (b.toNat - 0xE0) * 4096 + payload b1 * 64 + payload b2 :=
            hc ▸ toNat_ofNat_char (by omega)
          have hbytes : encodeChar c = [b, b1, b2] := by
            rw [encodeChar_three (by omega) (by omega), hn, ofNat_eq (b := b) (by omega),
              ofNat_eq (b := b1) (by omega), ofNat_eq (b := b2) (by omega)]
          rw [hbytes, ← hmore]
          rfl

theorem encodeChar_of_frontFour (hmin : 0xF0 ≤ b.toNat) (hmax : b.toNat < 0xF5)
    (h : frontFour b.toNat bs = .char c more) : b :: bs = encodeChar c ++ bs.drop more := by
  unfold frontFour at h
  split at h
  · cases h
  · next b1 bs =>
    split at h
    · cases h
    · next hb1 =>
      split at h
      · cases h
      · next b2 bs =>
        split at h
        · cases h
        · next hb2 =>
          split at h
          · cases h
          · next b3 bs =>
            split at h
            · cases h
            · next hb3 =>
              rw [Bool.not_eq_true, Bool.not_eq_false'] at hb1 hb2 hb3
              obtain ⟨hb1, hpayload, -, -, hlow, hhigh⟩ := payload_of_isSecond hb1
              obtain ⟨hb2, hpayload'⟩ := payload_of_isContinuation hb2
              obtain ⟨hb3, hpayload''⟩ := payload_of_isContinuation hb3
              obtain ⟨hc, hmore⟩ := Front.char.inj h
              have hn : c.toNat = (b.toNat - 0xF0) * 262144 + payload b1 * 4096 +
                  payload b2 * 64 + payload b3 := hc ▸ toNat_ofNat_char (by omega)
              have hbytes : encodeChar c = [b, b1, b2, b3] := by
                rw [encodeChar_four (by omega), hn, ofNat_eq (b := b) (by omega),
                  ofNat_eq (b := b1) (by omega), ofNat_eq (b := b2) (by omega),
                  ofNat_eq (b := b3) (by omega)]
              rw [hbytes, ← hmore]
              rfl

end Characters

/-- What is read as a character are its bytes. -/
theorem encodeChar_of_front {b : UInt8} {bs : List UInt8} {c : Char} {more : Nat}
    (h : front b bs = .char c more) : b :: bs = encodeChar c ++ bs.drop more := by
  have hb := b.toNat_lt
  simp only [front] at h
  split at h
  · next h1 =>
    obtain ⟨hc, hmore⟩ := Front.char.inj h
    have hn : c.toNat = b.toNat := by
      rw [← hc]
      exact toNat_ofNat_char (by omega)
    rw [encodeChar_of_lt (by omega), ofNat_eq hn, ← hmore]
    rfl
  split at h
  · cases h
  split at h
  · exact encodeChar_of_frontTwo (by omega) (by omega) h
  split at h
  · exact encodeChar_of_frontThree (by omega) (by omega) h
  split at h
  · exact encodeChar_of_frontFour (by omega) (by omega) h
  · cases h

/-- Bytes are read as a text if they are its bytes. -/
theorem decode_eq_ok_iff {bs : List UInt8} {cs : List Char} :
    decode bs = .ok cs ↔ bs = encodeChars cs := by
  constructor
  · rw [decode]
    -- the length of the input only matters for faults
    generalize bs.length = total
    intro h
    induction bs using decodeFrom.induct total generalizing cs with
    | case1 =>
      rw [decodeFrom] at h
      cases h
      rfl
    | case2 b bs c more hfront cs' htail ih =>
      rw [decodeFrom, hfront] at h
      simp only [htail] at h
      cases h
      rw [encodeChars_cons, ← ih htail]
      exact encodeChar_of_front hfront
    | case3 b bs c more hfront fault htail _ =>
      rw [decodeFrom, hfront] at h
      simp only [htail] at h
      cases h
    | case4 b bs more hfront =>
      rw [decodeFrom, hfront] at h
      cases h
    | case5 b bs hfront =>
      rw [decodeFrom, hfront] at h
      cases h
  · rintro rfl
    exact decode_encodeChars cs

end RequestBinding.Utf8
