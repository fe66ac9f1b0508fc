import RequestBinding.Proofs.Text.Form

/-!
# Encoded texts

A text that is encoded byte by byte is decoded to itself: neither a percent sign nor a plus sign in
it is read as anything else. What ends a segment of a path, a slash, a question mark or a number
sign, never stands in an encoded text as it is.

## Main statements

* `Percent.decodeText_encode` - decoding undoes encoding
* `Percent.decodeText_of_not_mem` - texts without a percent sign
* `Percent.toList_encode_spec` - the characters of encoded texts
-/

namespace RequestBinding.Percent

/-! ## Decoding -/

/-- An encoded byte is read as the byte. -/
theorem decode_encodeByte (b : UInt8) (bs : List UInt8) :
    decode (Utf8.encodeChars (encodeByte b) ++ bs) = b :: decode bs := by
  rw [encodeByte]
  by_cases hb : isUnreserved b = true
  · obtain ⟨hascii, hfree⟩ := Form.unreserved_spec hb
    have hpercent : b ≠ 0x25 := by
      rintro rfl
      exact hfree List.mem_cons_self
    rw [if_pos hb, Utf8.encodeChars_cons, Form.encodeChar_plain hascii]
    exact decode_cons_of_ne hpercent bs
  · have hlt : b.toNat < 256 := b.toNat_lt
    have hpercent : Utf8.encodeChar '%' = [0x25] := by decide
    have hhigh : IsHexDigit (b.toNat / 16) (hexDigit (b.toNat / 16)) := .inl rfl
    have hlow : IsHexDigit (b.toNat % 16) (hexDigit (b.toNat % 16)) := .inl rfl
    obtain ⟨h, hh, hhdigit⟩ := hhigh.encodeChar (by omega)
    obtain ⟨l, hl, hldigit⟩ := hlow.encodeChar (by omega)
    rw [if_neg hb, Utf8.encodeChars_cons, Utf8.encodeChars_cons, Utf8.encodeChars_cons, hpercent,
      hh, hl]
    exact decode_escape (escapeValue_of_digits hhdigit hldigit) bs

theorem decode_encodeChars_flatMap (bs : List UInt8) :
    decode (Utf8.encodeChars (bs.flatMap encodeByte)) = bs := by
  induction bs with
  | nil => rfl
  | cons b bs ih => rw [List.flatMap_cons, Utf8.encodeChars_append, decode_encodeByte, ih]

/-- Decoding undoes encoding. -/
theorem decodeText_encode (s : String) : decodeText (encode s) = s := by
  have hbytes : decode (Utf8.encode (encode s)) = Utf8.encode s := by
    rw [encode, Utf8.encode, String.toList_ofList, decode_encodeChars_flatMap]
  have htext : Utf8.decode (Utf8.encode s) = .ok s.toList := Utf8.decode_encodeChars s.toList
  rw [decodeText, hbytes, htext]
  exact String.ofList_toList

theorem decode_of_not_mem {bs : List UInt8} (h : 0x25 ∉ bs) : decode bs = bs := by
  induction bs with
  | nil => rfl
  | cons b bs ih =>
    obtain ⟨hb, hbs⟩ := List.ne_and_not_mem_of_not_mem_cons h
    rw [decode_cons_of_ne hb.symm, ih hbs]

/-- The bytes of a character are its number alone, or none of them is in ASCII. -/
theorem toNat_of_mem_encodeChar {c : Char} {b : UInt8} (hb : b ∈ Utf8.encodeChar c) :
    b.toNat = c.toNat ∨ 0x80 ≤ b.toNat := by
  have hbounds := Utf8.toNat_bounds c
  unfold Utf8.encodeChar at hb
  generalize c.toNat = n at hb hbounds ⊢
  simp only at hb
  split_ifs at hb <;> simp only [List.mem_cons, List.not_mem_nil, or_false] at hb
  · rw [hb, Utf8.toNat_ofNat_of_lt (by omega)]
    exact .inl rfl
  · rcases hb with rfl | rfl <;> rw [Utf8.toNat_ofNat_of_lt (by omega)] <;> omega
  · rcases hb with rfl | rfl | rfl <;> rw [Utf8.toNat_ofNat_of_lt (by omega)] <;> omega
  · rcases hb with rfl | rfl | rfl | rfl <;> rw [Utf8.toNat_ofNat_of_lt (by omega)] <;> omega

/-- A text without a percent sign is decoded to itself. -/
theorem decodeText_of_not_mem {s : String} (h : '%' ∉ s.toList) : decodeText s = s := by
  have hplain : 0x25 ∉ Utf8.encode s := by
    intro hmem
    obtain ⟨c, hc, hb⟩ := List.mem_flatMap.1 hmem
    rcases toNat_of_mem_encodeChar hb with hnumber | hlarge
    · have hpercent : c = '%' := Char.toNat_inj.1 hnumber.symm
      exact h (hpercent ▸ hc)
    · exact absurd hlarge (by decide)
  have htext : Utf8.decode (Utf8.encode s) = .ok s.toList := Utf8.decode_encodeChars s.toList
  rw [decodeText, decode_of_not_mem hplain, htext]
  exact String.ofList_toList

/-! ## Characters -/

/-- The characters that end a segment of a path. -/
def endsSegment (c : Char) : Bool := c == '/' || c == '?' || c == '#'

theorem encodeByte_ne_nil (b : UInt8) : encodeByte b ≠ [] := by
  rw [encodeByte]
  split <;> exact List.cons_ne_nil _ _

/-- No byte is encoded with a character that ends a segment of a path. -/
theorem endsSegment_of_mem_encodeByte {b : UInt8} {c : Char} (hc : c ∈ encodeByte b) :
    endsSegment c = false := by
  have hall : ∀ n < 256, (encodeByte (UInt8.ofNat n)).all (!endsSegment ·) = true := by
    decide +kernel
  have hb := hall b.toNat b.toNat_lt
  rw [UInt8.ofNat_toNat] at hb
  simpa using List.all_eq_true.1 hb c hc

theorem exists_front_of_ne {s : String} (h : s ≠ "") :
    ∃ b bs, Utf8.encode s = b :: bs := by
  cases hs : s.toList with
  | nil => exact absurd (String.toList_eq_nil_iff.1 hs) h
  | cons c cs =>
    obtain ⟨b, more, hc, _⟩ := Utf8.exists_front c
    exact ⟨b, more ++ Utf8.encodeChars cs, by rw [Utf8.encode, hs, Utf8.encodeChars_cons, hc]; rfl⟩

/-- An encoded text is not empty if the text is not, and stays within a segment of a path. -/
theorem toList_encode_spec {s : String} (h : s ≠ "") :
    (encode s).toList ≠ [] ∧ ∀ c ∈ (encode s).toList, c ≠ '/' ∧ c ≠ '?' ∧ c ≠ '#' := by
  rw [encode, String.toList_ofList]
  refine ⟨?_, fun c hc => ?_⟩
  · obtain ⟨b, bs, hbs⟩ := exists_front_of_ne h
    rw [hbs, List.flatMap_cons]
    exact fun hnil => encodeByte_ne_nil b (List.append_eq_nil_iff.1 hnil).1
  · obtain ⟨b, _, hb⟩ := List.mem_flatMap.1 hc
    have hends := endsSegment_of_mem_encodeByte hb
    simpa [endsSegment, and_assoc] using hends

end RequestBinding.Percent
