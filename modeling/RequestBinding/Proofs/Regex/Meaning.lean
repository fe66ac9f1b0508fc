import RequestBinding.Regex.Place

/-!
# The meaning of expressions

An expression means a relation between two places of a text and the captures on the way from the
first to the second. The relations form an algebra with a sequence and a choice, in which the
meaning of an expression is computed from the meanings of its parts.

## Main definitions

* `Cursor.Takes` - a text stands between two places
* `Meaning` - relations between places, with `Meaning.seq`, `Meaning.alt` and `Meaning.power`
* `Regex.meaning` - the meaning of an expression

## Main statements

* `Regex.takes_of_meaning` - a match goes forwards
* `Regex.minLength_le_of_meaning` - a match takes at least the least length
-/

namespace RequestBinding.Regex

/-! ## Texts between places -/

namespace Cursor

/-- A text stands between two places. -/
def Takes (c : Cursor) (text : List Char) (d : Cursor) : Prop :=
  c.after = text ++ d.after ∧ d.before = text.reverse ++ c.before

/-- A place is known from the characters on both sides. -/
theorem eq_of_sides {c d : Cursor} (hb : c.before = d.before) (ha : c.after = d.after) : c = d := by
  obtain ⟨cb, ca, cl, hc⟩ := c
  obtain ⟨db, da, dl, hd⟩ := d
  simp only at hb ha
  subst hb
  subst ha
  rw [← hd] at hc
  subst hc
  rfl

theorem Takes.refl (c : Cursor) : c.Takes [] c := ⟨rfl, rfl⟩

theorem takes_nil {c d : Cursor} : c.Takes [] d ↔ d = c := by
  constructor
  · intro h
    exact eq_of_sides h.2 h.1.symm
  · rintro rfl
    exact Takes.refl d

theorem Takes.trans {c d e : Cursor} {s t : List Char} (h : c.Takes s d) (h' : d.Takes t e) :
    c.Takes (s ++ t) e := by
  refine ⟨?_, ?_⟩
  · rw [h.1, h'.1, List.append_assoc]
  · rw [h'.2, h.2, List.reverse_append, List.append_assoc]

/-- Every text that comes next leads to a place. -/
theorem exists_takes {c : Cursor} {text rest : List Char} (h : c.after = text ++ rest) :
    ∃ d, c.Takes text d ∧ d.after = rest :=
  ⟨⟨text.reverse ++ c.before, rest, rest.length, rfl⟩, ⟨h, rfl⟩, rfl⟩

theorem takes_append {c e : Cursor} {s t : List Char} :
    c.Takes (s ++ t) e ↔ ∃ d, c.Takes s d ∧ d.Takes t e := by
  constructor
  · intro h
    have hafter : c.after = s ++ (t ++ e.after) := by rw [h.1, List.append_assoc]
    obtain ⟨d, hd, ha⟩ := exists_takes hafter
    refine ⟨d, hd, ha, ?_⟩
    rw [h.2, hd.2, List.reverse_append, List.append_assoc]
  · rintro ⟨d, hs, ht⟩
    exact hs.trans ht

theorem Takes.left_eq {c d : Cursor} {text : List Char} (h : c.Takes text d) :
    c.left = text.length + d.left := by
  rw [c.left_eq, d.left_eq, h.1, List.length_append]

/-- The text between two places is the one that `textTo` gives. -/
theorem Takes.textTo {c d : Cursor} {text : List Char} (h : c.Takes text d) :
    c.textTo d = text := by
  have hl : c.left - d.left = text.length := by rw [h.left_eq]; omega
  rw [Cursor.textTo, hl, h.1, List.take_left]

/-- Two places behind a third one are the same if they have the same number of characters left. -/
theorem Takes.right_unique {c d e : Cursor} {s t : List Char} (hs : c.Takes s d)
    (ht : c.Takes t e) (h : d.left = e.left) : d = e := by
  have hlen : s.length = t.length := by
    have := hs.left_eq
    have := ht.left_eq
    omega
  obtain ⟨hst, ha⟩ := List.append_inj (hs.1.symm.trans ht.1) hlen
  refine eq_of_sides ?_ ha
  rw [hs.2, ht.2, hst]

/-- A text leads to one place. -/
theorem Takes.functional {c d e : Cursor} {t : List Char} (hd : c.Takes t d) (he : c.Takes t e) :
    d = e :=
  hd.right_unique he (by have := hd.left_eq; have := he.left_eq; omega)

theorem next?_eq_some {c d : Cursor} {x : Char} : c.next? = some (x, d) ↔ c.Takes [x] d := by
  obtain ⟨before, after, left, h⟩ := c
  cases after with
  | nil => simp [next?, Takes]
  | cons y after =>
    simp only [next?, Option.some.injEq, Prod.mk.injEq]
    constructor
    · rintro ⟨rfl, rfl⟩
      exact ⟨rfl, rfl⟩
    · rintro ⟨ha, hb⟩
      simp only [List.singleton_append, List.cons.injEq] at ha
      refine ⟨ha.1, eq_of_sides ?_ ha.2⟩
      rw [hb, ha.1]
      rfl

theorem skip?_eq_some {c d : Cursor} {text : List Char} :
    c.skip? text = some d ↔ c.Takes text d := by
  induction text generalizing c with
  | nil => simp only [skip?, Option.some.injEq, takes_nil, eq_comm]
  | cons x text ih =>
    rw [skip?, ← List.singleton_append, takes_append]
    cases hn : c.next? with
    | none =>
      have hno : ∀ e, ¬ c.Takes [x] e := fun e he => by
        rw [← next?_eq_some, hn] at he
        cases he
      simp [hno]
    | some p =>
      obtain ⟨y, e⟩ := p
      have he := next?_eq_some.1 hn
      by_cases hxy : x = y
      · subst hxy
        simp only [beq_self_eq_true, if_true, ih]
        constructor
        · intro h
          exact ⟨e, he, h⟩
        · rintro ⟨e', he', h⟩
          rwa [he.functional he']
      · have hno : ∀ e', ¬ c.Takes [x] e' := fun e' he' => by
          have := he.1.symm.trans he'.1
          simp only [List.singleton_append, List.cons.injEq] at this
          exact hxy this.1.symm
        simp [hxy, hno]

end Cursor

/-! ## Relations between places -/

/-- A relation between two places and the captures on the way from the first to the second. -/
def Meaning := Cursor → Cursor → List Capture → Prop

namespace Meaning

@[ext] theorem ext {m n : Meaning} (h : ∀ c d k, m c d k ↔ n c d k) : m = n :=
  funext fun c => funext fun d => funext fun k => propext (h c d k)

/-- Nothing matches. -/
def fail : Meaning := fun _ _ _ => False

/-- A match stays where it is. -/
def skip : Meaning := fun c d k => d = c ∧ k = []

/-- One match after the other. -/
def seq (m n : Meaning) : Meaning := fun c e k =>
  ∃ d k₁ k₂, m c d k₁ ∧ n d e k₂ ∧ k = k₁ ++ k₂

/-- Either of two matches. -/
def alt (m n : Meaning) : Meaning := fun c d k => m c d k ∨ n c d k

/-- A match repeated. -/
def power (m : Meaning) : Nat → Meaning
  | 0 => skip
  | n + 1 => seq m (power m n)

/-- Matches one after the other. -/
def seqs (ms : List Meaning) : Meaning := ms.foldr seq skip

/-- One of several matches. -/
def alts (ms : List Meaning) : Meaning := ms.foldr alt fail

theorem seq_assoc (m n p : Meaning) : seq (seq m n) p = seq m (seq n p) := by
  ext c e k
  constructor
  · rintro ⟨d, _, k₃, ⟨d', k₁, k₂, hm, hn, rfl⟩, hp, rfl⟩
    exact ⟨d', k₁, k₂ ++ k₃, hm, ⟨d, k₂, k₃, hn, hp, rfl⟩, by rw [List.append_assoc]⟩
  · rintro ⟨d, k₁, _, hm, ⟨d', k₂, k₃, hn, hp, rfl⟩, rfl⟩
    exact ⟨d', k₁ ++ k₂, k₃, ⟨d, k₁, k₂, hm, hn, rfl⟩, hp, by rw [List.append_assoc]⟩

@[simp] theorem skip_seq (m : Meaning) : seq skip m = m := by
  ext c e k
  constructor
  · rintro ⟨d, _, k₂, ⟨rfl, rfl⟩, hm, rfl⟩
    exact hm
  · intro h
    exact ⟨c, [], k, ⟨rfl, rfl⟩, h, rfl⟩

@[simp] theorem seq_skip (m : Meaning) : seq m skip = m := by
  ext c e k
  constructor
  · rintro ⟨d, k₁, _, hm, ⟨rfl, rfl⟩, rfl⟩
    rwa [List.append_nil]
  · intro h
    exact ⟨e, k, [], h, ⟨rfl, rfl⟩, (List.append_nil k).symm⟩

@[simp] theorem seq_fail (m : Meaning) : seq m fail = fail := by
  ext c e k
  constructor
  · rintro ⟨_, _, _, _, h, _⟩
    exact h
  · intro h
    exact h.elim

theorem seq_alt (m n p : Meaning) : seq m (alt n p) = alt (seq m n) (seq m p) := by
  ext c e k
  constructor
  · rintro ⟨d, k₁, k₂, hm, hn | hp, rfl⟩
    · exact .inl ⟨d, k₁, k₂, hm, hn, rfl⟩
    · exact .inr ⟨d, k₁, k₂, hm, hp, rfl⟩
  · rintro (⟨d, k₁, k₂, hm, hn, rfl⟩ | ⟨d, k₁, k₂, hm, hp, rfl⟩)
    · exact ⟨d, k₁, k₂, hm, .inl hn, rfl⟩
    · exact ⟨d, k₁, k₂, hm, .inr hp, rfl⟩

theorem alt_assoc (m n p : Meaning) : alt (alt m n) p = alt m (alt n p) := by
  ext c d k
  exact or_assoc

@[simp] theorem fail_alt (m : Meaning) : alt fail m = m := by
  ext c d k
  exact iff_of_eq (false_or (m c d k))

@[simp] theorem alt_fail (m : Meaning) : alt m fail = m := by
  ext c d k
  exact iff_of_eq (or_false (m c d k))

@[simp] theorem seqs_nil : seqs [] = skip := rfl

@[simp] theorem seqs_cons (m : Meaning) (ms : List Meaning) : seqs (m :: ms) = seq m (seqs ms) :=
  rfl

@[simp] theorem alts_nil : alts [] = fail := rfl

@[simp] theorem alts_cons (m : Meaning) (ms : List Meaning) : alts (m :: ms) = alt m (alts ms) :=
  rfl

@[simp] theorem seqs_append (ms ns : List Meaning) :
    seqs (ms ++ ns) = seq (seqs ms) (seqs ns) := by
  induction ms with
  | nil => simp
  | cons m ms ih => simp [ih, seq_assoc]

@[simp] theorem alts_append (ms ns : List Meaning) :
    alts (ms ++ ns) = alt (alts ms) (alts ns) := by
  induction ms with
  | nil => simp
  | cons m ms ih => simp [ih, alt_assoc]

/-- What all choices begin with can be taken out of them. -/
theorem alts_map_seq (m : Meaning) (ms : List Meaning) :
    alts (ms.map (seq m)) = seq m (alts ms) := by
  induction ms with
  | nil => simp
  | cons n ms ih => simp [ih, seq_alt]

theorem power_add (m : Meaning) (i j : Nat) : power m (i + j) = seq (power m i) (power m j) := by
  induction i with
  | zero => simp [power]
  | succ i ih => rw [Nat.succ_add, power, power, ih, seq_assoc]

end Meaning

/-! ## Expressions -/

/-- The meaning of an expression. -/
def meaning : Regex → Meaning
  | .empty => .skip
  | .literal text => fun c d k => c.Takes text d ∧ k = []
  | .set s => fun c d k => (∃ x : Char, s.mem x.toNat = true ∧ c.Takes [x] d) ∧ k = []
  | .look l => fun c d k => l.holds c = true ∧ d = c ∧ k = []
  | .seq r s => .seq r.meaning s.meaning
  | .alt r s => .alt r.meaning s.meaning
  | .rep _ low high r => fun c d k =>
    ∃ n, low ≤ n ∧ (∀ h, high = some h → n ≤ h) ∧ r.meaning.power n c d k
  | .group name r => fun c d k => ∃ k', r.meaning c d k' ∧ k = k' ++ captured name c d

@[simp] theorem meaning_seq (r s : Regex) : meaning (.seq r s) = .seq r.meaning s.meaning := rfl

@[simp] theorem meaning_alt (r s : Regex) : meaning (.alt r s) = .alt r.meaning s.meaning := rfl

/-- A repetition that goes forwards at each step goes forwards. -/
theorem Meaning.power_takes {m : Meaning} (hm : ∀ c d k, m c d k → ∃ t, c.Takes t d) :
    ∀ n c d k, m.power n c d k → ∃ t, c.Takes t d := by
  intro n
  induction n with
  | zero =>
    rintro c d k ⟨rfl, _⟩
    exact ⟨[], Cursor.Takes.refl d⟩
  | succ n ih =>
    rintro c e k ⟨d, k₁, k₂, h, h', _⟩
    obtain ⟨s, hs⟩ := hm c d k₁ h
    obtain ⟨t, ht⟩ := ih d e k₂ h'
    exact ⟨s ++ t, hs.trans ht⟩

/-- A match takes the text between two places. -/
theorem takes_of_meaning {r : Regex} {c d : Cursor} {k : List Capture} (h : r.meaning c d k) :
    ∃ t, c.Takes t d := by
  induction r generalizing c d k with
  | empty =>
    obtain ⟨rfl, _⟩ := h
    exact ⟨[], Cursor.Takes.refl d⟩
  | literal text => exact ⟨text, h.1⟩
  | set s =>
    obtain ⟨⟨x, _, hx⟩, _⟩ := h
    exact ⟨[x], hx⟩
  | look l =>
    obtain ⟨_, rfl, _⟩ := h
    exact ⟨[], Cursor.Takes.refl d⟩
  | seq r s ihr ihs =>
    obtain ⟨e, k₁, k₂, hr, hs, _⟩ := h
    obtain ⟨t₁, h₁⟩ := ihr hr
    obtain ⟨t₂, h₂⟩ := ihs hs
    exact ⟨t₁ ++ t₂, h₁.trans h₂⟩
  | alt r s ihr ihs => exact h.elim ihr ihs
  | rep greedy low high r ih =>
    obtain ⟨n, _, _, hn⟩ := h
    exact Meaning.power_takes (fun c d k => ih) n c d k hn
  | group name r ih =>
    obtain ⟨k', hk, _⟩ := h
    exact ih hk

/-! ## Least lengths -/

theorem Meaning.power_left {m : Meaning} {a : Nat} (hm : ∀ c d k, m c d k → a + d.left ≤ c.left) :
    ∀ n c d k, m.power n c d k → n * a + d.left ≤ c.left := by
  intro n
  induction n with
  | zero =>
    rintro c d k ⟨rfl, _⟩
    omega
  | succ n ih =>
    rintro c e k ⟨d, k₁, k₂, h, h', _⟩
    have h₁ := hm c d k₁ h
    have h₂ := ih d e k₂ h'
    rw [Nat.succ_mul]
    omega

/-- A match takes at least as much as the least length says. -/
theorem minLength_le_of_meaning {r : Regex} {c d : Cursor} {k : List Capture} {n : Nat}
    (hn : r.minLength = some n) (h : r.meaning c d k) : n + d.left ≤ c.left := by
  induction r generalizing c d k n with
  | empty =>
    obtain ⟨rfl, _⟩ := h
    cases hn
    omega
  | literal text =>
    cases hn
    exact Nat.le_of_eq h.1.left_eq.symm
  | set s =>
    obtain ⟨⟨x, _, hx⟩, _⟩ := h
    have hle : n ≤ 1 := by
      simp only [minLength] at hn
      split at hn <;> cases hn
      exact Nat.le_refl 1
    have := hx.left_eq
    simp only [List.length_singleton] at this
    omega
  | look l =>
    obtain ⟨_, rfl, _⟩ := h
    cases hn
    omega
  | seq r s ihr ihs =>
    obtain ⟨e, k₁, k₂, hr, hs, _⟩ := h
    simp only [minLength] at hn
    split at hn
    · next i j hi hj =>
      cases hn
      have := ihr hi hr
      have := ihs hj hs
      omega
    · cases hn
  | alt r s ihr ihs =>
    simp only [minLength] at hn
    split at hn
    · next i j hi hj =>
      cases hn
      rcases h with h | h
      · have := ihr hi h
        omega
      · have := ihs hj h
        omega
    · cases hn
  | rep greedy low high r ih =>
    obtain ⟨i, hlow, _, hi⟩ := h
    simp only [minLength, Option.map_eq_some_iff] at hn
    obtain ⟨a, ha, rfl⟩ := hn
    have hle := Meaning.power_left (fun c d k => ih ha) i c d k hi
    have := Nat.mul_le_mul_right a hlow
    omega
  | group name r ih =>
    obtain ⟨k', hk, _⟩ := h
    exact ih hn hk

/-- A match of an expression that always takes something goes strictly forwards. -/
theorem left_lt_of_meaning {r : Regex} {c d : Cursor} {k : List Capture}
    (hr : r.takesSome = true) (h : r.meaning c d k) : d.left < c.left := by
  rw [takesSome, Option.any_eq_true] at hr
  obtain ⟨n, hn, hpos⟩ := hr
  have := minLength_le_of_meaning hn h
  have := of_decide_eq_true hpos
  omega

end RequestBinding.Regex
