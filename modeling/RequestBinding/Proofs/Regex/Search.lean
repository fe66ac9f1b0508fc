import RequestBinding.Proofs.Regex.Meaning
import RequestBinding.Proofs.Unicode.RangeSet
import RequestBinding.Regex.Stops

/-!
# Stops are the places that the meaning leads to

The stops of an expression at a place are found by search, each place at most once. For expressions
whose repetitions are found without a program, the places found are exactly those that the meaning
leads to, each with the captures of one way there.

## Main definitions

* `Lists` - a list of stops tells where a meaning leads to from a place
* `Plain` - expressions whose repetitions are found without a program

## Main statements

* `lists_stops` - the stops of a plain expression tell where its meaning leads to
-/

namespace RequestBinding.Regex

/-! ## Found stops -/

namespace Found

variable {f : Found} {s t : Stop} {c : Cursor}

/-- The bits say which places are taken. -/
def Valid (f : Found) : Prop :=
  ∀ n, f.taken.testBit n = true ↔ ∃ s ∈ f.stops, s.cursor.left = n

theorem valid_none : none.Valid := by
  intro n
  simp [none]

theorem Valid.has_iff (h : f.Valid) : f.has c = true ↔ ∃ s ∈ f.stops, s.cursor.left = c.left :=
  h c.left

theorem mem_add (h : t ∈ f.stops) : t ∈ (f.add s).stops := by
  unfold add
  split
  · exact h
  · exact List.mem_cons_of_mem s h

theorem mem_of_mem_add (h : t ∈ (f.add s).stops) : t = s ∨ t ∈ f.stops := by
  unfold add at h
  split at h
  · exact .inr h
  · exact List.mem_cons.1 h

theorem Valid.add (h : f.Valid) (s : Stop) : (f.add s).Valid := by
  unfold Found.add
  split
  · exact h
  · intro n
    have hbit : (1 <<< s.cursor.left).testBit n = decide (s.cursor.left = n) := by
      rw [Nat.one_shiftLeft, Nat.testBit_two_pow]
    simp only [Nat.testBit_or, Bool.or_eq_true, h n, hbit, decide_eq_true_eq, List.mem_cons,
      exists_eq_or_imp]
    exact or_comm

theorem Valid.has_of_mem (h : f.Valid) (hs : s ∈ f.stops) : f.has s.cursor = true :=
  h.has_iff.2 ⟨s, hs, rfl⟩

/-- What has been added has its place taken, be it by itself or by an earlier stop. -/
theorem Valid.has_add (h : f.Valid) (s : Stop) : (f.add s).has s.cursor = true := by
  by_cases hs : f.has s.cursor = true
  · rwa [Found.add, if_pos hs]
  · refine (h.add s).has_of_mem ?_
    rw [Found.add, if_neg hs]
    exact List.mem_cons_self

/-- Places stay taken when stops are added. -/
theorem Valid.has_mono {g : Found} (hf : f.Valid) (hg : g.Valid)
    (hfg : ∀ t ∈ f.stops, t ∈ g.stops) (h : f.has c = true) : g.has c = true := by
  obtain ⟨t, ht, hl⟩ := hf.has_iff.1 h
  exact hg.has_iff.2 ⟨t, hfg t ht, hl⟩

theorem Valid.foldl_add (h : f.Valid) (ss : List Stop) : (ss.foldl Found.add f).Valid := by
  induction ss generalizing f with
  | nil => exact h
  | cons s ss ih => exact ih (h.add s)

theorem mem_foldl_add {ss : List Stop} (h : t ∈ f.stops) : t ∈ (ss.foldl add f).stops := by
  induction ss generalizing f with
  | nil => exact h
  | cons s ss ih => exact ih (mem_add h)

theorem mem_of_mem_foldl_add {ss : List Stop} (h : t ∈ (ss.foldl add f).stops) :
    t ∈ ss ∨ t ∈ f.stops := by
  induction ss generalizing f with
  | nil => exact .inr h
  | cons s ss ih =>
    rcases ih h with h | h
    · exact .inl (List.mem_cons_of_mem s h)
    · rcases mem_of_mem_add h with rfl | h
      · exact .inl List.mem_cons_self
      · exact .inr h

theorem Valid.has_foldl_add (hf : f.Valid) {ss : List Stop} (h : s ∈ ss) :
    (ss.foldl Found.add f).has s.cursor = true := by
  induction ss generalizing f with
  | nil => cases h
  | cons t ss ih =>
    rcases List.mem_cons.1 h with rfl | h
    · exact (hf.add s).has_mono ((hf.add s).foldl_add ss) (fun t => mem_foldl_add) (hf.has_add s)
    · exact ih (hf.add t) h

end Found

/-! ## Lists of stops -/

/-- All matches go forwards. -/
def Meaning.Forward (m : Meaning) : Prop := ∀ c d k, m c d k → ∃ t, c.Takes t d

theorem forward_meaning (r : Regex) : r.meaning.Forward := fun _ _ _ => takes_of_meaning

theorem Meaning.forward_skip : Meaning.skip.Forward := by
  rintro c d k ⟨rfl, _⟩
  exact ⟨[], Cursor.Takes.refl d⟩

theorem Meaning.Forward.seq {m n : Meaning} (hm : m.Forward) (hn : n.Forward) :
    (m.seq n).Forward := by
  rintro c e k ⟨d, k₁, k₂, h, h', _⟩
  obtain ⟨s, hs⟩ := hm c d k₁ h
  obtain ⟨t, ht⟩ := hn d e k₂ h'
  exact ⟨s ++ t, hs.trans ht⟩

theorem Meaning.Forward.alt {m n : Meaning} (hm : m.Forward) (hn : n.Forward) :
    (m.alt n).Forward := fun c d k h => h.elim (hm c d k) (hn c d k)

theorem Meaning.Forward.power {m : Meaning} (hm : m.Forward) (n : Nat) : (m.power n).Forward :=
  Meaning.power_takes hm n

/-- A list of stops tells where a meaning leads to from a place, each time with the captures of one
way there. -/
structure Lists (c : Cursor) (ss : List Stop) (m : Meaning) : Prop where
  sound : ∀ s ∈ ss, m c s.cursor s.captures
  complete : ∀ d k, m c d k → ∃ s ∈ ss, s.cursor = d

namespace Lists

variable {c : Cursor} {ss ts : List Stop} {m n : Meaning}

theorem skip (c : Cursor) : Lists c [⟨[], c⟩] .skip := by
  refine ⟨?_, ?_⟩
  · intro s hs
    rw [List.mem_singleton.1 hs]
    exact ⟨rfl, rfl⟩
  · rintro d k ⟨rfl, _⟩
    exact ⟨_, List.mem_singleton.2 rfl, rfl⟩

theorem nil (h : ∀ d k, ¬ m c d k) : Lists c [] m :=
  ⟨fun _ hs => (List.not_mem_nil hs).elim, fun d k hd => (h d k hd).elim⟩

theorem append (hs : Lists c ss m) (ht : Lists c ts n) : Lists c (ss ++ ts) (m.alt n) := by
  refine ⟨?_, ?_⟩
  · intro s h
    exact (List.mem_append.1 h).imp (hs.sound s) (ht.sound s)
  · rintro d k (h | h)
    · obtain ⟨s, hs, hd⟩ := hs.complete d k h
      exact ⟨s, List.mem_append_left ts hs, hd⟩
    · obtain ⟨s, hs, hd⟩ := ht.complete d k h
      exact ⟨s, List.mem_append_right ss hs, hd⟩

/-- Dropping later stops at a place loses no place. -/
theorem firsts (h : Lists c ss m) (hm : m.Forward) : Lists c (firsts ss) m := by
  refine ⟨?_, ?_⟩
  · intro s hs
    rcases Found.mem_of_mem_foldl_add (List.mem_reverse.1 hs) with hs | hs
    · exact h.sound s hs
    · cases hs
  · intro d k hd
    obtain ⟨s, hs, rfl⟩ := h.complete d k hd
    obtain ⟨t, ht, hl⟩ := (Found.valid_none.foldl_add ss).has_iff.1
      (Found.valid_none.has_foldl_add hs)
    rcases Found.mem_of_mem_foldl_add ht with ht' | ht'
    · obtain ⟨u, hu⟩ := hm _ _ _ (h.sound t ht')
      obtain ⟨v, hv⟩ := hm _ _ _ hd
      exact ⟨t, List.mem_reverse.2 ht, hu.right_unique hv hl⟩
    · cases ht'

theorem follow {next : Cursor → List Stop} (h : Lists c ss m) (hn : ∀ d, Lists d (next d) n)
    (hf : (m.seq n).Forward) : Lists c (follow ss next) (m.seq n) := by
  refine firsts ⟨?_, ?_⟩ hf
  · intro s hs
    obtain ⟨a, ha, hs⟩ := List.mem_flatMap.1 hs
    obtain ⟨b, hb, rfl⟩ := List.mem_map.1 hs
    exact ⟨a.cursor, a.captures, b.captures, h.sound a ha, (hn a.cursor).sound b hb, rfl⟩
  · rintro e k ⟨d, k₁, k₂, hd, he, _⟩
    obtain ⟨a, ha, rfl⟩ := h.complete d k₁ hd
    obtain ⟨b, hb, rfl⟩ := (hn a.cursor).complete e k₂ he
    exact ⟨b.after a.captures, List.mem_flatMap.2 ⟨a, ha, List.mem_map.2 ⟨b, hb, rfl⟩⟩, rfl⟩

theorem iterated {body : Cursor → List Stop} (hb : ∀ d, Lists d (body d) n) (hn : n.Forward)
    (hm : m.Forward) (h : Lists c ss m) (i : Nat) :
    Lists c (Regex.iterated body i ss) (m.seq (n.power i)) := by
  induction i generalizing ss m with
  | zero =>
    rw [Meaning.power, Meaning.seq_skip]
    exact h
  | succ i ih =>
    rw [Meaning.power, ← Meaning.seq_assoc]
    cases ss with
    | nil =>
      refine nil ?_
      rintro d k ⟨_, _, _, ⟨e, k₁, _, he, _⟩, _⟩
      obtain ⟨s, hs, _⟩ := h.complete e k₁ he
      cases hs
    | cons s ss => exact ih (hm.seq hn) (h.follow hb (hm.seq hn))

theorem optionally {body : Cursor → List Stop} (h : Lists c (body c) n) (hn : n.Forward)
    (greedy : Bool) : Lists c (Regex.optionally body greedy c) (n.alt .skip) := by
  have hf := hn.alt Meaning.forward_skip
  cases greedy with
  | true => exact (h.append (skip c)).firsts hf
  | false =>
    have hswap : Meaning.alt .skip n = Meaning.alt n .skip := by
      ext c d k
      exact or_comm
    exact hswap ▸ ((skip c).append h).firsts (hswap ▸ hf)

end Lists

/-! ## Loops -/

/-- Any number of matches. -/
def Meaning.star (m : Meaning) : Meaning := fun c d k => ∃ n, m.power n c d k

theorem Meaning.Forward.star {m : Meaning} (hm : m.Forward) : m.star.Forward := by
  rintro c d k ⟨n, hn⟩
  exact hm.power n c d k hn

/-- One more match at the end of any number of matches. -/
theorem Meaning.star_snoc {m : Meaning} {c d e : Cursor} {k₁ k₂ : List Capture}
    (h : m.star c d k₁) (h' : m d e k₂) : m.star c e (k₁ ++ k₂) := by
  obtain ⟨n, hn⟩ := h
  refine ⟨n + 1, ?_⟩
  rw [Meaning.power_add]
  exact ⟨d, k₁, k₂, hn, ⟨e, k₂, [], h', ⟨rfl, rfl⟩, (List.append_nil k₂).symm⟩, rfl⟩

section Loops

variable {body : Cursor → List Stop} {m : Meaning} {start : Cursor} {greedy : Bool}

/-- The stops found by a loop from a place: their bits are right, and each has been reached by
iterations. -/
structure Reached (m : Meaning) (start : Cursor) (f : Found) : Prop where
  valid : f.Valid
  star : ∀ s ∈ f.stops, m.star start s.cursor s.captures

/-- Apart from places that are still open, the places behind a found one are found. Open places are
given by the number of characters left. -/
def Closed (body : Cursor → List Stop) (isOpen : Nat → Prop) (f : Found) : Prop :=
  ∀ a ∈ f.stops, ¬ isOpen a.cursor.left →
    ∀ e ∈ body a.cursor, e.cursor.left < a.cursor.left → f.has e.cursor = true

/-- What a part of a loop adds: nothing is lost, and what was closed stays so. -/
structure Extends (body : Cursor → List Stop) (m : Meaning) (start : Cursor) (isOpen : Nat → Prop)
    (f g : Found) : Prop where
  reached : Reached m start g
  mono : ∀ t ∈ f.stops, t ∈ g.stops
  closed : Closed body isOpen g

theorem Reached.add {f : Found} (h : Reached m start f) {s : Stop}
    (hs : m.star start s.cursor s.captures) : Reached m start (f.add s) := by
  refine ⟨h.valid.add s, ?_⟩
  intro t ht
  rcases Found.mem_of_mem_add ht with rfl | ht
  · exact hs
  · exact h.star t ht

/-- Goes on from the places behind a place. -/
def goOn (body : Cursor → List Stop) (greedy : Bool) (s : Stop) (es : List Stop) (f : Found) :
    Found :=
  es.foldl (fun f e =>
    if e.cursor.left < s.cursor.left then iterate body greedy (e.after s.captures) f else f) f

theorem iterate_eq (s : Stop) (f : Found) : iterate body greedy s f =
    if f.has s.cursor then f
    else if greedy then (goOn body greedy s (body s.cursor) f).add s
    else goOn body greedy s (body s.cursor) (f.add s) := by
  rw [iterate]
  simp only [dite_eq_ite]
  rfl

/-- Loops from the places behind a place reach only what iterations lead to, take these places, and
leave no place open that was not open before. -/
def GoesOn (body : Cursor → List Stop) (m : Meaning) (start : Cursor) (greedy : Bool)
    (isOpen : Nat → Prop) (s : Stop) : Prop :=
  ∀ e : Stop, e.cursor.left < s.cursor.left → ∀ f, Reached m start f →
    m.star start e.cursor e.captures → Closed body isOpen f →
      Extends body m start isOpen f (iterate body greedy e f) ∧
        (iterate body greedy e f).has e.cursor = true

theorem goOn_cons_of_lt {s e : Stop} (hlt : e.cursor.left < s.cursor.left) (es : List Stop)
    (f : Found) : goOn body greedy s (e :: es) f =
      goOn body greedy s es (iterate body greedy (e.after s.captures) f) := by
  rw [goOn, List.foldl_cons, if_pos hlt]
  rfl

theorem goOn_cons_of_not_lt {s e : Stop} (hlt : ¬ e.cursor.left < s.cursor.left) (es : List Stop)
    (f : Found) : goOn body greedy s (e :: es) f = goOn body greedy s es f := by
  rw [goOn, List.foldl_cons, if_neg hlt]
  rfl

/-- The fold over the places behind a place keeps what each step of it keeps. -/
theorem goOn_extends (hb : ∀ c, Lists c (body c) m) {s : Stop}
    (hs : m.star start s.cursor s.captures) {isOpen : Nat → Prop}
    (hstep : GoesOn body m start greedy isOpen s) (es : List Stop)
    (hes : ∀ e ∈ es, e ∈ body s.cursor) (f : Found) (hf : Reached m start f)
    (hc : Closed body isOpen f) :
    Extends body m start isOpen f (goOn body greedy s es f) ∧
      ∀ e ∈ es, e.cursor.left < s.cursor.left →
        (goOn body greedy s es f).has e.cursor = true := by
  induction es generalizing f with
  | nil => exact ⟨⟨hf, fun _ h => h, hc⟩, fun e he => (List.not_mem_nil he).elim⟩
  | cons e es ih =>
    have hes' := fun e' he' => hes e' (List.mem_cons_of_mem e he')
    by_cases hlt : e.cursor.left < s.cursor.left
    · have hstar : m.star start (e.after s.captures).cursor (e.after s.captures).captures :=
        Meaning.star_snoc hs ((hb s.cursor).sound e (hes e List.mem_cons_self))
      obtain ⟨hext, hhas⟩ := hstep (e.after s.captures) hlt f hf hstar hc
      obtain ⟨hrest, hall⟩ := ih hes' _ hext.reached hext.closed
      rw [goOn_cons_of_lt hlt]
      refine ⟨⟨hrest.reached, fun t ht => hrest.mono t (hext.mono t ht), hrest.closed⟩, ?_⟩
      intro e' he' hlt'
      rcases List.mem_cons.1 he' with rfl | he'
      · exact hext.reached.valid.has_mono hrest.reached.valid hrest.mono hhas
      · exact hall e' he' hlt'
    · rw [goOn_cons_of_not_lt hlt]
      obtain ⟨hrest, hall⟩ := ih hes' f hf hc
      refine ⟨hrest, ?_⟩
      intro e' he' hlt'
      rcases List.mem_cons.1 he' with rfl | he'
      · exact (hlt hlt').elim
      · exact hall e' he' hlt'

/-- A greedy loop takes the place itself after the places behind it. -/
theorem add_goOn_extends (hb : ∀ c, Lists c (body c) m) {s : Stop}
    (hs : m.star start s.cursor s.captures) {isOpen : Nat → Prop}
    (hstep : GoesOn body m start true isOpen s) {f : Found} (hf : Reached m start f)
    (hc : Closed body isOpen f) :
    Extends body m start isOpen f ((goOn body true s (body s.cursor) f).add s) ∧
      ((goOn body true s (body s.cursor) f).add s).has s.cursor = true := by
  obtain ⟨hext, hall⟩ := goOn_extends hb hs hstep _ (fun _ h => h) f hf hc
  have hvalid := hext.reached.valid
  refine ⟨⟨hext.reached.add hs, fun t ht => Found.mem_add (hext.mono t ht), ?_⟩,
    hvalid.has_add s⟩
  -- the new place is closed because everything behind it was found first
  intro a ha hopen e he hlt
  refine hvalid.has_mono (hvalid.add s) (fun t ht => Found.mem_add ht) ?_
  rcases Found.mem_of_mem_add ha with rfl | ha
  · exact hall e he hlt
  · exact hext.closed a ha hopen e he hlt

/-- A reluctant loop takes the place itself first, which is open while the places behind it are
looked at. -/
theorem goOn_add_extends (hb : ∀ c, Lists c (body c) m) (hm : m.Forward) {s : Stop}
    (hs : m.star start s.cursor s.captures) {isOpen : Nat → Prop}
    (hstep : GoesOn body m start false (fun i => i = s.cursor.left ∨ isOpen i) s) {f : Found}
    (hf : Reached m start f) (hc : Closed body isOpen f) :
    Extends body m start isOpen f (goOn body false s (body s.cursor) (f.add s)) ∧
      (goOn body false s (body s.cursor) (f.add s)).has s.cursor = true := by
  have hc' : Closed body (fun i => i = s.cursor.left ∨ isOpen i) (f.add s) := by
    intro a ha hno e he hlt
    rcases Found.mem_of_mem_add ha with rfl | ha
    · exact (hno (.inl rfl)).elim
    · exact hf.valid.has_mono (hf.valid.add s) (fun t ht => Found.mem_add ht)
        (hc a ha (fun h => hno (.inr h)) e he hlt)
  obtain ⟨hext, hall⟩ := goOn_extends hb hs hstep _ (fun _ h => h) (f.add s) (hf.add hs) hc'
  refine ⟨⟨hext.reached, fun t ht => hext.mono t (Found.mem_add ht), ?_⟩,
    (hf.valid.add s).has_mono hext.reached.valid hext.mono (hf.valid.has_add s)⟩
  intro a ha hno e he hlt
  by_cases hl : a.cursor.left = s.cursor.left
  · -- the place itself is closed now, and no other place has as many characters left
    obtain ⟨u, hu⟩ := hm.star _ _ _ (hext.reached.star a ha)
    obtain ⟨v, hv⟩ := hm.star _ _ _ hs
    have has : a.cursor = s.cursor := hu.right_unique hv hl
    rw [has] at he hlt
    exact hall e he hlt
  · exact hext.closed a ha (fun h => h.elim hl hno) e he hlt

/-- A loop from a place reaches only what iterations lead to, takes that place, and leaves no place
open that was not open before. The places that are open lie before it. -/
theorem iterate_extends (hb : ∀ c, Lists c (body c) m) (hm : m.Forward) (s : Stop) (f : Found)
    (isOpen : Nat → Prop) (hopen : ∀ n, isOpen n → s.cursor.left < n) (hf : Reached m start f)
    (hs : m.star start s.cursor s.captures) (hc : Closed body isOpen f) :
    Extends body m start isOpen f (iterate body greedy s f) ∧
      (iterate body greedy s f).has s.cursor = true := by
  -- the set of open places grows on the way down, so the induction is for all of them
  induction hn : s.cursor.left using Nat.strongRecOn generalizing s f isOpen with
  | ind n ih =>
    rw [iterate_eq]
    by_cases hhas : f.has s.cursor = true
    · rw [if_pos hhas]
      exact ⟨⟨hf, fun _ h => h, hc⟩, hhas⟩
    · rw [if_neg hhas]
      cases greedy with
      | true =>
        rw [if_pos rfl]
        refine add_goOn_extends hb hs (fun e he f hf hs hc => ?_) hf hc
        exact ih _ (hn ▸ he) e f isOpen (fun n hn => Nat.lt_trans he (hopen n hn)) hf hs hc rfl
      | false =>
        rw [if_neg Bool.false_ne_true]
        refine goOn_add_extends hb hm hs (fun e he f hf hs hc => ?_) hf hc
        refine ih _ (hn ▸ he) e f _ ?_ hf hs hc rfl
        rintro i (rfl | hi)
        · exact he
        · exact Nat.lt_trans he (hopen i hi)

/-- A loop whose body always takes something finds all places that iterations lead to. -/
theorem Lists.anyNumber (hb : ∀ c, Lists c (body c) m) (hm : m.Forward)
    (hlt : ∀ c d k, m c d k → d.left < c.left) (c : Cursor) :
    Lists c (anyNumber body greedy c) m.star := by
  have hnone : Reached m c .none :=
    ⟨Found.valid_none, fun _ h => (List.not_mem_nil h).elim⟩
  obtain ⟨⟨hreached, _, hclosed⟩, hhas⟩ :=
    iterate_extends hb hm ⟨[], c⟩ .none (fun _ => False) (fun _ h => h.elim) hnone ⟨0, rfl, rfl⟩
      (fun _ h => (List.not_mem_nil h).elim)
  refine ⟨fun s hs => hreached.star s (List.mem_reverse.1 hs), ?_⟩
  -- a place with as many characters left as a found one is that one
  have hfound : ∀ d k, m.star c d k → (iterate body greedy ⟨[], c⟩ .none).has d = true →
      ∃ s ∈ (iterate body greedy ⟨[], c⟩ .none).stops, s.cursor = d := by
    intro d k hd h
    obtain ⟨s, hs, hl⟩ := hreached.valid.has_iff.1 h
    obtain ⟨u, hu⟩ := hm.star _ _ _ (hreached.star s hs)
    obtain ⟨v, hv⟩ := hm.star _ _ _ hd
    exact ⟨s, hs, hu.right_unique hv hl⟩
  -- each iteration leads from a found place to a found place, as no place is open any more
  have hrun : ∀ n a, a ∈ (iterate body greedy ⟨[], c⟩ .none).stops → ∀ d k,
      m.power n a.cursor d k →
        ∃ s ∈ (iterate body greedy ⟨[], c⟩ .none).stops, s.cursor = d := by
    intro n
    induction n with
    | zero =>
      rintro a ha d k ⟨rfl, _⟩
      exact ⟨a, ha, rfl⟩
    | succ n ih =>
      rintro a ha e k ⟨d, k₁, k₂, hd, he, _⟩
      obtain ⟨b, hb', rfl⟩ := (hb a.cursor).complete d k₁ hd
      obtain ⟨s, hs, hsd⟩ := hfound b.cursor _ (Meaning.star_snoc (hreached.star a ha) hd)
        (hclosed a ha id b hb' (hlt _ _ _ hd))
      exact ih s hs e k₂ (hsd ▸ he)
  rintro d k ⟨n, hn⟩
  obtain ⟨s, hs, hsc⟩ := hfound c [] ⟨0, rfl, rfl⟩ hhas
  obtain ⟨t, ht, htd⟩ := hrun n s hs d k (hsc ▸ hn)
  exact ⟨t, List.mem_reverse.2 ht, htd⟩

end Loops

/-! ## Plain expressions -/

/-- A repetition is found without a program: it is an option, or its body has no loops and is
repeated exactly so often, or without an upper bound while always taking something. -/
def Direct (low : Nat) (high : Option Nat) (r : Regex) : Prop :=
  (low = 0 ∧ high = some 1) ∨
    (r.hasLoop = false ∧ (high = some low ∨ (high = none ∧ r.takesSome = true)))

/-- The bounds of all sets are characters, and all repetitions are found without a program. -/
def Plain : Regex → Prop
  | .set s => s.CharBounds
  | .seq r s | .alt r s => r.Plain ∧ s.Plain
  | .rep _ low high r => r.Plain ∧ Direct low high r
  | .group _ r => r.Plain
  | _ => True

theorem meaning_option (greedy : Bool) (r : Regex) :
    meaning (.rep greedy 0 (some 1) r) = .alt r.meaning .skip := by
  ext c d k
  constructor
  · rintro ⟨n, _, hn, h⟩
    have := hn 1 rfl
    rcases n with _ | _ | n
    · exact .inr h
    · rw [Meaning.power, Meaning.power, Meaning.seq_skip] at h
      exact .inl h
    · omega
  · rintro (h | h)
    · refine ⟨1, Nat.zero_le 1, fun h hh => by cases hh; exact Nat.le_refl 1, ?_⟩
      rw [Meaning.power, Meaning.power, Meaning.seq_skip]
      exact h
    · exact ⟨0, Nat.le_refl 0, fun _ _ => Nat.zero_le _, h⟩

theorem meaning_exactly (greedy : Bool) (n : Nat) (r : Regex) :
    meaning (.rep greedy n (some n) r) = r.meaning.power n := by
  ext c d k
  constructor
  · rintro ⟨i, hlow, hhigh, h⟩
    rwa [Nat.le_antisymm (hhigh n rfl) hlow] at h
  · intro h
    exact ⟨n, Nat.le_refl n, fun j hj => by cases hj; exact Nat.le_refl n, h⟩

theorem meaning_atLeast (greedy : Bool) (n : Nat) (r : Regex) :
    meaning (.rep greedy n none r) = .seq (r.meaning.power n) r.meaning.star := by
  ext c d k
  constructor
  · rintro ⟨i, hlow, _, h⟩
    rw [← Nat.add_sub_cancel' hlow, Meaning.power_add] at h
    obtain ⟨e, k₁, k₂, h₁, h₂, rfl⟩ := h
    exact ⟨e, k₁, k₂, h₁, ⟨_, h₂⟩, rfl⟩
  · rintro ⟨e, k₁, k₂, h₁, ⟨i, h₂⟩, rfl⟩
    have h : r.meaning.power (n + i) c d (k₁ ++ k₂) := by
      rw [Meaning.power_add]
      exact ⟨e, k₁, k₂, h₁, h₂, rfl⟩
    exact ⟨n + i, Nat.le_add_right n i, nofun, h⟩

/-- The stops of a repetition that is found without a program. -/
theorem lists_repeated {r : Regex} (hr : ∀ c, Lists c (r.stops c) r.meaning) {greedy : Bool}
    {low : Nat} {high : Option Nat} (hd : Direct low high r) (c : Cursor) :
    Lists c (repeated r r.stops greedy low high c) (meaning (.rep greedy low high r)) := by
  have hf := forward_meaning r
  have hexact : ∀ n, Lists c (iterated r.stops n [⟨[], c⟩]) (r.meaning.power n) := fun n => by
    have h := (Lists.skip c).iterated hr hf Meaning.forward_skip n
    rwa [Meaning.skip_seq] at h
  unfold repeated
  by_cases hopt : (low == 0 && high == some 1) = true
  · rw [if_pos hopt]
    simp only [Bool.and_eq_true, beq_iff_eq] at hopt
    obtain ⟨rfl, rfl⟩ := hopt
    rw [meaning_option]
    exact (hr c).optionally hf greedy
  · rw [if_neg hopt]
    simp only [Bool.and_eq_true, beq_iff_eq] at hopt
    obtain h | ⟨hloop, rfl | ⟨rfl, htakes⟩⟩ := hd
    · exact (hopt h).elim
    · rw [hloop, if_neg Bool.false_ne_true, meaning_exactly]
      simp only [Nat.le_refl, if_true]
      exact hexact low
    · rw [hloop, if_neg Bool.false_ne_true, meaning_atLeast]
      simp only [htakes, if_true]
      exact (hexact low).follow
        (fun d => Lists.anyNumber hr hf (fun _ _ _ => left_lt_of_meaning htakes) d)
        ((hf.power low).seq hf.star)

theorem lists_literal (text : List Char) (c : Cursor) :
    Lists c ((Regex.literal text).stops c) (meaning (.literal text)) := by
  simp only [stops]
  cases hs : c.skip? text with
  | none =>
    refine .nil ?_
    rintro d k ⟨hd, _⟩
    rw [← Cursor.skip?_eq_some, hs] at hd
    cases hd
  | some d =>
    have hd := Cursor.skip?_eq_some.1 hs
    refine ⟨fun s hs => ?_, fun e k he => ⟨_, List.mem_singleton.2 rfl, hd.functional he.1⟩⟩
    rw [List.mem_singleton.1 hs]
    exact ⟨hd, rfl⟩

theorem lists_set (s : Unicode.RangeSet) (c : Cursor) :
    Lists c ((Regex.set s).stops c) (meaning (.set s)) := by
  simp only [stops]
  cases hn : c.next? with
  | none =>
    refine .nil ?_
    rintro d k ⟨⟨x, _, hx⟩, _⟩
    rw [← Cursor.next?_eq_some, hn] at hx
    cases hx
  | some p =>
    obtain ⟨x, d⟩ := p
    have hd := Cursor.next?_eq_some.1 hn
    have hx : ∀ y e, c.Takes [y] e → y = x ∧ d = e := fun y e he => by
      rw [← Cursor.next?_eq_some, hn] at he
      cases he
      exact ⟨rfl, rfl⟩
    by_cases hmem : s.mem x.toNat = true
    · simp only [hmem, if_true]
      refine ⟨fun s hs => ?_, fun e k he => ?_⟩
      · rw [List.mem_singleton.1 hs]
        exact ⟨⟨x, hmem, hd⟩, rfl⟩
      · obtain ⟨⟨y, _, he⟩, _⟩ := he
        exact ⟨_, List.mem_singleton.2 rfl, (hx y e he).2⟩
    · simp only [hmem]
      refine .nil ?_
      rintro e k ⟨⟨y, hy, he⟩, _⟩
      rw [(hx y e he).1] at hy
      exact hmem hy

theorem lists_look (l : Look) (c : Cursor) :
    Lists c ((Regex.look l).stops c) (meaning (.look l)) := by
  simp only [stops]
  by_cases hl : l.holds c = true
  · rw [if_pos hl]
    refine ⟨fun s hs => ?_, fun d k hd => ⟨_, List.mem_singleton.2 rfl, hd.2.1.symm⟩⟩
    rw [List.mem_singleton.1 hs]
    exact ⟨hl, rfl, rfl⟩
  · rw [if_neg hl]
    exact .nil fun d k hd => hl hd.1

theorem lists_group {r : Regex} {c : Cursor} (h : Lists c (r.stops c) r.meaning)
    (name : Option String) :
    Lists c ((Regex.group name r).stops c) (meaning (.group name r)) := by
  refine ⟨fun s hs => ?_, fun d k hd => ?_⟩
  · obtain ⟨a, ha, rfl⟩ := List.mem_map.1 hs
    exact ⟨a.captures, h.sound a ha, rfl⟩
  · obtain ⟨k', hk, _⟩ := hd
    obtain ⟨a, ha, rfl⟩ := h.complete d k' hk
    exact ⟨_, List.mem_map.2 ⟨a, ha, rfl⟩, rfl⟩

/-- The stops of a plain expression tell where its meaning leads to. -/
theorem lists_stops {r : Regex} (h : r.Plain) (c : Cursor) : Lists c (r.stops c) r.meaning := by
  induction r generalizing c with
  | empty => exact Lists.skip c
  | literal text => exact lists_literal text c
  | set s => exact lists_set s c
  | look l => exact lists_look l c
  | seq r s ihr ihs =>
    exact (ihr h.1 c).follow (ihs h.2) ((forward_meaning r).seq (forward_meaning s))
  | alt r s ihr ihs =>
    exact ((ihr h.1 c).append (ihs h.2 c)).firsts ((forward_meaning r).alt (forward_meaning s))
  | rep greedy low high r ih => exact lists_repeated (ih h.1) h.2 c
  | group name r ih => exact lists_group (ih h c) name

end RequestBinding.Regex
