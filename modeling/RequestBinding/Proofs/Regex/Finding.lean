import RequestBinding.Proofs.Regex.Search

/-!
# Finding matches in texts

A match is looked for from the start of a text on, and the first place where one starts decides.
Whether there is one, and what it captures, is told by the meaning of the expression there. If an
expression is tied to the start of a text, no match starts anywhere else.

## Main definitions

* `NoneBefore` - places without a match on the way to another place
* `Tied` - expressions whose matches start at the start of a text

## Main statements

* `findFrom_eq_some_iff` - the first place where a match starts decides
* `find_isSome_iff`, `exists_meaning_of_find` - what is found of a plain expression
* `Tied.find_eq` - what is found of an expression that is tied to the start
-/

namespace RequestBinding.Regex

/-! ## Places ahead -/

namespace Cursor

variable {c d e : Cursor} {x : Char} {front : List Char}

theorem takes_of_next?_none (h : c.next? = none) : c.Takes front e ↔ front = [] ∧ e = c := by
  cases front with
  | nil => rw [takes_nil, eq_self, true_and]
  | cons y front =>
    refine iff_of_false (fun htakes => ?_) (fun heq => List.cons_ne_nil y front heq.1)
    obtain ⟨d, hd, -⟩ := takes_append.1 (List.singleton_append ▸ htakes)
    rw [next?_eq_some.2 hd] at h
    cases h

theorem takes_of_next?_some (h : c.next? = some (x, d)) : c.Takes front e ↔
    front = [] ∧ e = c ∨ ∃ more, front = x :: more ∧ d.Takes more e := by
  cases front with
  | nil => simp [takes_nil]
  | cons y front =>
    rw [← List.singleton_append, takes_append]
    constructor
    · rintro ⟨d', hd', htakes⟩
      obtain ⟨rfl, rfl⟩ := Prod.mk.inj (Option.some.inj (h.symm.trans (next?_eq_some.2 hd')))
      exact .inr ⟨front, rfl, htakes⟩
    · rintro (⟨hnil, -⟩ | ⟨more, heq, htakes⟩)
      · cases hnil
      · cases heq
        exact ⟨d, next?_eq_some.1 h, htakes⟩

end Cursor

variable {r s : Regex} {c d : Cursor} {x : Char} {stop : Stop}

/-! ## The first match -/

/-- What is found at a place is its preferred stop, or else what is found at the next place. -/
theorem findFrom_eq (r : Regex) (c : Cursor) : r.findFrom c =
    ((r.stops c).head?).or (c.next?.bind fun p => r.findFrom p.2) := by
  rw [findFrom]
  cases (r.stops c).head? with
  | some stop => rfl
  | none =>
    simp only [Option.none_or]
    split <;> simp [*]

/-- No match starts at a place before `n` characters have been passed. -/
def NoneBefore (r : Regex) (c : Cursor) (n : Nat) : Prop :=
  ∀ front e, c.Takes front e → front.length < n → r.stops e = []

theorem noneBefore_zero (r : Regex) (c : Cursor) : r.NoneBefore c 0 :=
  fun _ _ _ hlt => absurd hlt (Nat.not_lt_zero _)

theorem noneBefore_succ_iff (h : c.next? = some (x, d)) {n : Nat} :
    r.NoneBefore c (n + 1) ↔ r.stops c = [] ∧ r.NoneBefore d n := by
  constructor
  · refine fun hnone => ⟨hnone [] c (.refl c) (Nat.succ_pos n), fun front e he hlt => ?_⟩
    have htakes := (Cursor.takes_of_next?_some h).2 (.inr ⟨front, rfl, he⟩)
    exact hnone (x :: front) e htakes (Nat.succ_lt_succ hlt)
  · rintro ⟨hc, hnone⟩ front e he hlt
    rcases (Cursor.takes_of_next?_some h).1 he with ⟨-, rfl⟩ | ⟨more, rfl, hmore⟩
    · exact hc
    · exact hnone more e hmore (Nat.lt_of_succ_lt_succ hlt)

/-- The first place where a match starts decides on what is found. -/
theorem findFrom_eq_some_iff : r.findFrom c = some stop ↔
    ∃ front e, c.Takes front e ∧ (r.stops e).head? = some stop ∧ r.NoneBefore c front.length := by
  induction c using findFrom.induct (r := r) with
  | case1 c found hfound =>
    rw [findFrom_eq, hfound, Option.some_or]
    constructor
    · intro h
      exact ⟨[], c, .refl c, hfound.trans h, noneBefore_zero r c⟩
    · rintro ⟨front, e, he, hstop, hnone⟩
      cases front with
      | nil =>
        rw [Cursor.takes_nil.1 he, hfound] at hstop
        exact hstop
      | cons y front =>
        rw [hnone [] c (.refl c) (Nat.succ_pos _)] at hfound
        cases hfound
  | case2 c hfound x d hd ih =>
    have hnil : r.stops c = [] := List.head?_eq_none_iff.1 hfound
    rw [findFrom_eq, hfound, hd, Option.none_or, Option.bind_some, ih]
    constructor
    · rintro ⟨front, e, he, hstop, hnone⟩
      exact ⟨x :: front, e, (Cursor.takes_of_next?_some hd).2 (.inr ⟨front, rfl, he⟩), hstop,
        (noneBefore_succ_iff hd).2 ⟨hnil, hnone⟩⟩
    · rintro ⟨front, e, he, hstop, hnone⟩
      rcases (Cursor.takes_of_next?_some hd).1 he with ⟨-, rfl⟩ | ⟨more, rfl, hmore⟩
      · rw [hfound] at hstop
        cases hstop
      · exact ⟨more, e, hmore, hstop, ((noneBefore_succ_iff hd).1 hnone).2⟩
  | case3 c hfound hd =>
    rw [findFrom_eq, hfound, hd, Option.none_or, Option.bind_none]
    refine iff_of_false nofun ?_
    rintro ⟨front, e, he, hstop, -⟩
    rw [((Cursor.takes_of_next?_none hd).1 he).2, hfound] at hstop
    cases hstop

theorem findFrom_eq_none_iff :
    r.findFrom c = none ↔ ∀ front e, c.Takes front e → r.stops e = [] := by
  induction c using findFrom.induct (r := r) with
  | case1 c found hfound =>
    rw [findFrom_eq, hfound, Option.some_or]
    refine iff_of_false nofun fun h => ?_
    rw [h [] c (.refl c)] at hfound
    cases hfound
  | case2 c hfound x d hd ih =>
    rw [findFrom_eq, hfound, hd, Option.none_or, Option.bind_some, ih]
    constructor
    · intro h front e he
      rcases (Cursor.takes_of_next?_some hd).1 he with ⟨-, rfl⟩ | ⟨more, rfl, hmore⟩
      · exact List.head?_eq_none_iff.1 hfound
      · exact h more e hmore
    · exact fun h front e he => h _ e ((Cursor.takes_of_next?_some hd).2 (.inr ⟨front, rfl, he⟩))
  | case3 c hfound hd =>
    rw [findFrom_eq, hfound, hd, Option.none_or, Option.bind_none]
    refine iff_of_true rfl fun front e he => ?_
    rw [((Cursor.takes_of_next?_none hd).1 he).2]
    exact List.head?_eq_none_iff.1 hfound

/-- What is found depends on the stops alone. -/
theorem find_congr (h : r.stops = s.stops) (cs : List Char) : r.find cs = s.find cs := by
  refine Option.ext fun stop => ?_
  rw [find, find, findFrom_eq_some_iff, findFrom_eq_some_iff]
  simp only [NoneBefore, h]

/-! ## Plain expressions -/

/-- What is found has been matched, with the captures that were made. -/
theorem exists_meaning_of_find (h : r.Plain) {cs : List Char} (hstop : r.find cs = some stop) :
    ∃ front c, (Cursor.start cs).Takes front c ∧ r.meaning c stop.cursor stop.captures := by
  obtain ⟨front, c, hc, hhead, -⟩ := findFrom_eq_some_iff.1 hstop
  exact ⟨front, c, hc, (lists_stops h c).sound stop (List.mem_of_head? hhead)⟩

/-- A plain expression is found in a text if it matches somewhere. -/
theorem find_isSome_iff (h : r.Plain) (cs : List Char) : (r.find cs).isSome = true ↔
    ∃ front c d k, (Cursor.start cs).Takes front c ∧ r.meaning c d k := by
  constructor
  · intro hsome
    obtain ⟨stop, hstop⟩ := Option.isSome_iff_exists.1 hsome
    obtain ⟨front, c, hc, hmeaning⟩ := exists_meaning_of_find h hstop
    exact ⟨front, c, _, _, hc, hmeaning⟩
  · rintro ⟨front, c, d, k, hc, hd⟩
    obtain ⟨stop, hstop, -⟩ := (lists_stops h c).complete d k hd
    rw [← Option.ne_none_iff_isSome]
    intro hnone
    rw [findFrom_eq_none_iff.1 hnone front c hc] at hstop
    cases hstop

/-! ## Expressions that are tied to the start -/

/-- Matches start at the start of the text alone. -/
def Tied (r : Regex) : Prop := ∀ c, c.before ≠ [] → r.stops c = []

/-- At the start there is no place before. -/
theorem Cursor.Takes.eq_start {cs front : List Char} (h : (Cursor.start cs).Takes front c)
    (hc : c.before = []) : c = Cursor.start cs := by
  have hbefore := h.2
  rw [hc, Cursor.start, List.append_nil] at hbefore
  rw [List.reverse_eq_nil_iff.1 hbefore.symm] at h
  exact Cursor.takes_nil.1 h

/-- Of an expression that is tied to the start, what is found is the preferred match there. -/
theorem Tied.find_eq (h : r.Tied) (cs : List Char) :
    r.find cs = (r.stops (Cursor.start cs)).head? := by
  refine Option.ext fun stop => ?_
  rw [find, findFrom_eq_some_iff]
  constructor
  · rintro ⟨front, c, hc, hstop, -⟩
    by_cases hbefore : c.before = []
    · rwa [hc.eq_start hbefore] at hstop
    · rw [h c hbefore] at hstop
      cases hstop
  · exact fun hstop => ⟨[], _, .refl _, hstop, noneBefore_zero r _⟩

end RequestBinding.Regex
