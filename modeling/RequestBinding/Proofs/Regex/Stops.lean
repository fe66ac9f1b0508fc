import Mathlib.Data.List.Basic
import Mathlib.Data.List.Induction
import RequestBinding.Proofs.Regex.Search

/-!
# Lists of stops

Stops are listed in order of preference, and only the first one at each place counts. A stop that is
not the first one at its place may be dropped before something follows, so lists of stops can be put
together step by step. The stops of every expression are behind the place where it is matched, each
place at most once.

## Main definitions

* `fresh`, `behind` - places that are not taken, and stops that follow a stop
* `Orderly` - lists in which no place occurs twice

## Main statements

* `firsts_append`, `firsts_map` - the first stops of lists
* `follow_firsts`, `follow_follow` - what follows stops
* `orderly_stops` - the stops of every expression are orderly
-/

namespace RequestBinding.Regex

/-! ## The first stop at each place -/

/-- No stop of a list is at the place of `t`. -/
def fresh (ss : List Stop) (t : Stop) : Bool := ss.all (·.cursor.left != t.cursor.left)

theorem fresh_eq_false {ss : List Stop} {t : Stop} :
    fresh ss t = false ↔ ∃ s ∈ ss, s.cursor.left = t.cursor.left := by
  simp [fresh]

theorem fresh_append (ss ts : List Stop) (u : Stop) :
    fresh (ss ++ ts) u = (fresh ss u && fresh ts u) := List.all_append

theorem fresh_congr (ss : List Stop) {t u : Stop} (h : t.cursor.left = u.cursor.left) :
    fresh ss t = fresh ss u := by rw [fresh, fresh, h]

theorem Found.has_foldl_add (ss : List Stop) (t : Stop) :
    (ss.foldl Found.add .none).has t.cursor = !fresh ss t := by
  have hvalid := Found.valid_none.foldl_add ss
  rw [Bool.eq_iff_iff, Bool.not_eq_true', fresh_eq_false, hvalid.has_iff]
  constructor
  · rintro ⟨s, hs, hl⟩
    rcases Found.mem_of_mem_foldl_add hs with hs | hs
    · exact ⟨s, hs, hl⟩
    · cases hs
  · rintro ⟨s, hs, hl⟩
    obtain ⟨u, hu, hul⟩ := hvalid.has_iff.1 (Found.valid_none.has_foldl_add hs)
    exact ⟨u, hu, hul.trans hl⟩

@[simp] theorem firsts_nil : firsts [] = [] := rfl

/-- A last stop counts if its place is fresh. -/
theorem firsts_concat (ss : List Stop) (t : Stop) :
    firsts (ss ++ [t]) = firsts ss ++ [t].filter (fresh ss) := by
  have hhas := Found.has_foldl_add ss t
  rw [firsts, List.foldl_append, List.foldl_cons, List.foldl_nil, Found.add, hhas]
  cases h : fresh ss t with
  | true => simp [h, Found.toList, firsts]
  | false => simp [h, Found.toList, firsts]

/-- Later stops count at the places that the earlier ones leave fresh. -/
theorem firsts_append (ss ts : List Stop) :
    firsts (ss ++ ts) = firsts ss ++ (firsts ts).filter (fresh ss) := by
  induction ts using List.reverseRecOn with
  | nil => simp
  | append_singleton ts t ih =>
    have hboth : [t].filter (fresh (ss ++ ts)) =
        ([t].filter (fresh ts)).filter (fresh ss) := by
      rw [List.filter_filter]
      exact List.filter_congr fun u _ => fresh_append ss ts u
    rw [← List.append_assoc, firsts_concat, ih, firsts_concat, List.filter_append, hboth,
      List.append_assoc]

/-- The first stops take all places. -/
theorem fresh_firsts (ss : List Stop) (t : Stop) : fresh (firsts ss) t = fresh ss t := by
  induction ss using List.reverseRecOn with
  | nil => rfl
  | append_singleton ss s ih =>
    rw [firsts_concat, fresh_append, fresh_append, ih]
    cases hs : fresh ss s with
    | true => simp [hs]
    | false =>
      -- a stop at a place that is taken does not make a further place taken
      by_cases hl : s.cursor.left = t.cursor.left
      · rw [← fresh_congr ss hl, hs]
        simp
      · have hne : fresh [s] t = true := by simp [fresh, hl]
        have hnone : [s].filter (fresh ss) = [] := by simp [hs]
        rw [hne, hnone]
        rfl

theorem firsts_singleton (s : Stop) : firsts [s] = [s] := firsts_concat [] s

@[simp] theorem firsts_firsts (ss : List Stop) : firsts (firsts ss) = firsts ss := by
  induction ss using List.reverseRecOn with
  | nil => rfl
  | append_singleton ss s ih =>
    have hlast : firsts ([s].filter (fresh ss)) = [s].filter (fresh ss) := by
      cases h : fresh ss s with
      | true => simpa [h] using firsts_singleton s
      | false => simp [h]
    rw [firsts_concat, firsts_append, ih, hlast, List.filter_filter]
    congr 1
    refine List.filter_congr fun t _ => ?_
    rw [fresh_firsts, Bool.and_self]

theorem firsts_firsts_append (ss ts : List Stop) :
    firsts (firsts ss ++ ts) = firsts (ss ++ ts) := by
  rw [firsts_append, firsts_append, firsts_firsts]
  congr 1
  exact List.filter_congr fun t _ => fresh_firsts ss t

theorem firsts_append_firsts (ss ts : List Stop) :
    firsts (ss ++ firsts ts) = firsts (ss ++ ts) := by
  rw [firsts_append, firsts_append, firsts_firsts]

theorem mem_of_mem_firsts {ss : List Stop} {s : Stop} (h : s ∈ firsts ss) : s ∈ ss := by
  rcases Found.mem_of_mem_foldl_add (List.mem_reverse.1 h) with h | h
  · exact h
  · cases h

/-- The first stop of all stays the first one. -/
theorem head?_firsts (ss : List Stop) : (firsts ss).head? = ss.head? := by
  cases ss with
  | nil => rfl
  | cons s ss =>
    rw [← List.singleton_append, firsts_append, firsts_singleton]
    rfl

/-- What is done to stops at their places does not matter. -/
theorem firsts_map {f : Stop → Stop} (hf : ∀ s, (f s).cursor = s.cursor) (ss : List Stop) :
    firsts (ss.map f) = (firsts ss).map f := by
  induction ss using List.reverseRecOn with
  | nil => rfl
  | append_singleton ss s ih =>
    have hfresh : fresh (ss.map f) (f s) = fresh ss s := by
      simp only [fresh, List.all_map, Function.comp_def, hf]
    rw [List.map_append, List.map_singleton, firsts_concat, ih, firsts_concat, List.map_append]
    cases h : fresh ss s with
    | true => simp [h, hfresh]
    | false => simp [h, hfresh]

theorem firsts_after (k : List Capture) (ss : List Stop) :
    firsts (ss.map (Stop.after k)) = (firsts ss).map (Stop.after k) := by
  have hcursor : ∀ s : Stop, (s.after k).cursor = s.cursor := fun _ => rfl
  exact firsts_map hcursor ss

theorem firsts_flatMap_firsts {α : Type} (f : α → List Stop) (as : List α) :
    firsts (as.flatMap fun a => firsts (f a)) = firsts (as.flatMap f) := by
  induction as with
  | nil => rfl
  | cons a as ih =>
    rw [List.flatMap_cons, List.flatMap_cons, firsts_firsts_append, ← firsts_append_firsts, ih,
      firsts_append_firsts]

/-! ## Following stops -/

/-- Stops with as many characters left are at the same place. -/
def Comparable (ss : List Stop) : Prop :=
  ∀ s ∈ ss, ∀ t ∈ ss, s.cursor.left = t.cursor.left → s.cursor = t.cursor

/-- The stops behind a stop. -/
def behind (next : Cursor → List Stop) (s : Stop) : List Stop :=
  (next s.cursor).map (Stop.after s.captures)

theorem follow_eq (ss : List Stop) (next : Cursor → List Stop) :
    follow ss next = firsts (ss.flatMap (behind next)) := rfl

theorem after_after (k l : List Capture) (s : Stop) :
    (s.after l).after k = s.after (k ++ l) := by simp [Stop.after]

/-- A stop that is not the first one at its place may be dropped. -/
theorem follow_firsts {ss : List Stop} (h : Comparable ss) (next : Cursor → List Stop) :
    follow (firsts ss) next = follow ss next := by
  induction ss using List.reverseRecOn with
  | nil => rfl
  | append_singleton ss s ih =>
    have hss : Comparable ss := fun t ht u hu =>
      h t (List.mem_append_left _ ht) u (List.mem_append_left _ hu)
    have ih := ih hss
    simp only [follow_eq] at ih ⊢
    rw [firsts_concat, List.flatMap_append, List.flatMap_append, ← firsts_firsts_append, ih,
      firsts_firsts_append]
    cases hs : fresh ss s with
    | true => simp [hs]
    | false =>
      -- whatever lies behind the dropped stop lies behind the first one at its place
      obtain ⟨t, ht, hl⟩ := fresh_eq_false.1 hs
      have hcursor := h t (List.mem_append_left _ ht) s (List.mem_append_right _
        List.mem_cons_self) hl
      have htaken : (firsts ([s].flatMap (behind next))).filter
          (fresh (ss.flatMap (behind next))) = [] := by
        rw [List.filter_eq_nil_iff]
        intro u hu
        have hu := mem_of_mem_firsts hu
        simp only [List.flatMap_singleton, behind, List.mem_map] at hu
        obtain ⟨v, hv, rfl⟩ := hu
        rw [Bool.not_eq_true, fresh_eq_false]
        refine ⟨v.after t.captures, List.mem_flatMap.2 ⟨t, ht, ?_⟩, rfl⟩
        exact List.mem_map_of_mem (hcursor ▸ hv)
      rw [firsts_append _ ([s].flatMap (behind next)), htaken]
      simp [hs]

theorem follow_append (ss ts : List Stop) (next : Cursor → List Stop) :
    follow (ss ++ ts) next = firsts (follow ss next ++ follow ts next) := by
  simp only [follow_eq]
  rw [List.flatMap_append, firsts_firsts_append, firsts_append_firsts]

theorem follow_here (c : Cursor) (next : Cursor → List Stop) :
    follow [⟨[], c⟩] next = firsts (next c) := by
  have hid : Stop.after [] = id := rfl
  simp [follow_eq, behind, hid]

theorem follow_skip (ss : List Stop) : follow ss (fun d => [⟨[], d⟩]) = firsts ss := by
  have hone : behind (fun d => [⟨[], d⟩]) = fun s => [s] := by
    funext s
    simp [behind, Stop.after]
  rw [follow_eq, hone, List.flatMap_singleton']

/-- Following stops twice. -/
theorem follow_follow {ss : List Stop} {next : Cursor → List Stop}
    (h : Comparable (ss.flatMap (behind next))) (last : Cursor → List Stop) :
    follow (follow ss next) last = follow ss fun d => follow (next d) last := by
  have hinner : behind (fun d => follow (next d) last) = fun s =>
      firsts ((behind next s).flatMap (behind last)) := by
    funext s
    rw [behind, follow_eq, ← firsts_after]
    simp only [behind, List.map_flatMap, List.flatMap_map, List.map_map]
    congr 1
    refine List.flatMap_congr fun t _ => List.map_congr_left fun u _ => ?_
    exact after_after s.captures t.captures u
  rw [follow_eq ss next, follow_firsts h, follow_eq, follow_eq,
    hinner, firsts_flatMap_firsts, List.flatMap_assoc]

/-! ## Orderly lists -/

/-- A stop is behind a place, or there. -/
def Ahead (c : Cursor) (s : Stop) : Prop := ∃ t, c.Takes t s.cursor

theorem ahead_here (c : Cursor) (k : List Capture) : Ahead c ⟨k, c⟩ := ⟨[], Cursor.Takes.refl c⟩

theorem Ahead.behind {c : Cursor} {s t : Stop} (hs : Ahead c s) (ht : Ahead s.cursor t)
    (k : List Capture) : Ahead c (t.after k) := by
  obtain ⟨u, hu⟩ := hs
  obtain ⟨v, hv⟩ := ht
  exact ⟨u ++ v, hu.trans hv⟩

theorem comparable_of_ahead {c : Cursor} {ss : List Stop} (h : ∀ s ∈ ss, Ahead c s) :
    Comparable ss := by
  intro s hs t ht hl
  obtain ⟨u, hu⟩ := h s hs
  obtain ⟨v, hv⟩ := h t ht
  exact hu.right_unique hv hl

/-- A list of stops behind a place in which no place occurs twice. -/
structure Orderly (c : Cursor) (ss : List Stop) : Prop where
  distinct : firsts ss = ss
  ahead : ∀ s ∈ ss, Ahead c s

namespace Orderly

variable {c : Cursor} {ss : List Stop}

theorem nil (c : Cursor) : Orderly c [] := ⟨rfl, fun _ h => (List.not_mem_nil h).elim⟩

theorem singleton {s : Stop} (h : Ahead c s) : Orderly c [s] := by
  refine ⟨firsts_singleton s, fun t ht => ?_⟩
  rwa [List.mem_singleton.1 ht]

theorem firsts (h : ∀ s ∈ ss, Ahead c s) : Orderly c (firsts ss) :=
  ⟨firsts_firsts ss, fun s hs => h s (mem_of_mem_firsts hs)⟩

theorem follow {next : Cursor → List Stop} (h : Orderly c ss)
    (hn : ∀ d, Orderly d (next d)) : Orderly c (follow ss next) := by
  refine firsts fun s hs => ?_
  obtain ⟨a, ha, hs⟩ := List.mem_flatMap.1 hs
  obtain ⟨b, hb, rfl⟩ := List.mem_map.1 hs
  exact (h.ahead a ha).behind ((hn a.cursor).ahead b hb) a.captures

theorem append {ts : List Stop} (h : Orderly c ss) (h' : Orderly c ts) :
    Orderly c (Regex.firsts (ss ++ ts)) :=
  firsts fun s hs => (List.mem_append.1 hs).elim (h.ahead s) (h'.ahead s)

theorem map {f : Stop → Stop} (hf : ∀ s, (f s).cursor = s.cursor) (h : Orderly c ss) :
    Orderly c (ss.map f) := by
  refine ⟨by rw [firsts_map hf, h.distinct], fun s hs => ?_⟩
  obtain ⟨a, ha, rfl⟩ := List.mem_map.1 hs
  obtain ⟨t, ht⟩ := h.ahead a ha
  exact ⟨t, by rwa [hf]⟩

theorem iterated {body : Cursor → List Stop} (hb : ∀ d, Orderly d (body d)) (n : Nat)
    (h : Orderly c ss) : Orderly c (Regex.iterated body n ss) := by
  induction n generalizing ss with
  | zero => exact h
  | succ n ih =>
    cases ss with
    | nil => exact nil c
    | cons s ss => exact ih (h.follow hb)

theorem optionally {body : Cursor → List Stop} (h : Orderly c (body c)) (greedy : Bool) :
    Orderly c (Regex.optionally body greedy c) := by
  have here := singleton (ahead_here c [])
  cases greedy with
  | true => exact h.append here
  | false => exact here.append h

end Orderly

/-! ## Loops and programs -/

/-- Stops that were added one after the other, all of them behind a place. -/
def Found.Gathers (c : Cursor) (f : Found) : Prop :=
  ∃ ss : List Stop, f = ss.foldl Found.add .none ∧ ∀ s ∈ ss, Ahead c s

namespace Found.Gathers

variable {c : Cursor} {f : Found}

theorem none (c : Cursor) : Found.none.Gathers c := ⟨[], rfl, fun _ h => (List.not_mem_nil h).elim⟩

theorem add (h : f.Gathers c) {s : Stop} (hs : Ahead c s) : (f.add s).Gathers c := by
  obtain ⟨ss, rfl, hss⟩ := h
  refine ⟨ss ++ [s], by rw [List.foldl_append]; rfl, fun t ht => ?_⟩
  rcases List.mem_append.1 ht with ht | ht
  · exact hss t ht
  · rwa [List.mem_singleton.1 ht]

theorem orderly (h : f.Gathers c) : Orderly c f.toList := by
  obtain ⟨ss, rfl, hss⟩ := h
  exact Orderly.firsts hss

/-- A loop adds stops behind the place where it starts. -/
theorem iterate {body : Cursor → List Stop} (hb : ∀ d, ∀ e ∈ body d, Ahead d e) (greedy : Bool)
    (s : Stop) (f : Found) (h : f.Gathers c) (hs : Ahead c s) :
    (Regex.iterate body greedy s f).Gathers c := by
  induction hn : s.cursor.left using Nat.strongRecOn generalizing s f with
  | ind n ih =>
    have hgo : ∀ es : List Stop, (∀ e ∈ es, Ahead s.cursor e) → ∀ f : Found, f.Gathers c →
        (goOn body greedy s es f).Gathers c := by
      intro es
      induction es with
      | nil => exact fun _ f hf => hf
      | cons e es ihes =>
        intro hes f hf
        have hrest := ihes fun e' he' => hes e' (List.mem_cons_of_mem e he')
        by_cases hlt : e.cursor.left < s.cursor.left
        · rw [goOn_cons_of_lt hlt]
          have he := hs.behind (hes e List.mem_cons_self) s.captures
          exact hrest _ (ih _ (hn ▸ hlt) (e.after s.captures) f hf he rfl)
        · rw [goOn_cons_of_not_lt hlt]
          exact hrest f hf
    rw [iterate_eq]
    split
    · exact h
    · split
      · exact (hgo _ (hb s.cursor) f h).add hs
      · exact hgo _ (hb s.cursor) _ (h.add hs)

end Found.Gathers

namespace Program

variable {p : Program} {c : Cursor} {t : Thread}

/-- A thread continues where it is or behind the next character. -/
theorem ahead_next (ht : Ahead c ⟨t.captures, t.cursor⟩) {ts : List Thread}
    (h : t.step p = .inl ts) : ∀ u ∈ ts, Ahead c ⟨u.captures, u.cursor⟩ := by
  unfold Thread.step at h
  split at h
  · next s next _ =>
    split at h
    · next x d hnext =>
      cases h
      intro u hu
      split at hu
      · rw [List.mem_singleton.1 hu]
        have hd : Ahead t.cursor ⟨[], d⟩ := ⟨[x], Cursor.next?_eq_some.1 hnext⟩
        exact ht.behind hd t.captures
      · cases hu
    · cases h
      exact fun _ hu => (List.not_mem_nil hu).elim
  · cases h
    intro u hu
    split at hu
    · rw [List.mem_singleton.1 hu]
      exact ht
    · cases hu
  · cases h
    intro u hu
    rcases List.mem_cons.1 hu with rfl | hu
    · exact ht
    · rw [List.mem_singleton.1 hu]
      exact ht
  · cases h
    intro u hu
    rw [List.mem_singleton.1 hu]
    exact ht
  · split at h
    · cases h
      intro u hu
      rw [List.mem_singleton.1 hu]
      exact ht
    · cases h
      exact fun _ hu => (List.not_mem_nil hu).elim
  · cases h
  · cases h
    exact fun _ hu => (List.not_mem_nil hu).elim

theorem ahead_stop (ht : Ahead c ⟨t.captures, t.cursor⟩) {s : Stop} (h : t.step p = .inr s) :
    Ahead c s := by
  unfold Thread.step at h
  split at h
  · split at h <;> cases h
  · cases h
  · cases h
  · cases h
  · split at h <;> cases h
  · cases h
    exact ht
  · cases h

/-- A search adds stops behind the place where its threads start. -/
theorem gathers_search (fuel : Nat) (ts : List Thread)
    (hts : ∀ t ∈ ts, Ahead c ⟨t.captures, t.cursor⟩) (visited : Array Nat) (f : Found)
    (h : f.Gathers c) : (p.search fuel ts visited f).Gathers c := by
  induction fuel generalizing ts visited f with
  | zero =>
    rw [search]
    exact h
  | succ fuel ih =>
    cases ts with
    | nil =>
      rw [search]
      exact h
    | cons t rest =>
      have ht := hts t List.mem_cons_self
      have hrest := fun u hu => hts u (List.mem_cons_of_mem t hu)
      rw [search]
      simp only
      split
      · exact ih rest hrest _ f h
      · split
        · next next hnext =>
          refine ih _ (fun u hu => ?_) _ f h
          exact (List.mem_append.1 hu).elim (ahead_next ht hnext u) (hrest u)
        · next s hs => exact ih rest hrest _ _ (h.add (ahead_stop ht hs))

end Program

theorem orderly_searched (r : Regex) (c : Cursor) : Orderly c (searched r c) := by
  refine Found.Gathers.orderly (Program.gathers_search _ _ (fun t ht => ?_) _ _ (.none c))
  rw [List.mem_singleton.1 ht]
  exact ahead_here c []

theorem orderly_repeated {body : Cursor → List Stop} (hb : ∀ d, Orderly d (body d)) (r : Regex)
    (greedy : Bool) (low : Nat) (high : Option Nat) (c : Cursor) :
    Orderly c (repeated r body greedy low high c) := by
  have hstart : ∀ n, Orderly c (iterated body n [⟨[], c⟩]) := fun n =>
    (Orderly.singleton (ahead_here c [])).iterated hb n
  have hloop : ∀ d, Orderly d (anyNumber body greedy d) := fun d =>
    (Found.Gathers.iterate (fun d e => (hb d).ahead e) greedy _ _ (.none d)
      (ahead_here d [])).orderly
  unfold repeated
  split
  · exact (hb c).optionally greedy
  · split
    · exact orderly_searched _ c
    · split
      · simp only
        split
        · exact hstart low
        · exact (hstart low).follow fun d => orderly_searched _ d
      · split
        · exact (hstart low).follow hloop
        · exact (hstart (low - 1)).follow fun d => orderly_searched _ d

/-- The stops of every expression are behind the place where it is matched, each place at most
once. -/
theorem orderly_stops (r : Regex) (c : Cursor) : Orderly c (r.stops c) := by
  induction r generalizing c with
  | empty => exact .singleton (ahead_here c [])
  | literal text =>
    simp only [stops]
    split
    · next d hd => exact .singleton ⟨text, Cursor.skip?_eq_some.1 hd⟩
    · exact .nil c
  | set s =>
    simp only [stops]
    split
    · next x d hd =>
      split
      · exact .singleton ⟨[x], Cursor.next?_eq_some.1 hd⟩
      · exact .nil c
    · exact .nil c
  | look l =>
    simp only [stops]
    split
    · exact .singleton (ahead_here c [])
    · exact .nil c
  | seq r s ihr ihs => exact (ihr c).follow ihs
  | alt r s ihr ihs => exact (ihr c).append (ihs c)
  | rep greedy low high r ih => exact orderly_repeated ih r greedy low high c
  | group name r ih => exact (ih c).map fun _ => rfl

end RequestBinding.Regex
