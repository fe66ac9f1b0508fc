import RequestBinding.Resolver

/-!
# What a bag holds for a field

Of the places where a field is looked for, the first one that is there decides, and a null or a
missing entry there is no value. Only four entries of a bag matter for a field: the one under its
qualified name, the one under its resource, the one under its bare name, and the type hint.

## Main definitions

* `Resolver.Concerns` - what a request is about
* `Resolver.Decides` - the entry that decides on a field
* `Resolver.Gives` - the value of a field

## Main statements

* `Resolver.lookup_eq_iff` - looking a field up gives its value
* `Resolver.lookup_congr` - the entries that matter for a field
-/

namespace RequestBinding.Resolver

variable {p : Params} {mainType : String} {f : Field}

/-- A request is about the resource that the type hint names, if the hint is a text, and about the
main type otherwise. -/
inductive Concerns (p : Params) (mainType : String) : String → Prop
  | hint {type : String} (h : p.get? Params.typeKey = some (.str type)) : Concerns p mainType type
  | main (h : ∀ type, p.get? Params.typeKey ≠ some (.str type)) : Concerns p mainType mainType

/-- The entry that decides on a field, or none if it is missing in the place that decides. -/
inductive Decides (p : Params) (mainType : String) (f : Field) : Option Json → Prop
  | qualified {v : Json} (hq : p.get? f.qualified = some v) : Decides p mainType f (some v)
  | nested {members : List (String × Json)} (hq : p.get? f.qualified = none)
      (ho : p.get? f.owner = some (.obj members)) :
      Decides p mainType f (Members.get? f.name members)
  | bare (hq : p.get? f.qualified = none) (ho : ∀ members, p.get? f.owner ≠ some (.obj members))
      (ht : Concerns p mainType f.owner) : Decides p mainType f (p.get? f.name)
  | nowhere (hq : p.get? f.qualified = none) (ho : ∀ members, p.get? f.owner ≠ some (.obj members))
      (ht : ¬ Concerns p mainType f.owner) : Decides p mainType f none

/-- The value of a field: the entry that decides, unless it is null or missing. -/
inductive Gives (p : Params) (mainType : String) (f : Field) : Option Json → Prop
  | value {v : Json} (h : Decides p mainType f (some v)) (hv : v ≠ .null) :
      Gives p mainType f (some v)
  | null (h : Decides p mainType f (some .null)) : Gives p mainType f none
  | missing (h : Decides p mainType f none) : Gives p mainType f none

/-! ## Types -/

theorem Concerns.unique {s t : String} (hs : Concerns p mainType s) (ht : Concerns p mainType t) :
    s = t := by
  cases hs with
  | hint h =>
    cases ht with
    | hint h' =>
      rw [h] at h'
      cases h'
      rfl
    | main h' => exact absurd h (h' s)
  | main h =>
    cases ht with
    | hint h' => exact absurd h' (h t)
    | main => rfl

theorem concerns_effectiveTypeOf (p : Params) (mainType : String) :
    Concerns p mainType (effectiveTypeOf p mainType) := by
  rw [effectiveTypeOf, Params.typeHint]
  cases h : p.get? Params.typeKey with
  | none =>
    refine .main fun type heq => ?_
    rw [h] at heq
    cases heq
  | some v =>
    cases v with
    | str type => exact .hint h
    | _ =>
      refine .main fun type heq => ?_
      rw [h] at heq
      cases heq

theorem effectiveTypeOf_eq_iff {type : String} :
    effectiveTypeOf p mainType = type ↔ Concerns p mainType type := by
  constructor
  · rintro rfl
    exact concerns_effectiveTypeOf p mainType
  · exact (concerns_effectiveTypeOf p mainType).unique

/-! ## Values -/

theorem decides_tierOf (p : Params) (mainType : String) (f : Field) :
    Decides p mainType f (tierOf p mainType f).2 := by
  unfold tierOf
  split
  · next v hq => exact .qualified hq
  · next hq =>
    split
    · next members ho => exact .nested hq ho
    · next ho =>
      split
      · next ht => exact .bare hq ho (effectiveTypeOf_eq_iff.1 ht)
      · next ht => exact .nowhere hq ho fun h => ht (effectiveTypeOf_eq_iff.2 h)

/-- Each entry that decides rules out the other places. -/
theorem Decides.eq_tierOf {v : Option Json} (h : Decides p mainType f v) :
    v = (tierOf p mainType f).2 := by
  cases h with
  | qualified hq => rw [tierOf, hq]
  | nested hq ho => rw [tierOf, hq, ho]
  | bare hq ho ht =>
    rw [tierOf, hq]
    split
    · next heq => cases heq
    · split
      · next members heq => exact absurd heq (ho members)
      · rw [if_pos (effectiveTypeOf_eq_iff.2 ht)]
  | nowhere hq ho ht =>
    rw [tierOf, hq]
    split
    · next heq => cases heq
    · split
      · next members heq => exact absurd heq (ho members)
      · rw [if_neg fun h => ht (effectiveTypeOf_eq_iff.1 h)]

theorem Decides.gives {v : Option Json} (h : Decides p mainType f v) :
    Gives p mainType f (present v) := by
  cases v with
  | none => exact .missing h
  | some v =>
    cases v with
    | null => exact .null h
    | _ => exact .value h (by simp)

/-- Looking a field up in a bag gives its value. -/
theorem lookup_eq_iff {v : Option Json} : lookup p mainType f = v ↔ Gives p mainType f v := by
  constructor
  · rintro rfl
    exact (decides_tierOf p mainType f).gives
  · intro h
    rw [lookup]
    cases h with
    | value h hv =>
      rw [← h.eq_tierOf, present]
      intro heq
      exact hv (Option.some.inj heq)
    | null h =>
      rw [← h.eq_tierOf]
      rfl
    | missing h =>
      rw [← h.eq_tierOf]
      rfl

/-! ## Entries that matter -/

/-- Bags that agree on four entries agree on a field. -/
theorem lookup_congr {q : Params} (hqualified : p.get? f.qualified = q.get? f.qualified)
    (howner : p.get? f.owner = q.get? f.owner) (hname : p.get? f.name = q.get? f.name)
    (htype : p.get? Params.typeKey = q.get? Params.typeKey) :
    lookup p mainType f = lookup q mainType f := by
  have heffective : effectiveTypeOf p mainType = effectiveTypeOf q mainType := by
    rw [effectiveTypeOf, effectiveTypeOf, Params.typeHint, Params.typeHint, htype]
  rw [lookup, lookup, tierOf, tierOf, hqualified, howner, hname, heffective]

/-- A text under the qualified name of a field is its value, whatever else is in the bag. -/
theorem lookup_of_qualified {s : String} (h : p.get? f.qualified = some (.str s)) :
    lookup p mainType f = some (.str s) := by
  rw [lookup, tierOf, h]
  rfl

/-- A fresh resolver looks a field up. -/
theorem value_resolve_new (p : Params) (mainType : String) (jobs : Option JobRegistry) (f : Field) :
    ((new p mainType jobs).resolve f).value.1 = lookup p mainType f := rfl

end RequestBinding.Resolver
