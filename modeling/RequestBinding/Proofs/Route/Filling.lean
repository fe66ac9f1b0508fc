import RequestBinding.Proofs.Route.Alternatives
import RequestBinding.Proofs.Route.Captures
import RequestBinding.Proofs.Template.Outline
import RequestBinding.Proofs.Text.Percent

/-!
# Paths built from values

A template whose placeholders fill whole segments of a path is filled in with a value for each
placeholder, encoded so that it stays within its segment. The route of the template captures just
these values from the path: since each placeholder ends where its segment ends, there is only one
way to cut the path along the template.

## Main definitions

* `Segment.fill` - a template filled in with values
* `Segment.Whole` - placeholders without constraints that fill their segments up to the end

## Main statements

* `Segment.Whole.cut_fill` - the values are the pieces of a cut
* `Segment.Whole.eq_of_cut` - there is no other cut
* `Route.captures_of_fill` - a route captures the values
-/

namespace RequestBinding

namespace Segment

/-! ## Filling in -/

/-- The text of a sequence of segments with an encoded value in the place of each placeholder. -/
def fill : List Segment → List String → List Char
  | .literal text :: rest, values => text ++ fill rest values
  | .placeholder _ _ :: rest, v :: values => (Percent.encode v).toList ++ fill rest values
  | _, _ => []

/-- The values of the placeholders by their keys, encoded. -/
def filled (ss : List Segment) (values : List String) : List (String × List Char) :=
  (keys ss).zip (values.map fun v => (Percent.encode v).toList)

/-- Literals and placeholders alone, where no placeholder has a constraint, and each one is followed
by a slash or by the end. -/
inductive Whole (cs : Constraints) : List Segment → Prop
  | nil : Whole cs []
  | literal {text : List Char} {rest : List Segment} (h : Whole cs rest) :
      Whole cs (.literal text :: rest)
  | placeholder {resource field : List Char} {rest : List Segment}
      (hfree : cs.nearest? (String.ofList resource) (String.ofList field) = none)
      (hbreak : AtBreak (render rest)) (h : Whole cs rest) :
      Whole cs (.placeholder resource field :: rest)

variable {cs : Constraints} {ss : List Segment} {values : List String}

/-! ## Cuts -/

namespace Whole

/-- The values of a template that is filled in are the pieces of a cut. -/
theorem cut_fill (h : Whole cs ss) (hlength : values.length = (keys ss).length)
    (hvalues : ∀ v ∈ values, v ≠ "") : Cut cs ss (fill ss values) (filled ss values) := by
  induction h generalizing values with
  | nil => exact .nil
  | @literal text rest h ih =>
    rw [fill, filled, keys, keysOne]
    exact .cons (.literal text) (ih hlength hvalues)
  | @placeholder resource field rest hfree hbreak h ih =>
    cases values with
    | nil => cases hlength
    | cons v values =>
      obtain ⟨hv, hvalues⟩ := List.forall_mem_cons.1 hvalues
      rw [fill, filled, keys, keysOne]
      have hfits := (Constraints.fits_rest_iff hfree _).2 (Percent.toList_encode_spec hv)
      exact .cons (.placeholder hfits) (ih (Nat.succ.inj hlength) hvalues)

/-- A template that is filled in has no other cut. -/
theorem eq_of_cut (h : Whole cs ss) (hlength : values.length = (keys ss).length)
    (hvalues : ∀ v ∈ values, v ≠ "") {pairs : List (String × List Char)}
    (hcut : Cut cs ss (fill ss values) pairs) : pairs = filled ss values := by
  generalize htext : fill ss values = path at hcut
  induction h generalizing values path pairs with
  | nil =>
    cases hcut
    rfl
  | @literal literal rest h ih =>
    cases hcut with
    | cons hone hrest =>
      cases hone
      exact ih hlength hvalues _ (List.append_cancel_left htext) hrest
  | @placeholder resource field rest hfree hbreak h ih =>
    cases values with
    | nil => cases hlength
    | cons v values =>
      obtain ⟨hv, hvalues⟩ := List.forall_mem_cons.1 hvalues
      have hlength := Nat.succ.inj hlength
      cases hcut with
      | @cons _ _ piece text _ more hone hrest =>
        cases hone with
        | placeholder hfits =>
          -- both the value and the piece go up to the next break
          have hpiece := slash_not_mem_of_fits hfits
          have hvalue : '/' ∉ (Percent.encode v).toList := by
            intro hmem
            exact ((Percent.toList_encode_spec hv).2 _ hmem).1 rfl
          obtain ⟨rfl, hrest'⟩ := AtBreak.append_inj
            (atBreak_of_cut hbreak (h.cut_fill hlength hvalues))
            (atBreak_of_cut hbreak hrest) hvalue hpiece htext
          rw [ih hlength hvalues _ hrest' hrest]
          rfl

/-! ## Constraints -/

/-- Without constraints for its placeholders, a template has the pattern that it has without any
constraints. -/
theorem source_eq (h : Whole cs ss) (n : Nat) :
    source cs.pattern n ss = source Constraints.empty.pattern n ss := by
  induction h generalizing n with
  | nil => rfl
  | literal h ih => rw [source, source, ih, sourceOne, sourceOne]
  | placeholder hfree hbreak h ih =>
    rw [source, source, ih, sourceOne, sourceOne, cs.pattern_eq, hfree]
    rfl

theorem pattern?_eq (h : Whole cs ss) :
    pattern? cs.pattern ss = pattern? Constraints.empty.pattern ss := by
  rw [pattern?, pattern?, h.source_eq]

theorem empty (h : Whole cs ss) : Whole .empty ss := by
  induction h with
  | nil => exact .nil
  | literal h ih => exact .literal ih
  | placeholder hfree hbreak h ih => exact .placeholder rfl hbreak ih

end Whole

end Segment

/-! ## Routes -/

namespace Route

variable {cs : Constraints} {r : Route} {ss : List Segment} {values : List String}

/-- The values of a template that is filled in are decoded as they were. -/
theorem map_decodeText_filled (ss : List Segment) (values : List String) :
    (Segment.filled ss values).map (fun p => (p.1, Percent.decodeText (String.ofList p.2))) =
      (Segment.keys ss).zip values := by
  have hround : ∀ v : String,
      Percent.decodeText (String.ofList (Percent.encode v).toList) = v := by
    intro v
    rw [String.ofList_toList, Percent.decodeText_encode]
  rw [Segment.filled, List.zip_map_right, List.map_map]
  simp only [Function.comp_def, Prod.map_fst, Prod.map_snd, hround, id_eq, Prod.mk.eta,
    List.map_id']

/-- A template of literals and placeholders without constraints, each of which goes up to a slash or
the end, is filled in with values that are not empty. A route with this template captures just these
values from the path, in the order of the template. What stands before the placeholders does not
matter. -/
theorem captures_of_fill (h : r.CompiledFrom cs (Segment.render ss)) (hss : Segment.Normal ss)
    (hwhole : Segment.Whole cs ss) (hlength : values.length = (Segment.keys ss).length)
    (hvalues : ∀ v ∈ values, v ≠ "") : r.captures (String.ofList (Segment.fill ss values)) =
      some ⟨(Segment.keys ss).zip values⟩ := by
  -- the pattern is the one without any constraints, and these are built in
  have hbuilt : Constraints.empty.BuiltIn := nofun
  have hfree := hwhole.empty
  have hts : ∀ t ∈ [Template.mk "" ss], Segment.Normal t.segments := by
    intro t ht
    rwa [List.mem_singleton.1 ht]
  have hsegments : [Template.mk "" ss].flatMap (·.segments) = ss := List.append_nil ss
  have hp : Pattern.ofTemplates .empty [⟨"", ss⟩] = some r.pattern := by
    rw [Pattern.ofTemplates_eq, hsegments, ← hwhole.pattern?_eq]
    exact h.pattern (Segment.legible_of_normal hss) rfl
  have hfind : (r.pattern.regex.find (Segment.fill ss values)).isSome = true := by
    rw [Pattern.find_isSome_iff hbuilt hts hp, hsegments]
    exact ⟨_, hfree.cut_fill hlength hvalues⟩
  obtain ⟨stop, hstop⟩ := Option.isSome_iff_exists.1 hfind
  obtain ⟨pairs, hcut, hpairs⟩ := Pattern.exists_cut_of_find hbuilt hts hp hstop
  rw [hsegments] at hcut
  have hcaptures : (capturesOf r.pattern.groups stop).pairs = (Segment.keys ss).zip values := by
    rw [← map_decodeText_filled, ← hfree.eq_of_cut hlength hvalues hcut, ← hpairs,
      List.map_filterMap]
    simp only [capturesOf, Option.map_map, Function.comp_def]
  rw [captures, String.toList_ofList, hstop, Option.map_some, ← hcaptures]

/-- The route of the text of a file in a directory; a constraint for other fields does not matter. -/
def rawFile : Except RouteError Route :=
  Declaration.route ⟨"file", ["/tree/\x7bfile.dir\x7d"], .empty, ⟨[("id", .digits)]⟩⟩
    ⟨.get, "raw", "/raw/\x7bfile.name\x7d"⟩

/-- The segments of the template of a file. -/
def rawSegments : List Segment :=
  [.literal "/tree/".toList, .placeholder "file".toList "dir".toList, .literal "/raw/".toList,
    .placeholder "file".toList "name".toList]

theorem captures_of_fill_rawFile : ∃ r, rawFile = .ok r ∧
    r.captures "/tree/a%2Fb%3Fc%23d/raw/50%25%2B%252F%20%C3%A9" =
      some ⟨[("file.dir", "a/b?c#d"), ("file.name", "50%+%2F é")]⟩ := by
  obtain ⟨r, hr⟩ : ∃ r, rawFile = .ok r := exists_of_isOk (by decide +kernel)
  have hcompiled : r.CompiledFrom ⟨[("id", .digits)]⟩ (Segment.render rawSegments) :=
    compiledFrom_of_route hr
  have hnormal : Segment.Normal rawSegments := by
    simp [rawSegments, Segment.Normal, Segment.NormalOne, Segment.isLiteral, Segment.isMark,
      Segment.isName, Segment.isNameChar]
  have hwhole : Segment.Whole ⟨[("id", .digits)]⟩ rawSegments :=
    .literal (.placeholder rfl (Segment.atBreak_slash _)
      (.literal (.placeholder rfl Segment.atBreak_nil .nil)))
  have hvalues : ∀ v ∈ ["a/b?c#d", "50%+%2F é"], v ≠ "" := by decide
  have hpath : String.ofList (Segment.fill rawSegments ["a/b?c#d", "50%+%2F é"]) =
      "/tree/a%2Fb%3Fc%23d/raw/50%25%2B%252F%20%C3%A9" := by decide +kernel
  have hpairs : (Segment.keys rawSegments).zip ["a/b?c#d", "50%+%2F é"] =
      [("file.dir", "a/b?c#d"), ("file.name", "50%+%2F é")] := by decide +kernel
  have hlength : ["a/b?c#d", "50%+%2F é"].length = (Segment.keys rawSegments).length := by
    decide +kernel
  refine ⟨r, hr, ?_⟩
  rw [← hpath, ← hpairs]
  exact captures_of_fill hcompiled hnormal hwhole hlength hvalues

end Route

end RequestBinding
