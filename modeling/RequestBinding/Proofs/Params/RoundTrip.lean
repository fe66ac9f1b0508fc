import RequestBinding.Proofs.Json.RoundTrip
import RequestBinding.Proofs.Params.Additions
import RequestBinding.V3.BuildRequest

/-!
# Bags as JSON bodies

The text of a bag is read into the empty bag as the bag itself, if its numbers are integers of 64
bits and it is not nested too deeply. The contents of a job are such a bag, too.

## Main statements

* `Json.canonical_of_canonical` - sorted values are read as they are
* `Params.extendJson_render` - the text of a bag is read as the bag
-/

namespace RequestBinding

namespace Json

mutual

/-- Sorting does not change what is sorted. -/
theorem canonical_of_canonical (v : Json) (h : Canonical v) : canonical v = v := by
  match v with
  | .arr items =>
    rw [Canonical] at h
    rw [canonical, canonicalItems_of_canonical items h]
  | .obj members =>
    rw [Canonical] at h
    rw [canonical, canonicalMembers_of_canonical members h.2, Members.ofList_of_sorted h.1]
  | .null | .bool _ | .int _ | .float _ | .str _ => rw [canonical]; all_goals nofun

theorem canonicalItems_of_canonical (items : List Json) (h : CanonicalItems items) :
    canonicalItems items = items := by
  match items with
  | [] => rw [canonicalItems]
  | v :: rest =>
    rw [CanonicalItems] at h
    rw [canonicalItems, canonical_of_canonical v h.1, canonicalItems_of_canonical rest h.2]

theorem canonicalMembers_of_canonical (members : List (String × Json))
    (h : CanonicalMembers members) : canonicalMembers members = members := by
  match members with
  | [] => rw [canonicalMembers]
  | (k, v) :: rest =>
    rw [CanonicalMembers] at h
    rw [canonicalMembers, canonical_of_canonical v h.1, canonicalMembers_of_canonical rest h.2]

end

/-- Sorted values with integers of 64 bits alone, not nested too deeply. -/
structure Plain (v : Json) : Prop where
  canonical : v.Canonical
  whole : v.NumbersAre IsInt64 fun _ => False
  nesting : v.depth ≤ maxDepth

end Json

namespace Params

open BuildRequest (argument payload)

theorem empty_mergeMissing_entries (p : Params) : empty.mergeMissing p.entries = p :=
  eq_of_get? (get?_empty_mergeMissing p.entries)

/-- The text of an object does not begin with a blank. -/
theorem all_isBlankByte_render (members : List (String × Json)) :
    (Utf8.encode (Json.obj members).render).all isBlankByte = false := by
  rw [Utf8.encode, Json.render, String.toList_ofList, Json.renderChars_obj, Utf8.encodeChars_cons]
  rfl

/-- Bags are told by their objects. -/
theorem exists_toJson_eq {members : List (String × Json)} (h : (Json.obj members).Plain) :
    ∃ p : Params, p.toJson = .obj members :=
  ⟨⟨members, by
    have hcanonical := h.canonical
    rw [Json.Canonical] at hcanonical
    exact hcanonical.1⟩, rfl⟩

/-- The text of a bag is read as the bag. -/
theorem extendJson_toJson {p : Params} (h : p.toJson.Plain) :
    empty.extendJson (Utf8.encode p.toJson.render) = .ok p := by
  have hread : Json.readBytes (Utf8.encode p.toJson.render) = some p.toJson := by
    rw [Json.readBytes_render (h.whole.mono (fun _ => id) fun _ => False.elim), if_pos h.nesting,
      Json.reread_of_whole h.whole, Json.canonical_of_canonical _ h.canonical]
  rw [extendJson, toJson, all_isBlankByte_render, if_neg Bool.false_ne_true, ← toJson, hread]
  exact congrArg Except.ok p.empty_mergeMissing_entries

/-- The text of a bag is read into the empty bag as the bag, and so is the text of the contents of a
job, wherever these come from. -/
theorem extendJson_render :
    (∀ p : Params, p.toJson.Plain → empty.extendJson (Utf8.encode p.toJson.render) = .ok p) ∧
      ∀ (r : Resolver) (repository user : Json),
        (payload r repository user).value.1.Plain →
        ∃ text p, argument (payload r repository user).value.1 =
            .obj [("credentials", .obj []), ("payload", .str text), ("type", .str "api")] ∧
          p.toJson = (payload r repository user).value.1 ∧
          empty.extendJson (Utf8.encode text) = .ok p := by
  refine ⟨fun p => extendJson_toJson, fun r repository user h => ?_⟩
  obtain ⟨members, hmembers⟩ :
      ∃ members, (payload r repository user).value.1 = .obj members := ⟨_, rfl⟩
  rw [hmembers] at h ⊢
  obtain ⟨p, hp⟩ := exists_toJson_eq h
  rw [← hp] at h ⊢
  exact ⟨_, p, rfl, rfl, extendJson_toJson h⟩

/-- Every kind of value: empty containers, limits of integers, and texts with escapes. -/
def everyKindEntries : List (String × Json) :=
  [("", .null), ("branch", .str "quote \" backslash \\ tab \t nul \x00 and \u2028"),
    ("config", .obj [("", .arr [.obj [], .arr [], .bool false]), ("\x1f\n\u00e9", .null)]),
    ("numbers", .arr [.int (-9223372036854775808), .int (-1), .int 0, .int 18446744073709551615])]

theorem sorted_everyKindEntries : Members.Sorted everyKindEntries := by
  rw [Members.Sorted, everyKindEntries]
  decide +kernel

/-- A bag with every kind of value. -/
def everyKind : Params := ⟨everyKindEntries, sorted_everyKindEntries⟩

/-- The contents of a job for a request with this bag. -/
def everyKindContents : Json :=
  (payload (.new everyKind "request" none) (.obj [("id", .int 8)]) (.obj [])).value.1

theorem extendJson_render_everyKind :
    everyKind.toJson.Plain ∧
      empty.extendJson (Utf8.encode everyKind.toJson.render) = .ok everyKind ∧
      everyKindContents.Plain ∧ ∃ text p, argument everyKindContents =
          .obj [("credentials", .obj []), ("payload", .str text), ("type", .str "api")] ∧
        p.toJson = everyKindContents ∧ empty.extendJson (Utf8.encode text) = .ok p := by
  have hbag : everyKind.toJson.Plain := by
    refine ⟨?_, ?_, by decide⟩
    · simp only [toJson, everyKind, everyKindEntries, Json.Canonical, Json.CanonicalItems,
        Json.CanonicalMembers, Members.Sorted]
      decide +kernel
    · simp [toJson, everyKind, everyKindEntries, Json.IsInt64, Json.int64Min, Json.uint64Max]
  have hpayload : everyKindContents.Plain := by
    have hcontents : everyKindContents = .obj [
        ("branch", .str "quote \" backslash \\ tab \t nul \x00 and \u2028"),
        ("config", .obj [("", .arr [.obj [], .arr [], .bool false]), ("\x1f\n\u00e9", .null)]),
        ("message", .null), ("repository", .obj [("id", .int 8)]), ("user", .obj [])] := by
      rfl
    rw [hcontents]
    refine ⟨?_, ?_, by decide⟩
    · simp only [Json.Canonical, Json.CanonicalItems, Json.CanonicalMembers, Members.Sorted]
      decide +kernel
    · simp [Json.IsInt64, Json.int64Min, Json.uint64Max]
  exact ⟨hbag, extendJson_render.1 everyKind hbag, hpayload,
    extendJson_render.2 (.new everyKind "request" none) (.obj [("id", .int 8)]) (.obj []) hpayload⟩

end Params

end RequestBinding
