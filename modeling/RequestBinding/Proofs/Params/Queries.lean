import RequestBinding.Proofs.Params.Brackets
import RequestBinding.Proofs.Params.Merge
import RequestBinding.Proofs.Text.Form

/-!
# Trees in queries and forms

Every forest of texts can be sent as a query or as a form: its leaves are written as pairs with
brackets in their keys. However they are encoded and in whatever order they stand, as long as the
texts of each list keep theirs, the empty bag becomes that forest.

## Main definitions

* `Params.Sends` - the ways to write a forest

## Main statements

* `Params.extend_of_sends` - what is written is read back
-/

namespace RequestBinding.Params

open Brackets

/-- The ways to write a forest: the pairs of its leaves in some order, encoded. -/
def Sends (ms : List (String × Json)) (text : List Char) : Prop :=
  ∃ qs, Reorders qs (leavesOfMembers ms) ∧ Form.Writes (qs.map pairOf) text

theorem entries_empty_mergeMissing {ms : List (String × Json)} (h : Members.Sorted ms) :
    (empty.mergeMissing ms).entries = ms :=
  Members.ext (empty.mergeMissing ms).sorted h (get?_empty_mergeMissing ms)

theorem entries_extendPairs {ms : List (String × Json)} (hms : IsForest ms) {text : List Char}
    (h : Sends ms text) : (empty.extendPairs (Utf8.encodeChars text)).entries = ms := by
  obtain ⟨qs, hqs, hwrites⟩ := h
  rw [extendPairs, Form.pairs_of_writes hwrites, members_map_pairOf hms hqs]
  exact entries_empty_mergeMissing hms.sorted

/-- A forest that is sent as a query or as a form becomes the contents of the empty bag. -/
theorem extend_of_sends {ms : List (String × Json)} (hms : IsForest ms) {text : String}
    (h : Sends ms text.toList) : (empty.extendQuery text).entries = ms ∧
      ∃ p, empty.extendForm (Utf8.encode text) = .ok p ∧ p.entries = ms := by
  have hentries := entries_extendPairs hms h
  refine ⟨hentries, empty.extendPairs (Utf8.encode text), ?_, hentries⟩
  have hdecode : Utf8.decode (Utf8.encode text) = .ok text.toList :=
    Utf8.decode_encodeChars text.toList
  rw [extendForm, hdecode]

/-- Separators, brackets and blanks in keys and values, two lists, and nested objects. -/
def forest : List (String × Json) :=
  [("a&b]", .obj [("=", .str "1+1=2"), ("c[d", .obj [("e f", .arr [.str "%41", .str ""])])]),
    ("ids", .arr [.str "é", .str "1"])]

/-- The leaves of the forest, with the two lists mixed. -/
def shuffled : List Leaf :=
  [(["ids", ""], "é"), (["a&b]", "c[d", "e f", ""], "%41"), (["ids", ""], "1"),
    (["a&b]", "="], "1+1=2"), (["a&b]", "c[d", "e f", ""], "")]

theorem extend_of_sends_forest :
    (empty.extendQuery (Form.render (shuffled.map pairOf))).entries = forest ∧
      ∃ p, empty.extendForm (Utf8.encode (Form.render (shuffled.map pairOf))) = .ok p ∧
        p.entries = forest := by
  have hforest : IsForest forest := by
    refine ⟨?_, by decide +kernel, ?_⟩
    · show forest.Pairwise fun a b => a.1 < b.1
      decide +kernel
    · have hsorted : Members.Sorted
          [("=", Json.str "1+1=2"), ("c[d", .obj [("e f", .arr [.str "%41", .str ""])])] := by
        show List.Pairwise (fun a b : String × Json => a.1 < b.1) _
        decide +kernel
      have hinner : Members.Sorted [("e f", Json.arr [.str "%41", .str ""])] :=
        List.pairwise_singleton _ _
      simp [forest, IsTree, AreTrees, hsorted, hinner]
  have hsends : Sends forest (Form.render (shuffled.map pairOf)).toList :=
    ⟨shuffled, by decide, Form.writes_render _⟩
  exact extend_of_sends hforest hsends

end RequestBinding.Params
