import Mathlib.Data.List.Basic
import RequestBinding.Unicode.Case

/-!
# Case of ASCII texts

Upper and lower case of ASCII texts are those of their characters one by one.

## Main statements

* `Unicode.toList_uppercase`, `Unicode.toList_lowercase` - case of ASCII texts
-/

namespace RequestBinding.Unicode

/-- Every character is an ASCII character. -/
def IsAscii (cs : List Char) : Prop := ∀ c ∈ cs, c.toNat < 0x80

theorem toList_uppercase {s : String} (h : IsAscii s.toList) :
    (uppercase s).toList = s.toList.map Char.toUpper := by
  rw [uppercase, String.toList_ofList, List.map_eq_flatMap]
  refine List.flatMap_congr fun c hc => ?_
  rw [upperOf, if_pos (h c hc)]

theorem lowerFrom_of_isAscii {cs : List Char} (h : IsAscii cs) (before : List Char) :
    lowerFrom before cs = cs.map Char.toLower := by
  induction cs generalizing before with
  | nil => rfl
  | cons c cs ih =>
    obtain ⟨hc, hcs⟩ := List.forall_mem_cons.1 h
    rw [lowerFrom, lowerAt, if_pos hc, ih hcs]
    rfl

theorem toList_lowercase {s : String} (h : IsAscii s.toList) :
    (lowercase s).toList = s.toList.map Char.toLower := by
  rw [lowercase, String.toList_ofList, lowerFrom_of_isAscii h]

end RequestBinding.Unicode
