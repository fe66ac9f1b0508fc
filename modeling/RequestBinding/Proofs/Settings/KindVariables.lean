import RequestBinding.Proofs.Settings.Overrides
import RequestBinding.Proofs.Unicode.Case
import RequestBinding.Settings.Loader

/-!
# Variables of kinds of jobs

The name of a variable that sets the queue or the class of a kind of job has the identifier of the
kind in capitals, between pairs of underscores. It is taken apart again at the first pair of
underscores that comes, so the identifier is found if and only if none of its underscores is
followed by another one or by the end. Then the variable sets this value and nothing else; otherwise
it is none of the known names and is ignored.

## Main definitions

* `Settings.isIdentifier`, `Settings.IsSeparable` - identifiers, and those that are found again
* `Settings.variableOf` - the name of the variable for a value of a kind of job
* `Settings.SetsPart` - settings that differ in a value of a kind of job
* `Loader.overridden` - settings after environment variables, before the check

## Main statements

* `Settings.parts_append` - the first part of a text
* `Settings.exists_of_parts_eq_cons` - a first part does not have the separator in it
* `Settings.lowercase_uppercase` - an identifier in capitals and in small letters again
* `Loader.load_eq` - loading checks the settings after environment variables
* `Loader.overridden_variableOf` - the settings with such a variable
-/

namespace RequestBinding

/-! ## Parts of names -/

namespace Settings

/-- No underscore is followed by another one, nor will it be if a separator follows. -/
def Plain (piece : List Char) : Prop := ¬['_', '_'] <:+: piece ++ ['_']

instance (piece : List Char) : Decidable (Plain piece) := inferInstanceAs (Decidable (¬_))

theorem plain_cons {c : Char} {piece : List Char} : Plain (c :: piece) ↔
    ¬(c = '_' ∧ (piece ++ ['_']).head? = some '_') ∧ Plain piece := by
  rw [Plain, List.cons_append, List.infix_cons_iff, not_or, Plain]
  refine and_congr_left fun _ => not_congr ?_
  cases piece <;> simp [List.cons_prefix_cons, eq_comm]

/-- A piece before a separator is the first part, if the separator does not begin earlier. -/
theorem parts_append (current : List Char) {piece : List Char} (h : Plain piece)
    (rest : List Char) : parts current (piece ++ '_' :: '_' :: rest) =
      (current.reverse ++ piece) :: parts [] rest := by
  induction piece generalizing current with
  | nil => simp [parts]
  | cons c piece ih =>
    obtain ⟨hc, hpiece⟩ := plain_cons.1 h
    rw [List.cons_append, parts, ih (c :: current) hpiece]
    · simp
    · rintro more rfl hmore
      refine hc ⟨rfl, ?_⟩
      cases piece with
      | nil => rfl
      | cons d piece =>
        cases hmore
        rfl

/-- Before the first of several parts ends, no separator begins. -/
theorem exists_of_parts_eq_cons {current cs part next : List Char} {more : List (List Char)}
    (h : parts current cs = part :: next :: more) :
    ∃ piece rest, part = current.reverse ++ piece ∧ Plain piece ∧
      cs = piece ++ '_' :: '_' :: rest ∧ parts [] rest = next :: more := by
  induction current, cs using parts.induct with
  | case1 current => cases h
  | case2 current rest =>
    rw [parts] at h
    obtain ⟨rfl, hrest⟩ := List.cons.inj h
    exact ⟨[], rest, (List.append_nil _).symm, by decide, rfl, hrest⟩
  | case3 current c rest hsep ih =>
    rw [parts] at h
    · obtain ⟨piece, tail, rfl, hpiece, rfl, htail⟩ := ih h
      refine ⟨c :: piece, tail, by simp, plain_cons.2 ⟨?_, hpiece⟩, rfl, htail⟩
      rintro ⟨rfl, hhead⟩
      cases piece with
      | nil => exact hsep _ rfl rfl
      | cons d piece =>
        cases hhead
        exact hsep _ rfl rfl
    · exact hsep

/-! ## Identifiers -/

/-- The characters of identifiers. -/
def isIdentifierChar (c : Char) : Bool := c.isLower || c.isDigit || c == '_'

/-- An identifier: lowercase ASCII letters, digits and underscores, beginning with a letter. -/
def isIdentifier (identifier : String) : Bool :=
  match identifier.toList with
  | [] => false
  | c :: rest => c.isLower && rest.all isIdentifierChar

/-- No underscore of an identifier is followed by another one or by the end. -/
def IsSeparable (identifier : String) : Prop :=
  ¬['_', '_'] <:+: identifier.toList ∧ identifier.toList.getLast? ≠ some '_'

instance (identifier : String) : Decidable (IsSeparable identifier) :=
  inferInstanceAs (Decidable (_ ∧ _))

theorem isSeparable_iff {identifier : String} :
    IsSeparable identifier ↔ Plain identifier.toList := by
  have hsuffix : ['_', '_'] <:+ identifier.toList ++ ['_'] ↔
      identifier.toList.getLast? = some '_' := by
    rw [List.suffix_concat_iff, List.getLast?_eq_some_iff]
    constructor
    · rintro (hnil | ⟨front, hfront, hsuffix⟩)
      · cases hnil
      · obtain rfl : front = ['_'] := (List.append_inj_left' hfront rfl).symm
        exact hsuffix.imp fun _ => Eq.symm
    · rintro ⟨front, hfront⟩
      exact .inr ⟨['_'], rfl, front, hfront.symm⟩
  rw [IsSeparable, Plain, List.infix_concat_iff, hsuffix, not_or, and_comm]

theorem isIdentifierChar_of_mem {identifier : String} (h : isIdentifier identifier = true)
    {c : Char} (hc : c ∈ identifier.toList) : isIdentifierChar c = true := by
  rw [isIdentifier] at h
  cases hchars : identifier.toList with
  | nil =>
    rw [hchars] at hc
    cases hc
  | cons d rest =>
    rw [hchars] at hc h
    obtain ⟨hd, hrest⟩ := Bool.and_eq_true_iff.1 h
    rcases List.mem_cons.1 hc with rfl | hc
    · simp [isIdentifierChar, hd]
    · exact List.all_eq_true.1 hrest c hc

theorem isIdentifierChar_spec {c : Char} (h : isIdentifierChar c = true) :
    c.toNat < 0x80 ∧ c.toUpper.toNat < 0x80 ∧ c.toUpper.toLower = c := by
  have hlt : c.toNat < 0x80 := by
    rw [isIdentifierChar, Bool.or_eq_true, Bool.or_eq_true, beq_iff_eq] at h
    rcases h with (hlower | hdigit) | rfl
    · have hz : c.val ≤ 'z'.val := of_decide_eq_true (Bool.and_eq_true_iff.1 hlower).2
      exact Nat.lt_of_le_of_lt (UInt32.le_iff_toNat_le.1 hz) (by decide)
    · have hnine : c.val ≤ '9'.val := of_decide_eq_true (Bool.and_eq_true_iff.1 hdigit).2
      exact Nat.lt_of_le_of_lt (UInt32.le_iff_toNat_le.1 hnine) (by decide)
    · decide
  have hall : ∀ n < 0x80, isIdentifierChar (Char.ofNat n) = true →
      (Char.ofNat n).toUpper.toNat < 0x80 ∧ (Char.ofNat n).toUpper.toLower = Char.ofNat n := by
    decide
  have hspec := hall c.toNat hlt
  rw [Char.ofNat_toNat] at hspec
  exact ⟨hlt, hspec h⟩

variable {identifier : String}

theorem toList_uppercase_of_isIdentifier (h : isIdentifier identifier = true) :
    (Unicode.uppercase identifier).toList = identifier.toList.map Char.toUpper :=
  Unicode.toList_uppercase fun _ hc => (isIdentifierChar_spec (isIdentifierChar_of_mem h hc)).1

theorem map_toLower_map_toUpper (h : isIdentifier identifier = true) :
    (identifier.toList.map Char.toUpper).map Char.toLower = identifier.toList := by
  rw [List.map_map]
  refine (List.map_congr_left fun c hc => ?_).trans (List.map_id _)
  exact (isIdentifierChar_spec (isIdentifierChar_of_mem h hc)).2.2

/-- Small letters undo capitals in an identifier. -/
theorem lowercase_uppercase (h : isIdentifier identifier = true) :
    Unicode.lowercase (Unicode.uppercase identifier) = identifier := by
  have hascii : Unicode.IsAscii (Unicode.uppercase identifier).toList := by
    rw [toList_uppercase_of_isIdentifier h]
    intro c hc
    obtain ⟨d, hd, rfl⟩ := List.mem_map.1 hc
    exact (isIdentifierChar_spec (isIdentifierChar_of_mem h hd)).2.1
  rw [← String.toList_inj, Unicode.toList_lowercase hascii, toList_uppercase_of_isIdentifier h,
    map_toLower_map_toUpper h]

/-- Capitals do not matter for the underscores of an identifier. -/
theorem plain_uppercase_iff (h : isIdentifier identifier = true) :
    Plain (Unicode.uppercase identifier).toList ↔ IsSeparable identifier := by
  rw [isSeparable_iff, toList_uppercase_of_isIdentifier h, Plain, Plain]
  refine not_congr ⟨fun hinfix => ?_, fun hinfix => ?_⟩
  · have hlower := hinfix.map Char.toLower
    rw [List.map_append, map_toLower_map_toUpper h] at hlower
    exact hlower
  · have hupper := hinfix.map Char.toUpper
    rw [List.map_append] at hupper
    exact hupper

/-! ## Names -/

/-- The name of the variable for a value of a kind of job. -/
def variableOf (before identifier : String) (part : JobPart) : String :=
  before ++ "__JOBS__" ++ Unicode.uppercase identifier ++ "__" ++ part.name

/-- What follows the identifier in the name of a variable has one length for all values. -/
theorem length_suffix (part part' : JobPart) : ('_' :: '_' :: part.name.toList).length =
    ('_' :: '_' :: part'.name.toList).length := by
  cases part <;> cases part' <;> simp [JobPart.name]

theorem parts_name (part : JobPart) : parts [] part.name.toList = [part.name.toList] := by
  cases part <;> simp [JobPart.name, parts]

/-- A name is about what follows the prefix and a separator. -/
theorem keyOf?_append (before rest : String) :
    keyOf? before (before ++ "__" ++ rest) = some ((parts [] rest.toList).map String.ofList) := by
  have hname : (before ++ "__" ++ rest).toList = before.toList ++ '_' :: '_' :: rest.toList := by
    simp [String.toList_append]
  rw [keyOf?, hname, if_pos (List.isPrefixOf_iff_prefix.2 (List.prefix_append _ _)),
    List.drop_left]
  rfl

theorem keyOf?_variableOf (before : String) (part : JobPart) :
    keyOf? before (variableOf before identifier part) = some ("JOBS" ::
      (parts [] ((Unicode.uppercase identifier).toList ++ '_' :: '_' :: part.name.toList)).map
        String.ofList) := by
  have hname : variableOf before identifier part =
      before ++ "__" ++ ("JOBS__" ++ (Unicode.uppercase identifier ++ "__" ++ part.name)) := by
    simp [variableOf, ← String.toList_inj, String.toList_append]
  have hrest : ("JOBS__" ++ (Unicode.uppercase identifier ++ "__" ++ part.name)).toList =
      "JOBS".toList ++ '_' :: '_' ::
        ((Unicode.uppercase identifier).toList ++ '_' :: '_' :: part.name.toList) := by
    simp [String.toList_append]
  rw [hname, keyOf?_append, hrest, parts_append [] (by decide)]
  rfl

/-- The identifier is found in the name if it is separable. -/
theorem keyOf?_variableOf_of_isSeparable (h : isIdentifier identifier = true)
    (hsep : IsSeparable identifier) (before : String) (part : JobPart) :
    keyOf? before (variableOf before identifier part) =
      some ["JOBS", Unicode.uppercase identifier, part.name] := by
  rw [keyOf?_variableOf, parts_append [] ((plain_uppercase_iff h).2 hsep), parts_name]
  simp

/-- Otherwise no identifier and value make up the name. -/
theorem ne_of_not_isSeparable (h : isIdentifier identifier = true)
    (hsep : ¬IsSeparable identifier) (part part' : JobPart) (i : String) :
    (parts [] ((Unicode.uppercase identifier).toList ++ '_' :: '_' :: part.name.toList)).map
      String.ofList ≠ [i, part'.name] := by
  intro hkey
  obtain ⟨first, others, hparts, rfl, hothers⟩ := List.map_eq_cons_iff.1 hkey
  obtain ⟨last, none, rfl, hlast, hnone⟩ := List.map_eq_cons_iff.1 hothers
  obtain rfl := List.map_eq_nil_iff.1 hnone
  obtain ⟨piece, rest, -, hpiece, hname, hrest⟩ := exists_of_parts_eq_cons hparts
  -- the last part is all of the rest, and as long as the value's own name
  obtain rfl : rest = part'.name.toList := by
    rw [← hlast, String.toList_ofList]
    simpa [hrest] using (intercalate_parts [] rest).symm
  refine hsep ((plain_uppercase_iff h).1 ?_)
  rw [(List.append_inj' hname (length_suffix part part')).1]
  exact hpiece

theorem overrideKey_of_ne {key : List String} (h : ∀ i part, key ≠ [i, JobPart.name part])
    (s : Settings) (value : String) : s.overrideKey ("JOBS" :: key) value = .ok s := by
  unfold overrideKey
  split <;> rename_i hkey
  case h_8 identifier => exact absurd (List.cons.inj hkey).2 (h identifier .queue)
  case h_9 identifier => exact absurd (List.cons.inj hkey).2 (h identifier .class_)
  case h_10 => rfl
  all_goals exact absurd (List.cons.inj hkey).1 (by decide)

theorem overrideKey_job (s : Settings) (i : String) (part : JobPart) (value : String) :
    s.overrideKey ["JOBS", i, part.name] value =
      .ok (Assignment.apply s (.job (Unicode.lowercase i) part value)) := by
  rw [Assignment.overrideKey_eq, Assignment.ofKey?_job]
  rfl

/-! ## Settings -/

/-- Settings that differ in a value of a kind of job, which is new if it is not there. -/
structure SetsPart (identifier : String) (part : JobPart) (value : String) (s s' : Settings) :
    Prop where
  api : s'.api = s.api
  logging : s'.logging = s.logging
  others : ∀ i, i ≠ identifier → s'.jobs.get? i = s.jobs.get? i
  value : (s'.jobs.get? identifier).map part.get = some value
  /-- The other value of the kind stays, or is empty if the kind is new. -/
  kept : ∀ other, other ≠ part → (s'.jobs.get? identifier).map other.get =
    some (((s.jobs.get? identifier).map other.get).getD "")

theorem setsPart_apply (s : Settings) (identifier : String) (part : JobPart) (value : String) :
    SetsPart identifier part value s (Assignment.apply s (.job identifier part value)) where
  api := rfl
  logging := rfl
  others i hi := by rw [Assignment.jobs_apply_job, JobKinds.get?_insert, if_neg hi.symm]
  value := by
    rw [Assignment.jobs_apply_job, JobKinds.get?_insert, if_pos rfl, Option.map_some,
      JobPart.get_set]
  kept other hother := by
    rw [Assignment.jobs_apply_job, JobKinds.get?_insert, if_pos rfl, Option.map_some]
    refine congrArg some ?_
    cases s.jobs.get? identifier <;> cases part <;> cases other <;>
      first | rfl | exact absurd rfl hother

end Settings

namespace Loader

open Settings

/-- The settings after environment variables, before the check. -/
def overridden (l : Loader) : Except (String × VariableFault) Settings :=
  match l.envPrefix with
  | none => .ok l.settings
  | some before => l.settings.overrideAll before l.environment.entries

theorem load_eq (l : Loader) : l.load =
    match l.overridden with
    | .ok s => s.check
    | .error (name, fault) => .error (.badVariable name fault) := by
  rw [load, overridden]
  cases l.envPrefix with
  | none => rfl
  | some before => rfl

/-- A loader with a prefix for environment variables, and with some variables. -/
def withVariables (l : Loader) (before : String) (vs : List (String × String)) : Loader :=
  { l with environment := ⟨vs⟩ }.withEnvPrefix before

/-- With a variable for a value of a kind of job and no other, the settings differ in this value
from those without variables if the identifier of the kind is separable. Otherwise they are the
same. -/
theorem overridden_variableOf (l : Loader) (before value : String) {identifier : String}
    (h : isIdentifier identifier = true) (part : JobPart) :
    ∃ s s', (l.withVariables before []).overridden = .ok s ∧
      (l.withVariables before
        [(variableOf (Unicode.uppercase before) identifier part, value)]).overridden = .ok s' ∧
      (IsSeparable identifier → SetsPart identifier part value s s') ∧
      (¬IsSeparable identifier → s' = s) := by
  have hrun (key : List String) (s : Settings)
      (hname : keyOf? (Unicode.uppercase before)
        (variableOf (Unicode.uppercase before) identifier part) = some key)
      (hkey : l.settings.overrideKey key value = .ok s) :
      (l.withVariables before
        [(variableOf (Unicode.uppercase before) identifier part, value)]).overridden = .ok s := by
    simp [overridden, withVariables, withEnvPrefix, overrideAll, override, hname, hkey]
  refine ⟨l.settings, ?_⟩
  by_cases hsep : IsSeparable identifier
  · refine ⟨_, rfl, hrun _ _ (keyOf?_variableOf_of_isSeparable h hsep _ part)
      (overrideKey_job _ _ part value), fun _ => ?_, absurd hsep⟩
    rw [lowercase_uppercase h]
    exact setsPart_apply _ identifier part value
  · exact ⟨_, rfl, hrun _ _ (keyOf?_variableOf _ part)
      (overrideKey_of_ne (fun i part' => ne_of_not_isSeparable h hsep part part' i) _ value),
      fun h => absurd h hsep, fun _ => rfl⟩

theorem overridden_variableOf_sync : isIdentifier "sync_2" = true ∧ IsSeparable "sync_2" ∧
    ∃ s s', ((new ⟨[]⟩).withVariables "ariadne" []).overridden = .ok s ∧
      ((new ⟨[]⟩).withVariables "ariadne" [("ARIADNE__JOBS__SYNC_2__QUEUE", "fast")]).overridden =
        .ok s' ∧ SetsPart "sync_2" .queue "fast" s s' := by
  have hidentifier : isIdentifier "sync_2" = true := by decide +kernel
  have hsep : IsSeparable "sync_2" := by decide +kernel
  have hname : variableOf (Unicode.uppercase "ariadne") "sync_2" .queue =
      "ARIADNE__JOBS__SYNC_2__QUEUE" := by decide +kernel
  obtain ⟨s, s', hs, hs', hsets, -⟩ :=
    (new ⟨[]⟩).overridden_variableOf "ariadne" "fast" hidentifier .queue
  rw [hname] at hs'
  exact ⟨hidentifier, hsep, s, s', hs, hs', hsets hsep⟩

/-- The settings if nothing is said, with a kind of job whose identifier ends with an underscore. -/
def trailing : Loader :=
  (new ⟨[]⟩).preset { default with jobs := JobKinds.default.insert "sync_" ⟨"slow", "Sync"⟩ }

theorem not_setsPart_trailing : isIdentifier "sync_" = true ∧
    variableOf "ARIADNE" "sync_" .queue = "ARIADNE__JOBS__SYNC___QUEUE" ∧
    ∃ s s', (trailing.withVariables "ariadne" []).overridden = .ok s ∧
      (trailing.withVariables "ariadne" [("ARIADNE__JOBS__SYNC___QUEUE", "fast")]).overridden =
        .ok s' ∧ ¬SetsPart "sync_" .queue "fast" s s' := by
  refine ⟨by decide +kernel, by decide +kernel, trailing.settings, trailing.settings,
    rfl, by decide +kernel, fun hsets => ?_⟩
  have hqueue : (trailing.settings.jobs.get? "sync_").map JobPart.queue.get ≠ some "fast" := by
    decide +kernel
  exact hqueue hsets.value

end Loader

end RequestBinding
