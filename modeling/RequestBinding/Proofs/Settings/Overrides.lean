import Mathlib.Data.List.Basic
import Mathlib.Data.List.Nodup
import RequestBinding.Proofs.Params.Brackets
import RequestBinding.Settings.Overrides

/-!
# The order of environment variables

A variable assigns one value, or has a fault whatever the settings are. Two assignments may change
places unless they are about the same place and give it different values, and variables of different
names are about the same place only if they name one kind of job, whose identifier is taken in small
letters. So the order in which variables are applied matters exactly if two of them give different
values to the queue or to the class of one kind, and none of all variables has a fault.

## Main definitions

* `Settings.Assignment` - what a variable assigns
* `Settings.Rivals` - variables that give different values to one place

## Main statements

* `Settings.intercalate_parts` - the parts of a text make up the text
* `Settings.Assignment.apply_comm` - assignments that change places
* `Settings.override_eq`, `Settings.overrideAll_of_not_faulty` - variables as assignments
* `Settings.orders_agree_iff` - when the order of variables does not matter
-/

namespace RequestBinding

/-! ## Names of variables -/

namespace Settings

theorem parts_ne_nil (current cs : List Char) : parts current cs ≠ [] := by
  induction current, cs using parts.induct with
  | case1 => simp [parts]
  | case2 => simp [parts]
  | case3 current c rest hsep ih =>
    rw [parts]
    · exact ih
    · exact hsep

/-- The parts of a text make up the text. -/
theorem intercalate_parts (current cs : List Char) :
    ['_', '_'].intercalate (parts current cs) = current.reverse ++ cs := by
  induction current, cs using parts.induct with
  | case1 current => simp [parts, List.intercalate]
  | case2 current rest ih =>
    rw [parts, List.intercalate_cons_of_ne_nil (parts_ne_nil [] rest), ih]
    simp
  | case3 current c rest hsep ih =>
    rw [parts, ih]
    · simp
    · exact hsep

theorem parts_injective {cs ds : List Char} (h : parts [] cs = parts [] ds) : cs = ds := by
  have hjoined := congrArg (['_', '_'].intercalate) h
  rwa [intercalate_parts, intercalate_parts] at hjoined

/-- What follows the prefix in the name of a variable that is about a key. -/
theorem exists_of_keyOf? {before name : String} {key : List String}
    (h : keyOf? before name = some key) :
    ∃ rest, name.toList = before.toList ++ '_' :: '_' :: rest ∧
      key = (parts [] rest).map String.ofList := by
  rw [keyOf?] at h
  split at h
  · next hprefix =>
    obtain ⟨more, hmore⟩ := List.isPrefixOf_iff_prefix.1 hprefix
    rw [← hmore, List.drop_left] at h
    split at h
    · next rest =>
      cases h
      exact ⟨rest, hmore.symm, rfl⟩
    · cases h
  · cases h

/-- A key has one name. -/
theorem eq_of_keyOf? {before name name' : String} {key : List String}
    (h : keyOf? before name = some key) (h' : keyOf? before name' = some key) : name = name' := by
  obtain ⟨rest, hname, hkey⟩ := exists_of_keyOf? h
  obtain ⟨rest', hname', hkey'⟩ := exists_of_keyOf? h'
  have hparts : parts [] rest = parts [] rest' :=
    List.map_injective_iff.2 (fun _ _ => String.ofList_injective) (hkey.symm.trans hkey')
  rw [← String.toList_inj, hname, hname', parts_injective hparts]

end Settings

/-! ## Kinds of jobs -/

namespace JobKinds

theorem get?_insert (ks : JobKinds) (i j : String) (k : JobKind) :
    (ks.insert i k).get? j = if i = j then some k else ks.get? j := Members.get?_put

/-- Kinds of jobs are told by looking identifiers up. -/
theorem eq_of_get? {ks ls : JobKinds} (h : ∀ i, ks.get? i = ls.get? i) : ks = ls := by
  obtain ⟨entries, hsorted⟩ := ks
  obtain ⟨entries', hsorted'⟩ := ls
  obtain rfl : entries = entries' := Members.ext hsorted hsorted' h
  rfl

end JobKinds

namespace Settings

/-- The values of a kind of job. -/
inductive JobPart where
  | queue
  | class_
  deriving DecidableEq

namespace JobPart

/-- The name of a value in keys. -/
def name : JobPart → String
  | .queue => "QUEUE"
  | .class_ => "CLASS"

/-- The value of a kind. -/
def get : JobPart → JobKind → String
  | .queue, k => k.queue
  | .class_, k => k.class_

/-- Sets the value of a kind. -/
def set (value : String) (k : JobKind) : JobPart → JobKind
  | .queue => { k with queue := value }
  | .class_ => { k with class_ := value }

theorem get_set (p : JobPart) (value : String) (k : JobKind) : p.get (p.set value k) = value := by
  cases p <;> rfl

theorem set_comm {p q : JobPart} (h : p ≠ q) (v w : String) (k : JobKind) :
    p.set v (q.set w k) = q.set w (p.set v k) := by
  cases p <;> cases q <;> first | rfl | exact absurd rfl h

theorem name_injective {p q : JobPart} (h : p.name = q.name) : p = q := by
  cases p <;> cases q <;> first | rfl | exact absurd h (by decide)

end JobPart

/-! ## Assignments -/

/-- What a variable assigns: a value of a section, or one of a kind of job, whose identifier is in
small letters. -/
inductive Assignment where
  | mountPath (path : String)
  | serviceName (name : String)
  | enabled (flag : Bool)
  | level (filter : String)
  | format (f : LogFormat)
  | ansiEnabled (flag : Bool)
  | includeLocation (flag : Bool)
  | job (identifier : String) (part : JobPart) (value : String)

namespace Assignment

/-- The key of the place that an assignment is about. -/
def place : Assignment → List String
  | .mountPath _ => ["API", "MOUNT_PATH"]
  | .serviceName _ => ["API", "SERVICE_NAME"]
  | .enabled _ => ["LOGGING", "ENABLED"]
  | .level _ => ["LOGGING", "LEVEL"]
  | .format _ => ["LOGGING", "FORMAT"]
  | .ansiEnabled _ => ["LOGGING", "ANSI_ENABLED"]
  | .includeLocation _ => ["LOGGING", "INCLUDE_LOCATION"]
  | .job identifier part _ => ["JOBS", identifier, part.name]

/-- The settings after an assignment. -/
def apply (s : Settings) : Assignment → Settings
  | .mountPath path => { s with api := { s.api with mountPath := path } }
  | .serviceName name => { s with api := { s.api with serviceName := name } }
  | .enabled flag => { s with logging := { s.logging with enabled := flag } }
  | .level filter => { s with logging := { s.logging with level := filter } }
  | .format f => { s with logging := { s.logging with format := f } }
  | .ansiEnabled flag => { s with logging := { s.logging with ansiEnabled := flag } }
  | .includeLocation flag => { s with logging := { s.logging with includeLocation := flag } }
  | .job identifier part value =>
    let k := (s.jobs.get? identifier).getD ⟨"", ""⟩
    { s with jobs := s.jobs.insert identifier (part.set value k) }

/-- The assignment of a truth value. -/
def ofFlag? (value : String) (assign : Bool → Assignment) :
    Except VariableFault (Option Assignment) :=
  match flag? value with
  | some flag => .ok (some (assign flag))
  | none => .error .notFlag

/-- What is assigned to the value under a key, if there is such a value. -/
def ofKey? (key : List String) (value : String) : Except VariableFault (Option Assignment) :=
  match key with
  | ["API", "MOUNT_PATH"] => .ok (some (.mountPath value))
  | ["API", "SERVICE_NAME"] => .ok (some (.serviceName value))
  | ["LOGGING", "ENABLED"] => ofFlag? value .enabled
  | ["LOGGING", "LEVEL"] => .ok (some (.level value))
  | ["LOGGING", "FORMAT"] =>
    match LogFormat.ofName? (Unicode.lowercase value) with
    | some f => .ok (some (.format f))
    | none => .error .notFormat
  | ["LOGGING", "ANSI_ENABLED"] => ofFlag? value .ansiEnabled
  | ["LOGGING", "INCLUDE_LOCATION"] => ofFlag? value .includeLocation
  | ["JOBS", identifier, "QUEUE"] => .ok (some (.job (Unicode.lowercase identifier) .queue value))
  | ["JOBS", identifier, "CLASS"] => .ok (some (.job (Unicode.lowercase identifier) .class_ value))
  | _ => .ok none

theorem changeFlag_eq (s : Settings) (value : String) (assign : Bool → Assignment)
    (change : LoggingSettings → Bool → LoggingSettings)
    (h : ∀ flag, (assign flag).apply s = { s with logging := change s.logging flag }) :
    s.changeFlag value change = (ofFlag? value assign).map fun a => a.elim s (apply s) := by
  rw [changeFlag, ofFlag?]
  cases flag? value with
  | none => rfl
  | some flag => exact congrArg Except.ok (h flag).symm

/-- A value is overridden by an assignment that does not depend on the settings. -/
theorem overrideKey_eq (s : Settings) (key : List String) (value : String) :
    s.overrideKey key value = (ofKey? key value).map fun a => a.elim s (apply s) := by
  fun_cases overrideKey s key value
  · rfl
  · rfl
  · exact changeFlag_eq s value .enabled _ fun _ => rfl
  · rfl
  · next f hf =>
    rw [ofKey?, hf]
    rfl
  · next hf =>
    rw [ofKey?, hf]
    rfl
  · exact changeFlag_eq s value .ansiEnabled _ fun _ => rfl
  · exact changeFlag_eq s value .includeLocation _ fun _ => rfl
  · rfl
  · rfl
  · have hnone : ofKey? key value = .ok none := by
      rw [ofKey?] <;> assumption
    rw [hnone]
    rfl

theorem jobs_apply_job (s : Settings) (i : String) (p : JobPart) (v : String) :
    (apply s (.job i p v)).jobs =
      s.jobs.insert i (p.set v ((s.jobs.get? i).getD ⟨"", ""⟩)) := rfl

/-- Values of kinds of jobs may be set in any order, unless it is the same value of one kind. -/
theorem apply_job_comm {i j : String} {p q : JobPart} (h : i = j → p ≠ q) (v w : String)
    (s : Settings) :
    apply (apply s (.job i p v)) (.job j q w) = apply (apply s (.job j q w)) (.job i p v) := by
  refine congrArg (Settings.mk s.api s.logging) (JobKinds.eq_of_get? fun k => ?_)
  by_cases hij : i = j
  · subst hij
    simp only [jobs_apply_job, JobKinds.get?_insert, if_true, Option.getD_some,
      JobPart.set_comm (h rfl)]
    split <;> rfl
  · simp only [jobs_apply_job, JobKinds.get?_insert, hij, Ne.symm hij, if_false]
    by_cases hi : i = k
    · simp [hi, show j ≠ k from fun hj => hij (hi.trans hj.symm)]
    · simp [hi]

/-- Assignments may change places, unless they give different values to one place. -/
theorem apply_comm {a b : Assignment} (h : a.place = b.place → a = b) (s : Settings) :
    apply (apply s a) b = apply (apply s b) a := by
  by_cases hplace : a.place = b.place
  · rw [h hplace]
  · cases a <;> cases b
    case job.job i p v j q w =>
      refine apply_job_comm (fun hij hpq => hplace ?_) v w s
      rw [place, place, hij, hpq]
    all_goals first
      | rfl
      | exact absurd rfl hplace

/-- A key is that of the place which is assigned, but for the identifier of a kind of job. -/
theorem place_of_ofKey? {key : List String} {value : String} {a : Assignment}
    (h : ofKey? key value = .ok (some a)) : a.place = key ∧ key.head? ≠ some "JOBS" ∨
      ∃ i part, key = ["JOBS", i, JobPart.name part] ∧
        a = .job (Unicode.lowercase i) part value := by
  have hflag : ∀ {assign : Bool → Assignment}, ofFlag? value assign = .ok (some a) →
      ∃ flag, a = assign flag := by
    intro assign hflag
    rw [ofFlag?] at hflag
    split at hflag
    · next flag _ =>
      cases hflag
      exact ⟨flag, rfl⟩
    · cases hflag
  unfold ofKey? at h
  split at h
  · cases h
    exact .inl ⟨rfl, by decide⟩
  · cases h
    exact .inl ⟨rfl, by decide⟩
  · obtain ⟨flag, rfl⟩ := hflag h
    exact .inl ⟨rfl, by decide⟩
  · cases h
    exact .inl ⟨rfl, by decide⟩
  · split at h
    · cases h
      exact .inl ⟨rfl, by decide⟩
    · cases h
  · obtain ⟨flag, rfl⟩ := hflag h
    exact .inl ⟨rfl, by decide⟩
  · obtain ⟨flag, rfl⟩ := hflag h
    exact .inl ⟨rfl, by decide⟩
  · cases h
    exact .inr ⟨_, .queue, rfl, rfl⟩
  · cases h
    exact .inr ⟨_, .class_, rfl, rfl⟩
  · cases h

theorem ofKey?_job (i : String) (part : JobPart) (value : String) :
    ofKey? ["JOBS", i, part.name] value = .ok (some (.job (Unicode.lowercase i) part value)) := by
  cases part <;> rfl

end Assignment

/-! ## Variables -/

variable {before : String} {s : Settings} {v w : String × String} {vs ws : List (String × String)}

/-- The assignment of a variable, if it is about a value of the settings. -/
def assigned? (before : String) (v : String × String) :
    Except (String × VariableFault) (Option Assignment) :=
  match keyOf? before v.1 with
  | none => .ok none
  | some key => (Assignment.ofKey? key v.2).mapError (v.1, ·)

/-- The settings after a variable. -/
def assign (before : String) (s : Settings) (v : String × String) : Settings :=
  (assigned? before v).toOption.join.elim s (Assignment.apply s)

/-- A variable that has a fault, whatever the settings are. -/
def Faulty (before : String) (v : String × String) : Prop :=
  ∀ s, ∃ e, override before s v = .error e

theorem override_eq (before : String) (s : Settings) (v : String × String) :
    override before s v = (assigned? before v).map fun a => a.elim s (Assignment.apply s) := by
  rw [override, assigned?]
  cases keyOf? before v.1 with
  | none => rfl
  | some key =>
    simp only [Assignment.overrideKey_eq]
    cases Assignment.ofKey? key v.2 <;> rfl

theorem faulty_of_assigned? {e : String × VariableFault} (h : assigned? before v = .error e) :
    Faulty before v := by
  intro s
  rw [override_eq, h]
  exact ⟨e, rfl⟩

theorem exists_assigned? (h : ¬Faulty before v) : ∃ a, assigned? before v = .ok a := by
  cases hassigned : assigned? before v with
  | error e => exact absurd (faulty_of_assigned? hassigned) h
  | ok a => exact ⟨a, rfl⟩

theorem override_of_not_faulty (h : ¬Faulty before v) (s : Settings) :
    override before s v = .ok (assign before s v) := by
  obtain ⟨a, ha⟩ := exists_assigned? h
  rw [override_eq, assign, ha]
  rfl

/-- Without faults, variables are assigned one after the other. -/
theorem overrideAll_of_not_faulty (h : ∀ v ∈ vs, ¬Faulty before v) (s : Settings) :
    overrideAll before s vs = .ok (vs.foldl (assign before) s) := by
  induction vs generalizing s with
  | nil => rfl
  | cons v vs ih =>
    rw [overrideAll, override_of_not_faulty (h v List.mem_cons_self) s]
    exact ih (fun w hw => h w (List.mem_cons_of_mem v hw)) _

/-- With a fault among them, variables fail in any order. -/
theorem overrideAll_of_faulty (hv : v ∈ vs) (h : Faulty before v) (s : Settings) :
    (overrideAll before s vs).toOption = none := by
  induction vs generalizing s with
  | nil => cases hv
  | cons w vs ih =>
    rw [overrideAll]
    cases hfirst : override before s w with
    | error e => rfl
    | ok s' =>
      refine ih ?_ s'
      rcases List.mem_cons.1 hv with rfl | hv
      · obtain ⟨e, he⟩ := h s
        rw [hfirst] at he
        cases he
      · exact hv

/-! ## Orders -/

/-- Variables that give different values to the queue, or to the class, of one kind of job. -/
def Rivals (before : String) (v w : String × String) : Prop :=
  ∃ i j part, keyOf? before v.1 = some ["JOBS", i, JobPart.name part] ∧
    keyOf? before w.1 = some ["JOBS", j, JobPart.name part] ∧
    Unicode.lowercase i = Unicode.lowercase j ∧ v.2 ≠ w.2

theorem exists_of_assigned? {a : Assignment} (h : assigned? before v = .ok (some a)) :
    ∃ key, keyOf? before v.1 = some key ∧ Assignment.ofKey? key v.2 = .ok (some a) := by
  rw [assigned?] at h
  cases hkey : keyOf? before v.1 with
  | none =>
    rw [hkey] at h
    cases h
  | some key =>
    rw [hkey] at h
    refine ⟨key, rfl, ?_⟩
    cases hassigned : Assignment.ofKey? key v.2 with
    | error fault =>
      simp only [hassigned] at h
      cases h
    | ok a' =>
      simp only [hassigned] at h
      cases h
      rfl

/-- Variables of different names do not give different values to one place unless they are
rivals. -/
theorem eq_of_place {a b : Assignment} (hv : assigned? before v = .ok (some a))
    (hw : assigned? before w = .ok (some b)) (hnames : v.1 = w.1 → v = w)
    (hrivals : ¬Rivals before v w) (hplace : a.place = b.place) : a = b := by
  obtain ⟨key, hkey, ha⟩ := exists_of_assigned? hv
  obtain ⟨key', hkey', hb⟩ := exists_of_assigned? hw
  rcases Assignment.place_of_ofKey? ha with ⟨rfl, hhead⟩ | ⟨i, part, rfl, rfl⟩ <;>
    rcases Assignment.place_of_ofKey? hb with ⟨rfl, hhead'⟩ | ⟨j, part', rfl, rfl⟩
  · -- two sections: the keys are the places, and a key has one name
    rw [← hplace] at hkey'
    rw [hnames (eq_of_keyOf? hkey hkey'), hw] at hv
    exact (Option.some.inj (Except.ok.inj hv)).symm
  · exact absurd (congrArg List.head? hplace) hhead
  · exact absurd (congrArg List.head? hplace).symm hhead'
  · simp only [Assignment.place, List.cons.injEq, true_and, and_true] at hplace
    obtain rfl := JobPart.name_injective hplace.2
    by_cases hvalue : v.2 = w.2
    · rw [hplace.1, hvalue]
    · exact absurd ⟨i, j, part, hkey, hkey', hplace.1, hvalue⟩ hrivals

/-- Variables may change places unless they are rivals. -/
theorem assign_comm (hnames : v.1 = w.1 → v = w) (hrivals : ¬Rivals before v w) (s : Settings) :
    assign before (assign before s v) w = assign before (assign before s w) v := by
  unfold assign
  cases hv : (assigned? before v).toOption.join with
  | none => rfl
  | some a =>
    cases hw : (assigned? before w).toOption.join with
    | none => rfl
    | some b =>
      have hok : ∀ {u : String × String} {c : Assignment},
          (assigned? before u).toOption.join = some c → assigned? before u = .ok (some c) := by
        intro u c h
        cases hu : assigned? before u with
        | error e =>
          rw [hu] at h
          cases h
        | ok c' =>
          rw [hu] at h
          cases h
          rfl
      exact Assignment.apply_comm (eq_of_place (hok hv) (hok hw) hnames hrivals) s

/-- The last of several rivals stays. -/
theorem get_assign {i : String} {part : JobPart}
    (h : keyOf? before v.1 = some ["JOBS", i, part.name]) (s : Settings) :
    ((assign before s v).jobs.get? (Unicode.lowercase i)).map part.get = some v.2 := by
  have hassigned : assigned? before v = .ok (some (.job (Unicode.lowercase i) part v.2)) := by
    rw [assigned?, h]
    simp only [Assignment.ofKey?_job]
    rfl
  have hassign : assign before s v = Assignment.apply s (.job (Unicode.lowercase i) part v.2) := by
    rw [assign, hassigned]
    rfl
  rw [hassign, Assignment.jobs_apply_job, JobKinds.get?_insert, if_pos rfl, Option.map_some,
    JobPart.get_set]

/-- Any two variables may stand last, in either order. -/
theorem exists_perm_ending (hv : v ∈ vs) (hw : w ∈ vs) (hne : w ≠ v) :
    ∃ rest, (rest ++ [v, w]).Perm vs ∧ (rest ++ [w, v]).Perm vs := by
  have hboth : (v :: w :: (vs.erase v).erase w).Perm vs :=
    (List.Perm.cons v (List.perm_cons_erase ((List.mem_erase_of_ne hne).2 hw)).symm).trans
      (List.perm_cons_erase hv).symm
  refine ⟨(vs.erase v).erase w, List.perm_append_comm.trans hboth, ?_⟩
  exact List.perm_append_comm.trans ((List.Perm.swap v w _).trans hboth)

/-- Rivals that stand last leave different settings behind in either order. -/
theorem overrideAll_ne_of_rivals {rest : List (String × String)}
    (hsound : ∀ u ∈ rest ++ [v, w], ¬Faulty before u) (h : Rivals before v w) :
    (overrideAll before s (rest ++ [v, w])).toOption ≠
      (overrideAll before s (rest ++ [w, v])).toOption := by
  obtain ⟨i, j, part, hkey, hkey', hlower, hvalue⟩ := h
  have hsound' : ∀ u ∈ rest ++ [w, v], ¬Faulty before u := fun u hu =>
    hsound u (((List.Perm.swap w v []).append_left rest).mem_iff.2 hu)
  rw [overrideAll_of_not_faulty hsound, overrideAll_of_not_faulty hsound', List.foldl_append,
    List.foldl_append]
  intro hagree
  have hlast := get_assign hkey (assign before (rest.foldl (assign before) s) w)
  have hlast' := get_assign hkey' (assign before (rest.foldl (assign before) s) v)
  have hsettings : assign before (assign before (rest.foldl (assign before) s) v) w =
      assign before (assign before (rest.foldl (assign before) s) w) v := Option.some.inj hagree
  rw [hsettings, ← hlower, hlast] at hlast'
  exact hvalue (Option.some.inj hlast')

/-- Without rivals, variables of different names may be applied in any order. -/
theorem toOption_overrideAll_of_perm (hnames : (vs.map (·.1)).Nodup)
    (hrivals : ∀ v ∈ vs, ∀ w ∈ vs, ¬Rivals before v w) (h : ws.Perm vs) :
    (overrideAll before s ws).toOption = (overrideAll before s vs).toOption := by
  by_cases hfaults : ∃ v ∈ vs, Faulty before v
  · obtain ⟨v, hv, hfaulty⟩ := hfaults
    rw [overrideAll_of_faulty (h.mem_iff.2 hv) hfaulty, overrideAll_of_faulty hv hfaulty]
  · have hsound : ∀ u ∈ vs, ¬Faulty before u := fun u hu hfaulty => hfaults ⟨u, hu, hfaulty⟩
    rw [overrideAll_of_not_faulty hsound,
      overrideAll_of_not_faulty fun u hu => hsound u (h.mem_iff.1 hu)]
    refine congrArg some (h.foldl_eq' (fun v hv w hw s => ?_) s)
    have hv := h.mem_iff.1 hv
    have hw := h.mem_iff.1 hw
    exact assign_comm (List.inj_on_of_nodup_map hnames hv hw) (hrivals v hv w hw) s

/-- The order of variables with different names matters exactly if none of them has a fault and
there are rivals among them. -/
theorem orders_agree_iff (hnames : (vs.map (·.1)).Nodup) :
    (∀ ws ws', ws.Perm vs → ws'.Perm vs →
      (overrideAll before s ws).toOption = (overrideAll before s ws').toOption) ↔
      (∃ v ∈ vs, Faulty before v) ∨ ∀ v ∈ vs, ∀ w ∈ vs, ¬Rivals before v w := by
  constructor
  · intro horders
    by_contra hnot
    obtain ⟨hfaults, hrivals⟩ := not_or.1 hnot
    refine hrivals fun v hv w hw hvw => ?_
    have hne : w ≠ v := by
      rintro rfl
      obtain ⟨_, _, _, _, _, _, hvalue⟩ := hvw
      exact hvalue rfl
    obtain ⟨rest, hvw', hwv'⟩ := exists_perm_ending hv hw hne
    have hsound : ∀ u ∈ rest ++ [v, w], ¬Faulty before u := fun u hu hfaulty =>
      hfaults ⟨u, hvw'.mem_iff.1 hu, hfaulty⟩
    exact overrideAll_ne_of_rivals hsound hvw (horders _ _ hvw' hwv')
  · rintro (⟨v, hv, hfaulty⟩ | hrivals) ws ws' hws hws'
    · rw [overrideAll_of_faulty (hws.mem_iff.2 hv) hfaulty,
        overrideAll_of_faulty (hws'.mem_iff.2 hv) hfaulty]
    · rw [toOption_overrideAll_of_perm hnames hrivals hws,
        toOption_overrideAll_of_perm hnames hrivals hws']

/-- The queue and the class of one kind of job, in names of different case, and a mount path. -/
def kindInTwoCases : List (String × String) := [
  ("ARIADNE__JOBS__SYNC__QUEUE", "sync"), ("ARIADNE__JOBS__sync__CLASS", "Sync"),
  ("ARIADNE__API__MOUNT_PATH", "/api")]

theorem orders_agree_kindInTwoCases : (kindInTwoCases.map (·.1)).Nodup ∧
    ∀ ws ws', ws.Perm kindInTwoCases → ws'.Perm kindInTwoCases →
      (overrideAll "ARIADNE" default ws).toOption =
        (overrideAll "ARIADNE" default ws').toOption := by
  have hnames : (kindInTwoCases.map (·.1)).Nodup := by
    decide +kernel
  have hparts : ∀ v ∈ kindInTwoCases, ∀ w ∈ kindInTwoCases,
      (keyOf? "ARIADNE" v.1).bind (·[2]?) = (keyOf? "ARIADNE" w.1).bind (·[2]?) → v.2 = w.2 := by
    decide +kernel
  refine ⟨hnames, (orders_agree_iff hnames).2 (.inr ?_)⟩
  rintro v hv w hw ⟨i, j, part, hkey, hkey', -, hvalue⟩
  refine hvalue (hparts v hv w hw ?_)
  rw [hkey, hkey']
  rfl

/-- Two names of the queue of one kind of job, which differ by case. -/
def queueInTwoCases : List (String × String) :=
  [("ARIADNE__JOBS__SYNC__QUEUE", "fast"), ("ARIADNE__JOBS__sync__QUEUE", "slow")]

theorem orders_differ_queueInTwoCases : (queueInTwoCases.map (·.1)).Nodup ∧
    queueInTwoCases.reverse.Perm queueInTwoCases ∧
    (overrideAll "ARIADNE" default queueInTwoCases).toOption ≠
      (overrideAll "ARIADNE" default queueInTwoCases.reverse).toOption := by
  decide +kernel

end Settings

end RequestBinding
