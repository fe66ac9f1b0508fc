import RequestBinding.Proofs.Outcome
import RequestBinding.Proofs.Params.Brackets
import RequestBinding.Proofs.Params.Merge
import RequestBinding.Settings.Loader

/-!
# Layers of settings

A loader that takes a document holds what the document mentions, and has the default value in all
other places, whatever it held before. So a place that the document does not mention stays as it was
if and only if it had the default value: nothing is lost of the default settings and of the preset
for production, but the preset for development is lost where it differs from them.

## Main definitions

* `Document.HasEntry` - the entries of a section
* `Document.Given`, `Document.DescribesKinds` - what a document says
* `Settings.Place` - the places of settings that a document may mention
* `Loader.Replaced` - what a loader holds after a document

## Main statements

* `Document.hasEntry_iff` - an accepted section has at most one entry for a field
* `Document.describesKinds_of_jobs?` - the kinds of jobs of a document
* `Settings.Place.given_of_settings?` - the settings of a document
* `Loader.replaced_of_withText` - a document that is given as a text
-/

namespace RequestBinding

/-- In lists side by side whose members have the same keys, looking a key up finds members that
stand side by side. -/
theorem Members.rel_get? {α β : Type} {R : α → β → Prop} {ms : List (String × α)}
    {ns : List (String × β)} (h : List.Forall₂ (fun m n => m.1 = n.1 ∧ R m.2 n.2) ms ns)
    (k : String) :
    Option.Rel R (get? k ms) (get? k ns) := by
  induction h with
  | nil => exact .none
  | cons hmn _ ih =>
    rw [get?, get?, ← hmn.1]
    split
    · exact .some hmn.2
    · exact ih

namespace Document

variable {α β : Type} {d : Dialect} {doc v : Document} {names : List String} {name : String}
  {ms : List (String × Document)}

/-! ## Entries -/

/-- The entries of a section for a field: in a table those under its name, in a list the one at its
place among the names. -/
inductive HasEntry (names : List String) (name : String) : Document → Document → Prop where
  | named {ms : List (String × Document)} {v : Document} (hmem : (name, v) ∈ ms) :
      HasEntry names name (.table ms) v
  | placed {items : List Document} {v : Document} {i : Nat} (hname : names[i]? = some name)
      (hitem : items[i]? = some v) : HasEntry names name (.list items) v

theorem nodup_of_fields? (hnames : names.Nodup) (h : doc.fields? d names = some ms) :
    (ms.map (·.1)).Nodup := by
  cases doc <;> rw [fields?] at h
  case list items =>
    split at h
    · cases h
    · cases h
      -- the items have the first of the names
      rw [List.zip_eq_zip_take_min, List.map_fst_zip (by simp)]
      exact hnames.sublist (List.take_sublist _ _)
  case table members =>
    split at h
    · next hfields =>
      cases h
      exact of_decide_eq_true (Bool.and_eq_true_iff.1 hfields).2
    · cases h
  all_goals cases h

/-- A section that is accepted has at most one entry for each field. -/
theorem hasEntry_iff (hnames : names.Nodup) (h : doc.fields? d names = some ms) :
    doc.HasEntry names name v ↔ Members.get? name ms = some v := by
  rw [Members.get?_eq_some_iff (nodup_of_fields? hnames h)]
  cases doc <;> rw [fields?] at h
  case list items =>
    split at h
    · cases h
    · cases h
      rw [List.mem_iff_getElem?]
      constructor
      · intro hentry
        cases hentry with
        | placed hname hitem => exact ⟨_, List.getElem?_zip_eq_some.2 ⟨hname, hitem⟩⟩
      · rintro ⟨i, hi⟩
        obtain ⟨hname, hitem⟩ := List.getElem?_zip_eq_some.1 hi
        exact .placed hname hitem
  case table members =>
    split at h
    · cases h
      refine ⟨fun hentry => ?_, .named⟩
      cases hentry with
      | named hmem => exact hmem
    · cases h
  all_goals cases h

/-- What is given for a value: what any of the entries for it says, or else the default. -/
structure Given (Entry : Document → Prop) (Says : Document → α → Prop) (default x : α) : Prop where
  entry : ∀ v, Entry v → Says v x
  missing : (∀ v, ¬Entry v) → x = default

theorem Given.map {Entry : Document → Prop} {Says : Document → α → Prop}
    {Says' : Document → β → Prop} {default x : α} (h : Given Entry Says default x) (f : α → β)
    (hread : ∀ v, Says v x → Says' v (f x)) : Given Entry Says' (f default) (f x) where
  entry v hv := hread v (h.entry v hv)
  missing hnone := congrArg f (h.missing hnone)

/-- What a section gives for a field as a reader takes it. -/
abbrev Read (doc : Document) (names : List String) (name : String) (read : Document → Option α)
    (default x : α) : Prop :=
  Given (doc.HasEntry names name) (fun v x => read v = some x) default x

theorem read_of_field? {read : Document → Option α} {default x : α} (hnames : names.Nodup)
    (h : doc.fields? d names = some ms) (hx : field? ms name read (some default) = some x) :
    doc.Read names name read default x := by
  rw [field?] at hx
  cases hget : Members.get? name ms with
  | none =>
    rw [hget] at hx
    cases hx
    refine ⟨fun v hv => ?_, fun _ => rfl⟩
    rw [hasEntry_iff hnames h, hget] at hv
    cases hv
  | some w =>
    rw [hget] at hx
    refine ⟨fun v hv => ?_, fun hnone => absurd ((hasEntry_iff hnames h).2 hget) (hnone w)⟩
    rw [hasEntry_iff hnames h, hget] at hv
    cases hv
    exact hx

/-! ## Kinds of jobs -/

/-- The names of the fields of a kind of job. -/
def kindNames : List String := ["queue", "class"]

/-- A section with the queue and the class of a kind of job. -/
def DescribesKind (doc : Document) (k : JobKind) : Prop :=
  doc.HasEntry kindNames "queue" (.text k.queue) ∧ doc.HasEntry kindNames "class" (.text k.class_)

/-- A table that has a kind of job under each identifier; the last entry of an identifier counts. -/
def DescribesKinds (doc : Document) (ks : JobKinds) : Prop :=
  ∃ ms, doc = .table ms ∧
    ∀ i, Option.Rel DescribesKind (Members.get? i ms.reverse) (ks.get? i)

theorem hasEntry_of_text? {x : String} (hnames : names.Nodup) (h : doc.fields? d names = some ms)
    (hx : field? ms name text? none = some x) : doc.HasEntry names name (.text x) := by
  rw [hasEntry_iff hnames h]
  rw [field?] at hx
  split at hx
  · next w hget =>
    cases w <;> cases hx
    exact hget
  · cases hx

theorem describesKind_of_job? {k : JobKind} (h : job? d doc = some k) : doc.DescribesKind k := by
  have hnames : kindNames.Nodup := by decide
  simp only [job?, Option.bind_eq_bind, Option.bind_eq_some_iff] at h
  obtain ⟨ms, hms, queue, hqueue, class_, hclass, hk⟩ := h
  cases hk
  exact ⟨hasEntry_of_text? hnames hms hqueue, hasEntry_of_text? hnames hms hclass⟩

theorem describesKinds_of_jobs? {ks : JobKinds} (h : jobs? d doc = some ks) :
    doc.DescribesKinds ks := by
  cases doc <;> rw [jobs?] at h
  case table ms =>
    obtain ⟨ps, hps, rfl⟩ := Option.map_eq_some_iff.1 h
    refine ⟨ms, rfl, fun i => ?_⟩
    rw [JobKinds.get?, JobKinds.ofList, Members.get?_ofList_eq_get?_reverse]
    refine Members.rel_get? (List.rel_reverse ((forall₂_of_mapM_eq_some hps).imp ?_)) i
    rintro ⟨j, entry⟩ p hp
    obtain ⟨k, hk, rfl⟩ := Option.map_eq_some_iff.1 hp
    exact ⟨rfl, describesKind_of_job? hk⟩
  all_goals cases h

/-! ## Sections -/

/-- The names of the sections. -/
def sectionNames : List String := ["api", "logging", "jobs"]

/-- The names of the fields about mounting. -/
def apiNames : List String := ["mount_path", "service_name"]

/-- The names of the fields about logging. -/
def loggingNames : List String := ["enabled", "level", "format", "ansi_enabled", "include_location"]

/-- A text with the name of a format, or a table whose only member has this name and no contents. -/
def NamesFormat (d : Dialect) (doc : Document) (f : LogFormat) : Prop :=
  doc = .text f.name ∨ ∃ v, doc = .table [(f.name, v)] ∧ v.isVoid d = true

theorem namesFormat_of_choice? {f : LogFormat}
    (h : (doc.choice? d).bind LogFormat.ofName? = some f) : doc.NamesFormat d f := by
  obtain ⟨s, hs, hf⟩ := Option.bind_eq_some_iff.1 h
  obtain rfl : f.name = s := by simpa using List.find?_some hf
  unfold choice? at hs
  split at hs
  · cases hs
    exact .inl rfl
  · next v =>
    split at hs
    · next hvoid =>
      cases hs
      exact .inr ⟨v, rfl, hvoid⟩
    · cases hs
  · cases hs

/-- An entry for a field in an entry for a section. -/
def HasEntryIn (doc : Document) (part : String) (names : List String) (name : String)
    (v : Document) : Prop :=
  ∃ s, doc.HasEntry sectionNames part s ∧ s.HasEntry names name v

/-- A field is given by its section; its default is that of the section. -/
theorem Given.inSection {σ : Type} {part : String} {readSection : Document → Option σ}
    {defaultSection sect : σ} {Says : Document → α → Prop} {default x : α}
    (hsect : doc.Read sectionNames part readSection defaultSection sect)
    (hfield : ∀ s, readSection s = some sect → Given (s.HasEntry names name) Says default x)
    (hdefault : sect = defaultSection → x = default) :
    Given (doc.HasEntryIn part names name) Says default x where
  entry := by
    rintro v ⟨s, hs, hv⟩
    exact (hfield s (hsect.entry s hs)).entry v hv
  missing hnone := by
    -- the field may be missing in its section, or the section may be missing
    by_cases hpart : ∃ s, doc.HasEntry sectionNames part s
    · obtain ⟨s, hs⟩ := hpart
      exact (hfield s (hsect.entry s hs)).missing fun v hv => hnone v ⟨s, hs, hv⟩
    · exact hdefault (hsect.missing fun s hs => hpart ⟨s, hs⟩)

/-- How the values about mounting are read from a section. -/
structure ReadsApi (doc : Document) (s : ApiSettings) : Prop where
  mountPath : doc.Read apiNames "mount_path" text? ApiSettings.default.mountPath s.mountPath
  serviceName : doc.Read apiNames "service_name" text? ApiSettings.default.serviceName s.serviceName

/-- How the values about logging are read from a section. -/
structure ReadsLogging (d : Dialect) (doc : Document) (s : LoggingSettings) : Prop where
  enabled : doc.Read loggingNames "enabled" flag? LoggingSettings.default.enabled s.enabled
  level : doc.Read loggingNames "level" text? LoggingSettings.default.level s.level
  format : doc.Read loggingNames "format" (fun v => (v.choice? d).bind LogFormat.ofName?)
    LoggingSettings.default.format s.format
  ansiEnabled : doc.Read loggingNames "ansi_enabled" flag? LoggingSettings.default.ansiEnabled
    s.ansiEnabled
  includeLocation : doc.Read loggingNames "include_location" flag?
    LoggingSettings.default.includeLocation s.includeLocation

/-- How the sections are read from a document. -/
structure ReadsSettings (d : Dialect) (doc : Document) (s : Settings) : Prop where
  api : doc.Read sectionNames "api" (api? d) ApiSettings.default s.api
  logging : doc.Read sectionNames "logging" (logging? d) LoggingSettings.default s.logging
  jobs : doc.Read sectionNames "jobs" (jobs? d) JobKinds.default s.jobs

theorem readsApi_of_api? {s : ApiSettings} (h : api? d doc = some s) : doc.ReadsApi s := by
  have hnames : apiNames.Nodup := by decide
  simp only [api?, Option.bind_eq_bind, Option.bind_eq_some_iff] at h
  obtain ⟨ms, hms, mountPath, hmountPath, serviceName, hserviceName, hs⟩ := h
  cases hs
  exact ⟨read_of_field? hnames hms hmountPath, read_of_field? hnames hms hserviceName⟩

theorem readsLogging_of_logging? {s : LoggingSettings} (h : logging? d doc = some s) :
    doc.ReadsLogging d s := by
  have hnames : loggingNames.Nodup := by decide
  simp only [logging?, Option.bind_eq_bind, Option.bind_eq_some_iff] at h
  obtain ⟨ms, hms, enabled, henabled, level, hlevel, format, hformat, ansiEnabled, hansiEnabled,
    includeLocation, hincludeLocation, hs⟩ := h
  cases hs
  exact ⟨read_of_field? hnames hms henabled, read_of_field? hnames hms hlevel,
    read_of_field? hnames hms hformat, read_of_field? hnames hms hansiEnabled,
    read_of_field? hnames hms hincludeLocation⟩

theorem readsSettings_of_settings? {s : Settings} (h : settings? d doc = some s) :
    doc.ReadsSettings d s := by
  have hnames : sectionNames.Nodup := by decide
  simp only [settings?, Option.bind_eq_bind, Option.bind_eq_some_iff] at h
  obtain ⟨ms, hms, api, hapi, logging, hlogging, jobs, hjobs, hs⟩ := h
  cases hs
  exact ⟨read_of_field? hnames hms hapi, read_of_field? hnames hms hlogging,
    read_of_field? hnames hms hjobs⟩

theorem eq_text_of_text? {x : String} (h : doc.text? = some x) : doc = .text x := by
  cases doc <;> cases h
  rfl

theorem eq_flag_of_flag? {x : Bool} (h : doc.flag? = some x) : doc = .flag x := by
  cases doc <;> cases h
  rfl

end Document

/-! ## Places -/

namespace Settings

open Document (apiNames loggingNames sectionNames)

/-- The places of settings that a document may mention. -/
inductive Place where
  | mountPath
  | serviceName
  | enabled
  | level
  | format
  | ansiEnabled
  | includeLocation
  | jobs
  deriving DecidableEq

/-- The values in places of settings. -/
inductive PlaceValue where
  | text (s : String)
  | flag (b : Bool)
  | format (f : LogFormat)
  | kinds (ks : JobKinds)
  deriving DecidableEq

namespace Place

/-- The value in a place. -/
def get (s : Settings) : Place → PlaceValue
  | .mountPath => .text s.api.mountPath
  | .serviceName => .text s.api.serviceName
  | .enabled => .flag s.logging.enabled
  | .level => .text s.logging.level
  | .format => .format s.logging.format
  | .ansiEnabled => .flag s.logging.ansiEnabled
  | .includeLocation => .flag s.logging.includeLocation
  | .jobs => .kinds s.jobs

/-- The entries of a document for a place: those for a field in a section, or for the jobs, which
are a section of their own. -/
def Mentions (doc : Document) : Place → Document → Prop
  | .mountPath => doc.HasEntryIn "api" apiNames "mount_path"
  | .serviceName => doc.HasEntryIn "api" apiNames "service_name"
  | .enabled => doc.HasEntryIn "logging" loggingNames "enabled"
  | .level => doc.HasEntryIn "logging" loggingNames "level"
  | .format => doc.HasEntryIn "logging" loggingNames "format"
  | .ansiEnabled => doc.HasEntryIn "logging" loggingNames "ansi_enabled"
  | .includeLocation => doc.HasEntryIn "logging" loggingNames "include_location"
  | .jobs => doc.HasEntry sectionNames "jobs"

end Place

/-- What a document in the place of a value says. -/
def PlaceValue.Says (d : Dialect) (v : Document) : PlaceValue → Prop
  | .text s => v = .text s
  | .flag b => v = .flag b
  | .format f => v.NamesFormat d f
  | .kinds ks => v.DescribesKinds ks

/-- The settings of a document have in each place what it mentions there, or else the default. -/
theorem Place.given_of_settings? {d : Dialect} {doc : Document} {s : Settings}
    (h : doc.settings? d = some s) (p : Place) :
    Document.Given (p.Mentions doc) (PlaceValue.Says d) (p.get default) (p.get s) := by
  obtain ⟨hapi, hlogging, hjobs⟩ := Document.readsSettings_of_settings? h
  cases p with
  | mountPath =>
    exact (hapi.inSection (fun _ hs => (Document.readsApi_of_api? hs).mountPath)
      (congrArg ApiSettings.mountPath)).map PlaceValue.text fun _ => Document.eq_text_of_text?
  | serviceName =>
    exact (hapi.inSection (fun _ hs => (Document.readsApi_of_api? hs).serviceName)
      (congrArg ApiSettings.serviceName)).map PlaceValue.text fun _ => Document.eq_text_of_text?
  | enabled =>
    exact (hlogging.inSection (fun _ hs => (Document.readsLogging_of_logging? hs).enabled)
      (congrArg LoggingSettings.enabled)).map PlaceValue.flag fun _ => Document.eq_flag_of_flag?
  | level =>
    exact (hlogging.inSection (fun _ hs => (Document.readsLogging_of_logging? hs).level)
      (congrArg LoggingSettings.level)).map PlaceValue.text fun _ => Document.eq_text_of_text?
  | format =>
    exact (hlogging.inSection (fun _ hs => (Document.readsLogging_of_logging? hs).format)
      (congrArg LoggingSettings.format)).map PlaceValue.format
      fun _ => Document.namesFormat_of_choice?
  | ansiEnabled =>
    exact (hlogging.inSection (fun _ hs => (Document.readsLogging_of_logging? hs).ansiEnabled)
      (congrArg LoggingSettings.ansiEnabled)).map PlaceValue.flag
      fun _ => Document.eq_flag_of_flag?
  | includeLocation =>
    exact (hlogging.inSection (fun _ hs => (Document.readsLogging_of_logging? hs).includeLocation)
      (congrArg LoggingSettings.includeLocation)).map PlaceValue.flag
      fun _ => Document.eq_flag_of_flag?
  | jobs => exact hjobs.map PlaceValue.kinds fun _ => Document.describesKinds_of_jobs?

/-- Where the preset for development differs from the default settings. -/
theorem Place.get_development_eq_iff (p : Place) :
    p.get development = p.get default ↔ p ∉ [.level, .format, .ansiEnabled, .includeLocation] := by
  cases p <;> decide

/-- The document that a text is. -/
def document? (d : Dialect) (cs : List Char) : Option Document :=
  match d with
  | .json => (Json.readRaw cs).map Document.ofJson
  | .toml => Toml.read cs

theorem ofText_eq (d : Dialect) (cs : List Char) : ofText d cs =
    match (document? d cs).bind (Document.settings? d) with
    | some s => .ok s
    | none => .error (.malformed d) := rfl

theorem exists_of_ofText {d : Dialect} {cs : List Char} {s : Settings} (h : ofText d cs = .ok s) :
    ∃ doc, document? d cs = some doc ∧ doc.settings? d = some s := by
  rw [ofText_eq] at h
  split at h
  · next s' hs =>
    cases h
    exact Option.bind_eq_some_iff.1 hs
  · cases h

end Settings

/-! ## Loaders -/

namespace Loader

open Settings (Place PlaceValue)

/-- What a loader holds after a document: in each place what the document mentions there, or else
the default. So what the document does not mention stays as it was if and only if it had the default
value, which is so in all places of the default settings and of the preset for production, and in
all but four of the preset for development. -/
structure Replaced (d : Dialect) (doc : Document) (l l' : Loader) : Prop where
  given : ∀ p : Place, Document.Given (p.Mentions doc) (PlaceValue.Says d) (p.get .default)
    (p.get l'.settings)
  kept : ∀ p : Place, (∀ v, ¬p.Mentions doc v) →
    (p.get l'.settings = p.get l.settings ↔ p.get l.settings = p.get .default)
  default : l.settings = .default ∨ l.settings = .production →
    ∀ p : Place, (∀ v, ¬p.Mentions doc v) → p.get l'.settings = p.get l.settings
  development : l.settings = .development → ∀ p : Place, (∀ v, ¬p.Mentions doc v) →
    (p.get l'.settings = p.get l.settings ↔
      p ∉ [.level, .format, .ansiEnabled, .includeLocation])
  others : l' = { l with settings := l'.settings }

/-- A document that is given as a text. -/
theorem replaced_of_withText {l l' : Loader} {text format : String}
    (h : l.withText text format = .ok l') : ∃ d doc, Settings.dialect? format = some d ∧
      Settings.document? d text.toList = some doc ∧ l.Replaced d doc l' := by
  rw [withText] at h
  split at h
  · cases h
  · next d hd =>
    obtain ⟨s, hs, rfl⟩ := exists_of_map_eq_ok h
    obtain ⟨doc, hdoc, hsettings⟩ := Settings.exists_of_ofText hs
    have hgiven := Place.given_of_settings? hsettings
    have hkept : ∀ p : Place, (∀ v, ¬p.Mentions doc v) →
        (p.get s = p.get l.settings ↔ p.get l.settings = p.get .default) := fun p hp => by
      rw [(hgiven p).missing hp, eq_comm]
    exact ⟨d, doc, hd, hdoc, {
      given := hgiven
      kept := hkept
      default := fun hl p hp => (hkept p hp).2 (by rcases hl with hl | hl <;> rw [hl]; rfl)
      development := fun hl p hp => by
        rw [← Place.get_development_eq_iff, ← hl]
        exact hkept p hp
      others := rfl }⟩

/-- A loader with the preset for development. -/
def developing : Loader := (new ⟨[]⟩).preset .development

/-- A document that mentions the level only. -/
def levelOnly : String := "\x7b\"logging\": \x7b\"level\": \"warn\"\x7d\x7d"

theorem replaced_of_withText_developing : ∃ l', developing.withText levelOnly "JSON" = .ok l' ∧
    l'.settings.logging = { LoggingSettings.default with level := "warn" } ∧
    ∃ d doc, developing.Replaced d doc l' := by
  have hrun : (developing.withText levelOnly "JSON").toOption.any (fun l =>
      l.settings.logging = { LoggingSettings.default with level := "warn" }) = true := by
    decide +kernel
  obtain ⟨l', hl', hlogging⟩ := exists_of_any_toOption hrun
  obtain ⟨d, doc, -, -, hreplaced⟩ := replaced_of_withText hl'
  exact ⟨l', hl', of_decide_eq_true hlogging, d, doc, hreplaced⟩

theorem not_kept_developing : ∃ l' doc, developing.withText "\x7b\x7d" "json" = .ok l' ∧
    Settings.document? .json "\x7b\x7d".toList = some doc ∧
    (∀ v, ¬Place.level.Mentions doc v) ∧
    Place.level.get l'.settings ≠ Place.level.get developing.settings := by
  have hrun : (developing.withText "\x7b\x7d" "json").toOption.any (fun l =>
      Place.level.get l.settings ≠ Place.level.get developing.settings) = true := by
    decide +kernel
  obtain ⟨l', hl', hlevel⟩ := exists_of_any_toOption hrun
  have hread : Json.readRaw "\x7b\x7d".toList = some (.obj []) := rfl
  refine ⟨l', .ofJson (.obj []), hl', congrArg (Option.map Document.ofJson) hread, ?_,
    of_decide_eq_true hlevel⟩
  rintro v ⟨s, hs, -⟩
  cases hs with
  | named hmem => cases hmem

end Loader

end RequestBinding
