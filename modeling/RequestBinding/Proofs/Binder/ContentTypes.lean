import RequestBinding.Proofs.Binder.Precedence
import RequestBinding.Proofs.Text.Cutting

/-!
# Content types

The content type of a request says how its body is read. So a request with header fields is bound
like one without them: like one whose body is JSON, like one without a body whose parameters are
extended by a form afterwards, or like one without a body.

## Main definitions

* `Header.First`, `Header.IsVisible` - the field that counts, and the values that are text
* `Header.MediaType` - the media type that a value states
* `Header.States` - the media type that the header fields of a request state
* `Binding.extendForm` - a binding with the parameters of a form
* `Binder.Reduces` - a request with header fields is bound like one without

## Main statements

* `Body.mediaType_eq_iff`, `Body.contentType?_eq_some_iff` - how header fields are read
* `Body.classify_of_states` - how the body is read with them
* `Binder.bindBody_ignored`, `Binder.value_bindBody_form` - bodies that are not JSON
* `Binder.reduces` - every request with header fields is bound like one without
-/

namespace RequestBinding

/-! ## Header fields -/

namespace Header

/-- The value of the first field with a name, whatever the case of the name. -/
def First (headers : List (String × String)) (name value : String) : Prop :=
  ∃ before field after, headers = before ++ (field, value) :: after ∧ lower field = name ∧
    ∀ h ∈ before, lower h.1 ≠ name

/-- The values with visible ASCII characters, spaces and tabs alone. -/
def IsVisible (value : String) : Prop :=
  ∀ c ∈ value.toList, c = '\t' ∨ 32 ≤ c.toNat ∧ c.toNat < 127

/-- The media type that a value states: the part before the first semicolon, without the blanks
around it, whatever its case. -/
def MediaType (value type : String) : Prop :=
  ∃ part rest core, value.toList = part ++ rest ∧ ';' ∉ part ∧
    (∀ c ∈ rest.head?, c = ';') ∧ Unicode.Trimmed part core ∧ type = lower (String.ofList core)

/-- The media type that header fields state: that of their first content type, if it is text. -/
def States (headers : List (String × String)) (type : String) : Prop :=
  ∃ value, First headers "content-type" value ∧ IsVisible value ∧ MediaType value type

theorem visible?_eq_some_iff {s value : String} :
    visible? s = some value ↔ IsVisible value ∧ s = value := by
  simp only [visible?, Option.ite_none_right_eq_some, Option.some.injEq]
  refine ⟨?_, ?_⟩
  · rintro ⟨h, rfl⟩
    exact ⟨by simpa [IsVisible] using h, rfl⟩
  · rintro ⟨h, rfl⟩
    exact ⟨by simpa [IsVisible] using h, rfl⟩

end Header

namespace Body

theorem mediaType_eq_iff {value type : String} :
    mediaType value = type ↔ Header.MediaType value type := by
  constructor
  · rintro rfl
    obtain ⟨rest, hvalue, hpart, hrest⟩ := takeWhile_bne_eq_iff.1 (rfl : value.toList.takeWhile
      (· != ';') = _)
    exact ⟨_, rest, _, hvalue, hpart, hrest, Unicode.trimBlank_eq_iff.1 rfl, rfl⟩
  · rintro ⟨part, rest, core, hvalue, hpart, hrest, hcore, rfl⟩
    rw [mediaType, takeWhile_bne_eq_iff.2 ⟨rest, hvalue, hpart, hrest⟩,
      Unicode.trimBlank_of_trimmed hcore]

theorem contentType?_eq_some_iff {headers : List (String × String)} {value : String} :
    contentType? headers = some value ↔
      Header.First headers "content-type" value ∧ Header.IsVisible value := by
  rw [contentType?]
  constructor
  · intro h
    split at h
    · next field hfind =>
      obtain ⟨hname, before, after, rfl, hbefore⟩ := List.find?_eq_some_iff_append.1 hfind
      obtain ⟨hvisible, rfl⟩ := Header.visible?_eq_some_iff.1 h
      exact ⟨⟨before, field.1, after, rfl, beq_iff_eq.1 hname,
        fun h hh => by simpa using hbefore h hh⟩, hvisible⟩
    · cases h
  · rintro ⟨⟨before, field, after, rfl, hname, hbefore⟩, hvisible⟩
    have hfind : (before ++ (field, value) :: after).find?
        (fun h => Header.lower h.1 == "content-type") = some (field, value) :=
      List.find?_eq_some_iff_append.2 ⟨beq_iff_eq.2 hname, before, after, rfl,
        fun h hh => by simpa using hbefore h hh⟩
    rw [hfind]
    exact Header.visible?_eq_some_iff.2 ⟨hvisible, rfl⟩

/-- The media types of JSON. -/
def IsJsonType (type : String) : Prop :=
  type = "application/json" ∨ ∃ base, type = base ++ "+json"

/-- The media type of forms. -/
def formType : String := "application/x-www-form-urlencoded"

theorem isJson_iff {type : String} : isJson type = true ↔ IsJsonType type := by
  rw [isJson, Bool.or_eq_true, beq_iff_eq, List.isSuffixOf_iff_suffix]
  refine or_congr_right ⟨?_, ?_⟩
  · rintro ⟨base, hbase⟩
    exact ⟨String.ofList base, String.toList_inj.1 (by simp [← hbase])⟩
  · rintro ⟨base, rfl⟩
    exact ⟨base.toList, String.toList_append.symm⟩

/-- Forms are not JSON. -/
theorem not_isJsonType_formType : ¬IsJsonType formType :=
  mt isJson_iff.2 (by decide +kernel)

/-- The media type that the header fields state decides how the body is read. -/
theorem classify_of_states {headers : List (String × String)} {type : String} (bytes : List UInt8)
    (h : Header.States headers type) : classify (contentType? headers) bytes =
      if type = formType then .form bytes else if isJson type then .json bytes else .ignored := by
  obtain ⟨value, hfirst, hvisible, htype⟩ := h
  have hmedia : (contentType? headers).map mediaType = some type := by
    rw [contentType?_eq_some_iff.2 ⟨hfirst, hvisible⟩, Option.map_some, mediaType_eq_iff.2 htype]
  simp only [classify, hmedia, beq_iff_eq]
  rfl

end Body

/-! ## Bodies that are not JSON -/

/-- A binding with the parameters of a form, which fill the gaps of its bag. -/
def Binding.extendForm (x : Binding) (body : List UInt8) : Except RequestError Binding :=
  match x.resolver.params.extendForm body with
  | .ok p => .ok ⟨x.route, { x.resolver with params := p }⟩
  | .error fault => .error (ParamsError.body fault).toRequestError

namespace Binder

/-- A body that is not read is no body. -/
theorem bindBody_ignored (b : Binder) (method : Method) (uri : Uri) :
    b.bindBody method uri .ignored = b.bind method uri [] := rfl

/-- A form is read as if it was added after a request without a body was bound. -/
theorem value_bindBody_form (b : Binder) (method : Method) (uri : Uri) (body : List UInt8) :
    (b.bindBody method uri (.form body)).value =
      (b.bind method uri []).value >>= fun x => x.extendForm body := by
  rw [bind, bindBody, bindBody, Traced.value_bind, Traced.value_bind]
  cases (b.route method uri).value with
  | error e => rfl
  | ok found =>
    obtain ⟨r, c⟩ := found
    simp only [gather_eq]
    -- an empty body adds nothing, so the form is added to the bag of the path and the query
    change _ = Binding.extendForm ⟨r, .new (uri.query.elim (captured c) (captured c).extendQuery)
      (b.typeOf r) b.jobs⟩ body
    simp only [Binding.extendForm, Resolver.new, Body.extend]
    cases (uri.query.elim (captured c) (captured c).extendQuery).extendForm body <;> rfl

/-- A request with header fields is bound like one without them. -/
structure Reduces (b : Binder) (r : Request) : Prop where
  absent : (∀ value, Header.First r.headers "content-type" value → ¬Header.IsVisible value) →
    b.bindRequest r = b.bind r.method r.uri r.body
  json : ∀ type, Header.States r.headers type → Body.IsJsonType type →
    b.bindRequest r = b.bind r.method r.uri r.body
  form : Header.States r.headers Body.formType → (b.bindRequest r).value =
    (b.bind r.method r.uri []).value >>= fun x => x.extendForm r.body
  other : ∀ type, Header.States r.headers type → ¬Body.IsJsonType type → type ≠ Body.formType →
    b.bindRequest r = b.bind r.method r.uri []

/-- The header fields of a request matter by the way that they have its body read, and by nothing
else. -/
theorem reduces (b : Binder) (r : Request) : b.Reduces r where
  absent h := by
    have hnone : Body.contentType? r.headers = none :=
      Option.eq_none_iff_forall_ne_some.2 fun value hvalue =>
        let ⟨hfirst, hvisible⟩ := Body.contentType?_eq_some_iff.1 hvalue
        h value hfirst hvisible
    rw [bindRequest, hnone]
    rfl
  json type h hjson := by
    have hform : type ≠ Body.formType := by
      rintro rfl
      exact Body.not_isJsonType_formType hjson
    rw [bindRequest, Body.classify_of_states _ h, if_neg hform, if_pos (Body.isJson_iff.2 hjson)]
    rfl
  form h := by
    rw [bindRequest, Body.classify_of_states _ h, if_pos rfl]
    exact b.value_bindBody_form r.method r.uri r.body
  other type h hjson hform := by
    rw [bindRequest, Body.classify_of_states _ h, if_neg hform, if_neg (mt Body.isJson_iff.1 hjson)]
    exact b.bindBody_ignored r.method r.uri

end Binder

end RequestBinding
