import RequestBinding.Proofs.Binder.Mounting
import RequestBinding.Proofs.Json.Range
import RequestBinding.Proofs.Json.Reading
import RequestBinding.Proofs.Route.Methods

/-!
# Whether a request is bound

A request is bound if a route matches and its body can be read. Without a route there is nothing,
whatever the body is; with a route, the parameters are wrong if the body cannot be read. Queries
can always be read.

A body of JSON has to be the text of an object, within the limits of reading: with at most 127
containers within each other, with surrogates escaped in pairs, and with numbers within the range of
doubles. For the latter, a number is taken as it is converted: the digits that have room within 64
bits are rounded, and so is the power of ten, and the product of both has to be below the middle
between the greatest double and the next power of two. So whether a number is refused that is close
to the greatest double depends on how it is written.

## Main definitions

* `Binder.Matches` - a route matches a request
* `Body.Unreadable` - a body cannot be read
* `Binder.Answers` - a result is the one that the route and the body decide on

## Main statements

* `Body.exists_extend_eq_error_iff` - the bodies that cannot be read
* `Binder.answers_of_bindBody` - the route and the body decide on the result
* `Binder.answers_of_bind` - the same for each way of binding
* `Binder.not_answers_free`, `Binder.not_answers_without` - the limits of reading count, and none
  can be left out
-/

namespace RequestBinding

/-! ## Bodies -/

/-- The bytes of blanks: a space, a tab, and the ends of lines and pages. -/
def Body.blanks : List UInt8 := [0x20, 0x09, 0x0A, 0x0C, 0x0D]

/-- A body that cannot be read: JSON that is not blank and no text of an object, or a form that is
no UTF-8. -/
def Body.Unreadable (l : Json.Limits) : Body → Prop
  | .json bytes => (∃ b ∈ bytes, b ∉ blanks) ∧
      ¬∃ cs, bytes = Utf8.encodeChars cs ∧ Json.IsObjectText l cs
  | .form bytes => ¬∃ cs, bytes = Utf8.encodeChars cs
  | .ignored => False

theorem Params.isBlankByte_iff (b : UInt8) : isBlankByte b = true ↔ b ∈ Body.blanks := by
  simp [isBlankByte, Body.blanks, or_assoc]

theorem Params.exists_extendJson_eq_error_iff (p : Params) (bytes : List UInt8) :
    (∃ fault, p.extendJson bytes = .error fault) ↔ (Body.json bytes).Unreadable .reader := by
  rw [Body.Unreadable, ← Json.exists_readBytes_iff, extendJson]
  cases hblank : bytes.all isBlankByte with
  | true =>
    have hall : ¬∃ b ∈ bytes, b ∉ Body.blanks := by
      simpa [isBlankByte_iff] using hblank
    simp [hall]
  | false =>
    have hany : ∃ b ∈ bytes, b ∉ Body.blanks := by
      simpa [← isBlankByte_iff] using hblank
    rw [if_neg Bool.false_ne_true, and_iff_right hany]
    split
    · next members hread => simp [hread]
    · next v hno hread =>
      have hobj : ¬∃ members, Json.readBytes bytes = some (.obj members) := by
        rintro ⟨members, heq⟩
        exact hno members (Option.some.inj (hread.symm.trans heq))
      exact iff_of_true ⟨_, rfl⟩ hobj
    · next hread => simp [hread]

theorem Params.exists_extendForm_eq_error_iff (p : Params) (bytes : List UInt8) :
    (∃ fault, p.extendForm bytes = .error fault) ↔ (Body.form bytes).Unreadable .reader := by
  simp only [Body.Unreadable, ← Utf8.decode_eq_ok_iff, extendForm]
  cases Utf8.decode bytes <;> simp

/-- What is gathered already does not matter for whether a body can be read. -/
theorem Body.exists_extend_eq_error_iff (body : Body) (p : Params) :
    (∃ fault, body.extend p = .error fault) ↔ body.Unreadable .reader := by
  cases body with
  | json bytes => exact p.exists_extendJson_eq_error_iff bytes
  | form bytes => exact p.exists_extendForm_eq_error_iff bytes
  | ignored => simp [extend, Unreadable]

namespace Binder

/-! ## Routes -/

/-- A route with the method accepts what is left of a path below the mount path. -/
def Matches (b : Binder) (method : Method) (path : String) : Prop :=
  ∃ rest, Below b.mountPath path rest ∧
    ∃ r ∈ b.routes.routes, r.method = method ∧ r.accepts rest = true

/-- The category of the error that a request fails with, if it fails. -/
def failure? {α : Type} : Except RequestError α → Option ErrorCategory
  | .ok _ => none
  | .error e => some e.category

theorem matches_iff_of_strip? {b : Binder} {path rest : String} (h : b.strip? path = some rest)
    (method : Method) : b.Matches method path ↔ (b.routes.find? method rest).isSome = true := by
  rw [RouteTable.isSome_find?_iff]
  constructor
  · rintro ⟨rest', hbelow, hroute⟩
    have hrest : rest' = rest := by
      rw [strip?_eq_some_iff.2 hbelow] at h
      exact Option.some.inj h
    rwa [← hrest]
  · exact fun hroute => ⟨rest, strip?_eq_some_iff.1 h, hroute⟩

/-- A route is found if one matches; else the request fails with nothing being there. -/
theorem route_cases (b : Binder) (method : Method) (uri : Uri) :
    b.Matches method uri.path ∧ (∃ r c, (b.route method uri).value = .ok (r, c)) ∨
      ¬b.Matches method uri.path ∧
        ∃ e, (b.route method uri).value = .error e ∧ e.category = .notFound := by
  cases hstrip : b.strip? uri.path with
  | none =>
    refine .inr ⟨?_, ?_⟩
    · rintro ⟨rest, hbelow, -⟩
      exact strip?_eq_none_iff.1 hstrip rest hbelow
    · rw [route, hstrip]
      exact ⟨_, rfl, rfl⟩
  | some rest =>
    rw [matches_iff_of_strip? hstrip, route, hstrip]
    simp only [RouteTable.find]
    cases b.routes.find? method rest with
    | none => exact .inr ⟨Bool.false_ne_true, _, rfl, rfl⟩
    | some found => exact .inl ⟨rfl, _, _, rfl⟩

/-! ## Results -/

/-- A result is the one that the route and the body of a request decide on: nothing is there without
a route, the parameters are wrong if there is a route but the body cannot be read, and else the
request is bound. The query has no part in it. -/
structure Answers (l : Json.Limits) (b : Binder) (method : Method) (path : String) (body : Body)
    (x : Except RequestError Binding) : Prop where
  notFound : failure? x = some .notFound ↔ ¬b.Matches method path
  wrongParams : failure? x = some .wrongParams ↔ b.Matches method path ∧ body.Unreadable l
  bound : failure? x = none ↔ b.Matches method path ∧ ¬body.Unreadable l
  notInternal : failure? x ≠ some .internal

section

variable {l : Json.Limits} {b : Binder} {method : Method} {path : String} {body : Body}
  {x : Except RequestError Binding}

theorem Answers.of_not_matches (h : ¬b.Matches method path)
    (hx : failure? x = some .notFound) : Answers l b method path body x := by
  constructor <;> simp [h, hx]

theorem Answers.of_unreadable (h : b.Matches method path) (hbody : body.Unreadable l)
    (hx : failure? x = some .wrongParams) : Answers l b method path body x := by
  constructor <;> simp [h, hbody, hx]

theorem Answers.of_readable (h : b.Matches method path) (hbody : ¬body.Unreadable l)
    (hx : failure? x = none) : Answers l b method path body x := by
  constructor <;> simp [h, hbody, hx]

end

/-- The route and the body decide on the result. -/
theorem answers_of_bindBody (b : Binder) (method : Method) (uri : Uri) (body : Body) :
    Answers .reader b method uri.path body (b.bindBody method uri body).value := by
  rw [bindBody, Traced.value_bind]
  rcases b.route_cases method uri with ⟨hmatch, r, c, hroute⟩ | ⟨hmatch, e, hroute, hcategory⟩
  · have hread := body.exists_extend_eq_error_iff
      (uri.query.elim (captured c) (captured c).extendQuery)
    rw [hroute]
    simp only [gather_eq]
    split
    · next fault hfault => exact .of_unreadable hmatch (hread.1 ⟨fault, hfault⟩) rfl
    · next p hp =>
      refine .of_readable hmatch (fun hbody => ?_) rfl
      obtain ⟨fault, hfault⟩ := hread.2 hbody
      rw [hp] at hfault
      cases hfault
  · rw [hroute]
    exact .of_not_matches hmatch (congrArg some hcategory)

/-- Each way of binding has the result that the route and the body decide on, whatever the query is;
the header fields say how a body is read. The limit on numbers is around the greatest double: what
is clearly below it fits, and nothing that is clearly above. -/
theorem answers_of_bind (b : Binder) (method : Method) (uri : Uri) (bytes : List UInt8) :
    Answers .reader b method uri.path (.json bytes) (b.bind method uri bytes).value ∧
      (∀ headers, Answers .reader b method uri.path (.classify (Body.contentType? headers) bytes)
        (b.bindRequest ⟨method, uri, headers, bytes⟩).value) ∧
      ∀ x : Json.Literal, x.Proper → x.SmallExponent →
        (x.size ≤ 2 ^ (1022 : Int) → x.Fits) ∧ (x.Fits → x.size < 2 ^ (1027 : Int)) := by
  refine ⟨answers_of_bindBody b method uri _, fun _ => answers_of_bindBody b method uri _, ?_⟩
  intro x hx hsmall
  exact ⟨Json.Literal.fits_of_size_le hx hsmall, fun h => h.size_lt hx hsmall⟩

/-! ## The limits of reading -/

/-- The text of an object with one member. -/
def single (value : List Char) : List Char := ['{', '"', 'a', '"', ':'] ++ (value ++ ['}'])

theorem isObjectText_single {l : Json.Limits} {n : Nat} {value : List Char}
    (hvalue : Json.IsValue l n value) (hn : ∀ d ∈ l.nesting, n < d) :
    Json.IsObjectText l (single value) := by
  have hblank : Json.Blank [] := nofun
  have hmember : Json.IsMember l (Json.IsValue l n) (['"', 'a', '"', ':'] ++ value) :=
    ⟨['a'], [], [], _, .plain (by decide) (by decide) (by decide) .nil, hblank, hblank, hvalue, rfl⟩
  refine ⟨n, [], single value, [], hn, hblank, ⟨_, .inr (.last hblank hmember hblank), ?_⟩, hblank,
    by simp⟩
  simp [single]

/-- Arrays within each other. -/
def nested (n : Nat) : List Char := List.replicate n '[' ++ List.replicate n ']'

theorem isValue_nested (l : Json.Limits) (n : Nat) : Json.IsValue l (n + 1) (nested (n + 1)) := by
  have hblank : Json.Blank [] := nofun
  induction n with
  | zero => exact .inr (.inl ⟨[], .inl hblank, rfl⟩)
  | succ n ih =>
    refine .inr (.inl ⟨_, .inr (.last hblank ih hblank), ?_⟩)
    rw [nested, nested, List.replicate_succ, List.replicate_succ' (n := n + 1)]
    simp

/-- A leading surrogate without a trailing one. -/
def loneSurrogate : List Char := ['"', '\\', 'u', 'd', '8', '0', '0', '"']

/-- A number beyond the range of doubles. -/
def tooGreat : Json.Literal := ⟨false, ['1'], [], some ⟨'e', [], ['4', '0', '0']⟩⟩

theorem tooGreat_proper : tooGreat.Proper := by
  refine ⟨⟨nofun, List.all_eq_true.1 rfl⟩, by decide, nofun, ?_⟩
  rintro _ ⟨⟩
  exact ⟨.inl rfl, .inl rfl, nofun, List.all_eq_true.1 rfl⟩

/-- The result of a request with a body of one member. -/
def resultOf (value : List Char) : Except RequestError Binding :=
  (ofRequests.bind .post ⟨"/repo/1/requests", none⟩ (Utf8.encodeChars (single value))).value

/-- A result with a body that is refused, but is the text of an object under other limits, is not
the one that these decide on. -/
theorem not_answers_of_isObjectText {l : Json.Limits} {value : List Char}
    (h : Json.IsObjectText l (single value)) (hx : failure? (resultOf value) = some .wrongParams) :
    ¬Answers l ofRequests .post "/repo/1/requests" (.json (Utf8.encodeChars (single value)))
      (resultOf value) :=
  fun hanswers => (hanswers.wrongParams.1 hx).2.2 ⟨_, rfl, h⟩

/-- With the whole grammar, a body that nests containers too deeply has the wrong result. -/
theorem not_answers_free :
    ¬Answers .free ofRequests .post "/repo/1/requests"
      (.json (Utf8.encodeChars (single (nested 127)))) (resultOf (nested 127)) :=
  not_answers_of_isObjectText (isObjectText_single (isValue_nested .free 126) nofun)
    (by decide +kernel)

/-- None of the limits can be left out: each refuses a body that the others let pass. -/
theorem not_answers_without :
    ¬Answers { Json.Limits.reader with nesting := none } ofRequests .post "/repo/1/requests"
        (.json (Utf8.encodeChars (single (nested 127)))) (resultOf (nested 127)) ∧
      ¬Answers { Json.Limits.reader with paired := false } ofRequests .post "/repo/1/requests"
        (.json (Utf8.encodeChars (single loneSurrogate))) (resultOf loneSurrogate) ∧
      ¬Answers { Json.Limits.reader with ranged := false } ofRequests .post "/repo/1/requests"
        (.json (Utf8.encodeChars (single tooGreat.text))) (resultOf tooGreat.text) := by
  have hhex : Json.IsHex4 'd' '8' '0' '0' 0xD800 :=
    ⟨13, 8, 0, 0, by decide, by decide, by decide, by decide, rfl⟩
  have hsurrogate : Json.IsValue { Json.Limits.reader with paired := false } 0 loneSurrogate :=
    .string (.escaped (.single hhex fun h => absurd h (by decide)) .nil)
  have hnumber : Json.IsValue { Json.Limits.reader with ranged := false } 0 tooGreat.text :=
    .number tooGreat_proper fun h => absurd h (by decide)
  have hzero : ∀ d ∈ some 127, 0 < d := by
    rintro _ ⟨⟩
    decide
  refine ⟨not_answers_of_isObjectText (isObjectText_single (isValue_nested _ 126) nofun) ?_,
    not_answers_of_isObjectText (isObjectText_single hsurrogate hzero) ?_,
    not_answers_of_isObjectText (isObjectText_single hnumber hzero) ?_⟩ <;> decide +kernel

-- the same number twice, which has a finite double
example : failure? (resultOf "1.7976931348623157e308".toList) = none ∧
    failure? (resultOf "1.797693134862315700e308".toList) = some .wrongParams := by
  decide +kernel

end Binder

end RequestBinding
