import RequestBinding.Proofs.Binder.Mounting
import RequestBinding.Proofs.Number.Integers
import RequestBinding.Proofs.Text.Percent
import RequestBinding.Proofs.V3.Unambiguous
import RequestBinding.V3.UserLookup

/-!
# What users are looked up by

A user is looked up by the integer that the number of a request is or denotes, and by the login only
if the request has no number at all. A path with digits behind `/user/` has a number, so the user is
looked up by its value, or not at all if this has more than 64 bits with its sign.

## Main definitions

* `UserLookup.Exact` - what a user is looked up by, by the values of the two fields
* `V3.FindsUser` - the action that finds a user by a number in the path

## Main statements

* `UserLookup.exact_ofId`, `UserLookup.exact_ofLogin` - the condition with and without a number
* `V3.exists_find?_user` - the route for digits behind `/user/`
* `UserLookup.exact_condition` - conditions of fresh resolvers and of bindings
-/

namespace RequestBinding

/-! ## Values of the fields -/

namespace UserLookup

/-- A user is looked up by an integer of 64 bits with its sign, which the number is or denotes in
decimal; by a login if there is no number but this login. Any other values are wrong parameters. -/
structure Exact (number name : Option Json) (result : Except ParamsError UserCondition) : Prop where
  id_iff : ∀ n, result = .ok (.id n) ↔ (-2 ^ 63 ≤ n ∧ n ≤ 2 ^ 63 - 1) ∧
    (number = some (.int n) ∨ ∃ s, number = some (.str s) ∧ Decimal.Denotes s.toList n)
  login_iff : ∀ s, result = .ok (.login s) ↔ number = none ∧ name = some (.str s)
  wrong : ∀ e, result = .error e → ∃ message, e = .wrong message

theorem ofId_str (s : String) : ofId (.str s) =
    (parseInt64? s).elim (.error (.wrong ("invalid user.id: " ++ s))) fun n => .ok (.id n) := by
  rw [ofId]
  cases parseInt64? s <;> rfl

theorem ofId_of_not_str {v : Json} (h : ∀ s, v ≠ .str s) : ofId v =
    v.int64?.elim (.error (.wrong ("cannot identify a user by " ++ v.render)))
      fun n => .ok (.id n) := by
  cases v with
  | str s => exact absurd rfl (h s)
  | int m =>
    show (UserReference.value (.int m)).condition = _
    rw [UserReference.condition]
    · cases (Json.int m).int64? <;> rfl
    · exact h
  | _ => rfl

variable (name : Option Json)

/-- The condition for an integer that may be missing. -/
theorem exact_of_int? {v : Json} {found : Option Int} (message : String)
    (h : ∀ n, found = some n ↔ (-2 ^ 63 ≤ n ∧ n ≤ 2 ^ 63 - 1) ∧
      (v = .int n ∨ ∃ s, v = .str s ∧ Decimal.Denotes s.toList n)) :
    Exact (some v) name (found.elim (.error (.wrong message)) fun n => .ok (.id n)) := by
  simp only [← Option.some.injEq v] at h
  cases found with
  | some n => exact ⟨fun m => by rw [← h]; simp, by simp, by simp⟩
  | none => exact ⟨fun m => by rw [← h]; simp, by simp, by simp⟩

/-- The condition for a number: the integer of 64 bits that it is or denotes. -/
theorem exact_ofId (v : Json) : Exact (some v) name (ofId v) := by
  by_cases hstr : ∃ s, v = .str s
  · obtain ⟨s, rfl⟩ := hstr
    rw [ofId_str]
    refine exact_of_int? name _ fun n => ?_
    rw [Decimal.parseInt64?_eq_some_iff]
    simp [and_comm]
  · rw [ofId_of_not_str fun s h => hstr ⟨s, h⟩]
    refine exact_of_int? name _ fun n => ?_
    have hnone : ¬∃ s, v = .str s ∧ Decimal.Denotes s.toList n := fun ⟨s, h, _⟩ => hstr ⟨s, h⟩
    rw [Decimal.int64?_eq_some_iff, or_iff_left hnone, and_comm]

/-- The condition without a number: the login, which has to be a text. -/
theorem exact_ofLogin : Exact none name (ofLogin name) := by
  rcases name with _ | v
  · exact ⟨by simp [ofLogin], by simp [ofLogin], by simp [ofLogin]⟩
  · cases v <;> exact ⟨by simp [ofLogin], by simp [ofLogin], by simp [ofLogin]⟩

/-- A fresh resolver reads the login only if there is no number. -/
theorem value_condition_new (p : Params) (mainType : String) (jobs : Option JobRegistry) :
    (condition (.new p mainType jobs)).value.1 =
      (Resolver.lookup p mainType id).elim (ofLogin (Resolver.lookup p mainType login)) ofId := by
  rw [condition, Traced.value_bind]
  have hnumber : ((Resolver.new p mainType jobs).resolve id).value =
    (Resolver.lookup p mainType id, (Resolver.new p mainType jobs).set id
      (Resolver.lookup p mainType id)) := rfl
  rw [hnumber]
  cases Resolver.lookup p mainType id with
  | some v => rfl
  | none => rfl

theorem exact_new (p : Params) (mainType : String) (jobs : Option JobRegistry) :
    Exact ((Resolver.new p mainType jobs).resolve id).value.1
      ((Resolver.new p mainType jobs).resolve login).value.1
      (condition (.new p mainType jobs)).value.1 := by
  rw [value_condition_new, Resolver.value_resolve_new, Resolver.value_resolve_new]
  cases Resolver.lookup p mainType id with
  | some v => exact exact_ofId _ v
  | none => exact exact_ofLogin _

end UserLookup

/-! ## Digits in the path -/

namespace V3

/-- What is declared is the action that finds a user by a number in the path. -/
structure FindsUser (s : Scope) (a : Action) : Prop where
  method : a.method = .get
  handler : Route.handlerOf s.resource a.name = "user#find"
  templates : s.templates ++ [a.subpath] = ["/user", "/\x7buser.id\x7d"]
  builtIn : ∀ e ∈ s.constraints.entries, e.2 = .digits ∨ e.2 = .slug
  digits : s.constraints.nearest? "user" "id" = some .digits

instance (s : Scope) (a : Action) : Decidable (FindsUser s a) :=
  decidable_of_iff (_ ∧ _ ∧ _ ∧ _ ∧ _)
    ⟨fun ⟨h₁, h₂, h₃, h₄, h₅⟩ => ⟨h₁, h₂, h₃, h₄, h₅⟩,
      fun ⟨h₁, h₂, h₃, h₄, h₅⟩ => ⟨h₁, h₂, h₃, h₄, h₅⟩⟩

theorem exists_findsUser : ∃ p ∈ RouteTable.actions resources, FindsUser p.1 p.2 := by
  decide +kernel

/-- All that is not read is below a repository. -/
theorem get_or_repository : ∀ p ∈ RouteTable.actions resources, p.2.method = .get ∨
    "/repo/".toList <+: (String.join (p.1.templates ++ [p.2.subpath])).toList := by
  decide +kernel

/-- The templates of the action that finds a user. -/
def userTemplates : List Template :=
  [⟨"/user", [.literal "/user".toList]⟩,
    ⟨"/\x7buser.id\x7d", [.literal "/".toList, .placeholder "user".toList "id".toList]⟩]

theorem parse_userTemplates :
    ["/user", "/\x7buser.id\x7d"].mapM Declaration.parseTemplate = .ok userTemplates := by
  rfl

/-- A path is cut along these templates if it has digits behind `/user/`. -/
theorem cut_userTemplates_iff {cs : Constraints} (hcs : cs.nearest? "user" "id" = some .digits)
    {text : List Char} {pairs : List (String × List Char)} :
    Segment.Cut cs (userTemplates.flatMap (·.segments)) text pairs ↔
      ∃ ds, Decimal.IsDigits ds ∧ text = "/user/".toList ++ ds ∧ pairs = [("user.id", ds)] := by
  constructor
  · intro h
    rcases h with _ | ⟨hfirst, h⟩
    cases hfirst
    rcases h with _ | ⟨hslash, h⟩
    cases hslash
    rcases h with _ | ⟨hplaceholder, hnil⟩
    cases hnil
    cases hplaceholder with
    | placeholder hfits =>
      exact ⟨_, (Constraints.fits_digits_iff hcs _).1 hfits, by simp, rfl⟩
  · rintro ⟨ds, hds, rfl, rfl⟩
    have hfits := (Constraints.fits_digits_iff hcs ds).2 hds
    have hplaceholder : Segment.CutOne cs (.placeholder "user".toList "id".toList) ds
        [("user.id", ds)] := .placeholder hfits
    have hcut := Segment.Cut.cons (.literal "/user".toList)
      (.cons (.literal "/".toList) (.cons hplaceholder .nil))
    simpa [userTemplates] using hcut

/-- The action finds a user for digits behind `/user/`, and captures these. -/
theorem FindsUser.exists_captures {s : Scope} {a : Action} (h : FindsUser s a) {r : Route}
    (hroute : Declaration.route s a = .ok r) {digits : String}
    (hdigits : Decimal.IsDigits digits.toList) :
    ∃ c, r.captures ("/user/" ++ digits) = some c ∧ c.pairs = [("user.id", digits)] := by
  have hts : (s.templates ++ [a.subpath]).mapM Declaration.parseTemplate = .ok userTemplates := by
    rw [h.templates, parse_userTemplates]
  have hpath : ("/user/" ++ digits).toList = "/user/".toList ++ digits.toList := by simp
  have haccepts := (Declaration.isSome_captures_iff h.builtIn hroute hts ("/user/" ++ digits)).2
    ⟨_, (cut_userTemplates_iff h.digits).2 ⟨_, hdigits, hpath, rfl⟩⟩
  obtain ⟨c, hc⟩ := Option.isSome_iff_exists.1 haccepts
  obtain ⟨ts, pairs, hts', hcut, hpairs⟩ :=
    Declaration.exists_cut_of_captures h.builtIn hroute hc
  obtain rfl : ts = userTemplates := Except.ok.inj (hts'.symm.trans hts)
  obtain ⟨ds, _, hds, rfl⟩ := (cut_userTemplates_iff h.digits).1 hcut
  obtain rfl : digits.toList = ds := List.append_cancel_left (hpath.symm.trans hds)
  -- digits have no percent sign
  have hplain : Percent.decodeText digits = digits := Percent.decodeText_of_not_mem fun hmem =>
    absurd (hdigits.2 '%' hmem) (by decide)
  refine ⟨c, hc, ?_⟩
  rw [hpairs, List.map_singleton, String.ofList_toList, hplain]

/-- What is found for digits behind `/user/` is the route to the user. -/
theorem exists_find?_user {t : RouteTable} (ht : (RouteTable.compile resources).value = .ok t)
    {digits : String} (hdigits : Decimal.IsDigits digits.toList) :
    ∃ r c, t.find? .get ("/user/" ++ digits) = some (r, c) ∧ r.handler = "user#find" ∧
      c.pairs = [("user.id", digits)] := by
  obtain ⟨⟨s, a⟩, hmem, hfinds⟩ := exists_findsUser
  obtain ⟨r, hr, hroute⟩ := exists_of_forall₂ (RouteTable.forall₂_of_compile ht).flip hmem
  obtain ⟨c, hc, hpairs⟩ := hfinds.exists_captures hroute hdigits
  have hmethod : r.method = .get := (Declaration.method_of_route hroute).trans hfinds.method
  have haccepts : r.accepts ("/user/" ++ digits) = true := by
    rw [← r.isSome_captures, hc, Option.isSome_some]
  obtain ⟨⟨r', c'⟩, hfind⟩ := Option.isSome_iff_exists.1
    (RouteTable.isSome_find?_iff.2 ⟨r, hr, hmethod, haccepts⟩)
  -- no other route is in question
  obtain ⟨hr', hmethod', hc'⟩ := RouteTable.find?_spec hfind
  have haccepts' : r'.accepts ("/user/" ++ digits) = true := by
    rw [← r'.isSome_captures, hc', Option.isSome_some]
  obtain rfl : r' = r := (exclusive_of_compile ht).eq_of_accepts hr' hr
    (hmethod'.trans hmethod.symm) haccepts' haccepts
  obtain rfl : c' = c := Option.some.inj (hc'.symm.trans hc)
  obtain ⟨_, _, _, _, heq⟩ := Declaration.exists_eq_of_route hroute
  refine ⟨r', c', hfind, ?_, hpairs⟩
  rw [Route.handler, heq]
  exact hfinds.handler

/-- Behind `/user/`, requests can only read. -/
theorem method_of_user {t : RouteTable} (ht : (RouteTable.compile resources).value = .ok t)
    {method : Method} {rest : String} {r : Route} {c : Captures}
    (hfind : t.find? method ("/user/" ++ rest) = some (r, c)) : method = .get := by
  obtain ⟨hr, hmethod, hc⟩ := RouteTable.find?_spec hfind
  obtain ⟨p, hp, hroute⟩ := exists_of_forall₂ (RouteTable.forall₂_of_compile ht) hr
  rcases get_or_repository p hp with hget | hbelow
  · rw [← hmethod, Declaration.method_of_route hroute, hget]
  · rw [← Declaration.template_of_route hroute] at hbelow
    obtain ⟨_, _, _, _, hnames⟩ := names_of_captures ht hr hbelow hc
    have hpath := hnames.path_eq
    simp at hpath

end V3

/-! ## Conditions -/

namespace UserLookup

/-- Digits are the number of the user if their value is not too large, and nothing else. -/
theorem value_condition_of_digits {p : Params} {mainType : String} {digits : String}
    (hdigits : Decimal.IsDigits digits.toList)
    (hlookup : Resolver.lookup p mainType id = some (.str digits)) (jobs : Option JobRegistry) :
    (condition (.new p mainType jobs)).value.1 =
      if Decimal.value digits.toList ≤ 2 ^ 63 - 1 then .ok (.id (Decimal.value digits.toList))
      else .error (.wrong ("invalid user.id: " ++ digits)) := by
  rw [value_condition_new, hlookup, Option.elim_some, ofId_str,
    Decimal.parseInt64?_of_isDigits hdigits]
  split <;> rfl

/-- A fresh resolver tells exactly what the user is looked up by: an integer of 64 bits that the
number is or denotes; the login only if there is no number; or else the parameters are wrong. So for
digits in the path, of which there may be any number, the user is looked up by their value if it has
64 bits with its sign, and the parameters are wrong otherwise, whatever the query and the body say.
Such requests have a route, and no body or query is needed for them. -/
theorem exact_condition :
    (∀ (p : Params) (mainType : String) (jobs : Option JobRegistry),
      Exact ((Resolver.new p mainType jobs).resolve id).value.1
        ((Resolver.new p mainType jobs).resolve login).value.1
        (condition (.new p mainType jobs)).value.1) ∧
    ∀ (s : Settings) (b : Binder), (V3.binder s).value = .ok b → ∀ digits : String,
      Decimal.IsDigits digits.toList →
      (∀ query, ∃ x,
        (b.bind .get ⟨b.mountPath ++ ("/user/" ++ digits), query⟩ []).value = .ok x) ∧
      ∀ method query body x,
        b.Binds method ⟨b.mountPath ++ ("/user/" ++ digits), query⟩ body x →
        x.route.handler = "user#find" ∧ (condition x.resolver).value.1 =
          if Decimal.value digits.toList ≤ 2 ^ 63 - 1 then .ok (.id (Decimal.value digits.toList))
          else .error (.wrong ("invalid user.id: " ++ digits)) := by
  refine ⟨exact_new, fun s b hb digits hdigits => ?_⟩
  have ht := V3.compile_of_binder hb
  obtain ⟨r, c, hfind, hhandler, hpairs⟩ := V3.exists_find?_user ht hdigits
  have hstrip : b.strip? (b.mountPath ++ ("/user/" ++ digits)) = some ("/user/" ++ digits) :=
    b.strip?_append (by simp)
  refine ⟨fun query => ?_, fun method query body x hx => ?_⟩
  · have hroute : (b.route .get ⟨b.mountPath ++ ("/user/" ++ digits), query⟩).value = .ok (r, c) :=
      Binder.value_route_of_find? ⟨_, query⟩ hstrip hfind
    exact ⟨_, Binder.value_bindBody_of_route hroute (Binder.gather_eq c query (.json []))⟩
  · obtain ⟨path, c', p, hpath, hfind', hgather, hresolver⟩ :=
      Binder.exists_of_bindBody hx.value_eq
    obtain rfl : path = "/user/" ++ digits := Option.some.inj (hpath.symm.trans hstrip)
    obtain rfl : method = .get := V3.method_of_user ht hfind'
    obtain ⟨rfl, rfl⟩ := Prod.mk.inj (Option.some.inj (hfind'.symm.trans hfind))
    have hcaptured : (c'.pairs.filter (·.1 == id.qualified)).map (·.2) = [digits] := by
      rw [hpairs]
      simp [id, Field.qualified]
    have hlookup := Binder.lookup_of_captured hgather hcaptured (b.typeOf x.route)
    rw [hresolver]
    exact ⟨hhandler, value_condition_of_digits hdigits hlookup b.jobs⟩

/-- The greatest number behind zeros is that of a user; the next number is none. -/
theorem exact_condition_limits : ∃ b x y, (V3.binder .default).value = .ok b ∧
    b.Binds .get ⟨"/v3/user/0009223372036854775807", none⟩ (.json []) x ∧
    (condition x.resolver).value.1 = .ok (.id 9223372036854775807) ∧
    b.Binds .get ⟨"/v3/user/9223372036854775808", none⟩ (.json []) y ∧
    (condition y.resolver).value.1 =
      .error (.wrong "invalid user.id: 9223372036854775808") := by
  have hrun : (V3.binder .default).value.toOption.any (fun b => decide (b.mountPath = "/v3")) =
      true := by
    decide +kernel
  obtain ⟨b, hb, hmount⟩ := exists_of_any_toOption hrun
  have hpath : ∀ digits, b.mountPath ++ ("/user/" ++ digits) = "/v3" ++ ("/user/" ++ digits) :=
    fun digits => by rw [of_decide_eq_true hmount]
  have hgreatest : Decimal.value "0009223372036854775807".toList = 9223372036854775807 := by
    decide +kernel
  have hnext : Decimal.value "9223372036854775808".toList = 9223372036854775808 := by
    decide +kernel
  have hdigits : Decimal.IsDigits "0009223372036854775807".toList :=
    Decimal.isDigits_iff.1 (by decide)
  have hdigits' : Decimal.IsDigits "9223372036854775808".toList :=
    Decimal.isDigits_iff.1 (by decide)
  have hall := exact_condition.2 .default b hb
  simp only [hpath] at hall
  obtain ⟨hbinds, hcondition⟩ := hall _ hdigits
  obtain ⟨hbinds', hcondition'⟩ := hall _ hdigits'
  obtain ⟨x, hx⟩ := hbinds none
  obtain ⟨y, hy⟩ := hbinds' none
  have hfound := (hcondition .get none _ x (.json hx)).2
  have hwrong := (hcondition' .get none _ y (.json hy)).2
  rw [hgreatest] at hfound
  rw [hnext] at hwrong
  exact ⟨b, x, y, hb, .json hx, hfound, .json hy, hwrong⟩

end UserLookup

end RequestBinding
