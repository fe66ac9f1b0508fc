import RequestBinding.Proofs.Params.Nesting
import RequestBinding.Proofs.Text.Form
import RequestBinding.Proofs.V3.Payload

/-!
# Which jobs can be read back

The contents of a job are one container around the values of the message, the branch and the
configuration. They can be read back unless one of these values is nested as deeply as the reader
allows. A JSON body has no such value, nor has a query or a form with shorter keys; but a key with
as many brackets makes one.

## Main definitions

* `BuildRequest.Readable` - contents of jobs that can be read back
* `BuildRequest.IsFlat` - objects of texts and integers
* `V3.bracketed` - requests with many brackets in a key

## Main statements

* `BuildRequest.readable_filled_iff` - the contents that can be read back
* `V3.readable_of_create` - the jobs of requests to build
-/

namespace RequestBinding

open Json (maxDepth Received)

namespace BuildRequest

/-! ## Contents -/

/-- The text of an object can be read back as an object. -/
def Readable (text : String) : Prop :=
  ∃ members, Json.readBytes (Utf8.encode text) = some (.obj members)

/-- Objects of texts and integers of 64 bits. -/
def IsFlat (v : Json) : Prop :=
  ∃ members, v = .obj members ∧ ∀ m ∈ members,
    (∃ s, m.2 = .str s) ∨ ∃ n, Json.IsInt64 n ∧ m.2 = .int n

theorem IsFlat.received {v : Json} (h : IsFlat v) : Received 1 v := by
  obtain ⟨members, rfl, hmembers⟩ := h
  refine .obj fun m hm => ?_
  rcases hmembers m hm with ⟨s, hs⟩ | ⟨n, hn, hm⟩
  · rw [hs]
    exact .str 0 s
  · rw [hm]
    exact .int 0 hn

/-- What holds of the default holds of a value with a default, if it holds of the value. -/
theorem getD_iff {P : Json → Prop} {d : Json} (hd : P d) (o : Option Json) :
    P (o.getD d) ↔ ∀ v ∈ o, P v := by
  cases o with
  | none => simp [hd]
  | some v => simp

theorem received_empty : Received 1 (.obj []) := .obj nofun

section Contents

variable {m b c : Option Json} {repository user : Json} (hrepository : IsFlat repository)
  (huser : IsFlat user)
include hrepository huser

/-- The numbers in the contents of a job can be read back. -/
theorem numbersAre_filled {n : Nat} (hm : ∀ v ∈ m, Received n v) (hb : ∀ v ∈ b, Received n v)
    (hc : ∀ v ∈ c, Received n v) :
    (filled m b c repository user).NumbersAre Json.IsInt64 Json.Legible := by
  have hgetD : ∀ {d : Json} (_ : Received 1 d) {o : Option Json}, (∀ v ∈ o, Received n v) →
      (o.getD d).NumbersAre Json.IsInt64 Json.Legible :=
    fun hd _ ho => (getD_iff hd.numbersAre _).2 fun v hv => (ho v hv).numbersAre
  simp only [filled, Json.numbersAre_obj_iff, List.forall_mem_cons, List.not_mem_nil,
    false_imp_iff, implies_true, and_true]
  exact ⟨hgetD (.str 1 _) hb, hgetD received_empty hc, hgetD (.null 1) hm,
    hrepository.received.numbersAre, huser.received.numbersAre⟩

/-- The contents of a job are one container around its message, branch and configuration. -/
theorem depth_filled_le_iff : (filled m b c repository user).depth ≤ maxDepth ↔
    (∀ v ∈ m, v.depth < maxDepth) ∧ (∀ v ∈ b, v.depth < maxDepth) ∧
      ∀ v ∈ c, v.depth < maxDepth := by
  have hlt : ∀ {d : Json}, Received 1 d → d.depth < maxDepth :=
    fun hd => Nat.lt_of_le_of_lt hd.depth_le (by decide)
  have hgetD : ∀ {d : Json} (_ : Received 1 d) (o : Option Json),
      (o.getD d).depth < maxDepth ↔ ∀ v ∈ o, v.depth < maxDepth :=
    fun hd => getD_iff (P := fun v => v.depth < maxDepth) (hlt hd)
  have hpred : ∀ k, k ≤ maxDepth - 1 ↔ k < maxDepth :=
    fun k => (Nat.lt_iff_le_pred (n := maxDepth) (by decide)).symm
  rw [filled, Json.depth, Nat.succ_le_iff, Nat.lt_iff_le_pred (by decide),
    Json.depthMembers_le_iff]
  simp only [List.forall_mem_cons, List.not_mem_nil, false_imp_iff, implies_true, and_true,
    hpred, hgetD (.str 1 _), hgetD (.null 1), hgetD received_empty,
    hlt hrepository.received, hlt huser.received]
  tauto

/-- The contents of a job can be read back unless the message, the branch or the configuration is
nested as deeply as the reader allows. -/
theorem readable_filled_iff {n : Nat} (hm : ∀ v ∈ m, Received n v) (hb : ∀ v ∈ b, Received n v)
    (hc : ∀ v ∈ c, Received n v) : Readable (filled m b c repository user).render ↔
      (∀ v ∈ m, v.depth < maxDepth) ∧ (∀ v ∈ b, v.depth < maxDepth) ∧
        ∀ v ∈ c, v.depth < maxDepth := by
  rw [← depth_filled_le_iff hrepository huser, Readable,
    Json.readBytes_render (numbersAre_filled hrepository huser hm hb hc)]
  constructor
  · rintro ⟨_, hread⟩
    by_contra hdepth
    rw [if_neg hdepth] at hread
    cases hread
  · intro hdepth
    rw [if_pos hdepth, filled, Json.reread, Json.canonical]
    exact ⟨_, rfl⟩

end Contents

end BuildRequest

namespace V3

open BuildRequest Resolver

/-! ## Parameters -/

variable {b : Binder} {method : Method} {uri : Uri} {body : Body} {x : Binding}

/-- The parameters of a request are received, as deeply as its keys are nested or the reader
allows. -/
theorem received_params (hx : b.Binds method uri body x) {n : Nat} (hn : maxDepth ≤ n + 1)
    (hpairs : ∀ pair ∈ Binder.sentPairs uri.query body, (Brackets.split pair.1).2.length ≤ n) :
    x.resolver.params.Received n := by
  obtain ⟨_, _, p, _, _, hgather, hresolver⟩ := Binder.exists_of_bindBody hx.value_eq
  rw [hresolver]
  exact Binder.received_of_gather hn hpairs hgather

/-- However deeply, the parameters of a request are received. -/
theorem exists_received_params (hx : b.Binds method uri body x) :
    ∃ n, x.resolver.params.Received n := by
  let lengths := (Binder.sentPairs uri.query body).map fun pair => (Brackets.split pair.1).2.length
  refine ⟨maxDepth + lengths.sum, received_params hx (by omega) fun pair hpair => ?_⟩
  have hle := List.le_sum_of_mem (List.mem_map_of_mem (f := fun pair : String × String =>
    (Brackets.split pair.1).2.length) hpair)
  exact hle.trans (Nat.le_add_left _ _)

/-! ## Keys with many brackets -/

/-- A text below some objects with one member each. -/
def nested : Nat → Json
  | 0 => .str "1"
  | n + 1 => .obj [("a", nested n)]

theorem depth_nested (n : Nat) : (nested n).depth = n := by
  induction n with
  | zero => rfl
  | succ n ih => rw [nested, Json.depth, Json.depthMembers, Json.depthMembers, ih, Nat.max_zero]

/-- The pair that puts a text below some objects of the configuration. -/
def bracketedPair (n : Nat) : String × String :=
  (Brackets.spell "config" (List.replicate n "a"), "1")

theorem split_bracketedPair (n : Nat) :
    Brackets.split (bracketedPair n).1 = ("config", List.replicate n "a") :=
  Brackets.split_spell (by decide) (by decide) fun c hc => by
    rw [List.eq_of_mem_replicate hc]
    decide

theorem insert_replicate (key : String) (n : Nat) :
    Brackets.insert [] key (List.replicate n "a") "1" = [(key, nested n)] := by
  induction n generalizing key with
  | zero => rfl
  | succ n ih =>
    rw [List.replicate_succ, Brackets.insert, if_neg (by decide), Members.get?]
    simp only [ih, Members.put, nested]

theorem members_bracketedPair (n : Nat) :
    Brackets.members [bracketedPair n] = [("config", nested n)] := by
  rw [Brackets.members, List.foldl_cons, List.foldl_nil, Brackets.insertPair,
    split_bracketedPair]
  exact insert_replicate "config" n

/-- A request to build with this pair in its query. -/
def bracketed (n : Nat) : Request :=
  ⟨.post, ⟨"/v3/repo/1/requests", some (Form.render [bracketedPair n])⟩, [], []⟩

theorem pairs_bracketed (n : Nat) :
    Form.pairs (Utf8.encode (Form.render [bracketedPair n])) = [bracketedPair n] :=
  Form.pairs_of_writes (Form.writes_render _)

theorem sentPairs_bracketed (n : Nat) :
    Binder.sentPairs (bracketed n).uri.query (.json []) = [bracketedPair n] := by
  have hbody : Body.pairs (.json []) = [] := rfl
  rw [Binder.sentPairs, hbody, List.append_nil, bracketed, Option.elim_some, pairs_bracketed]

/-- The configuration of such a request is what its key describes, if the path has captured no more
than the repository. -/
theorem lookup_bracketed {c : Captures} (hkeys : c.keys = ["repository.id"]) (n : Nat) :
    lookup ((Binder.captured c).extendQuery (Form.render [bracketedPair n])) "request" config =
      some (nested n) := by
  have hget : ∀ k ∉ ["repository.id"],
      ((Binder.captured c).extendQuery (Form.render [bracketedPair n])).get? k =
        Members.get? k [("config", nested n)] := by
    intro k hk
    rw [Params.extendQuery, Params.extendPairs, pairs_bracketed, members_bracketedPair,
      Params.get?_mergeMissing, Binder.get?_captured_of_not_mem (hkeys ▸ hk), Option.none_or]
  have hbare : Decides ((Binder.captured c).extendQuery (Form.render [bracketedPair n])) "request"
      config (some (nested n)) := by
    have hconfig := hget config.name (by decide)
    rw [show Members.get? config.name [("config", nested n)] = some (nested n) from rfl] at hconfig
    rw [← hconfig]
    refine .bare (hget _ (by decide)) (fun members h => ?_) (.main fun type h => ?_)
    · cases (hget _ (by decide)).symm.trans h
    · cases (hget _ (by decide)).symm.trans h
  exact lookup_eq_iff.2 (.value hbare (by cases n <;> simp [nested]))

/-- Such requests are bound, and their configuration is nested as deeply as their key. -/
theorem exists_binds_bracketed : ∃ b, (binder .default).value = .ok b ∧ ∀ n, ∃ x,
    (b.bindRequest (bracketed n)).value = .ok x ∧ x.route.handler = "requests#create" ∧
      lookup x.resolver.params "request" config = some (nested n) := by
  have hrun : (binder .default).value.toOption.any (fun b =>
      (b.route .post ⟨"/v3/repo/1/requests", none⟩).value.toOption.any fun found =>
        decide (found.1.handler = "requests#create" ∧ found.2.keys = ["repository.id"])) =
      true := by
    decide +kernel
  obtain ⟨b, hb, hrun⟩ := exists_of_any_toOption hrun
  obtain ⟨⟨r, c⟩, hroute, hrun⟩ := exists_of_any_toOption hrun
  obtain ⟨hr, hkeys⟩ := of_decide_eq_true hrun
  refine ⟨b, hb, fun n => ?_⟩
  have hroute' : (b.route .post (bracketed n).uri).value = .ok (r, c) := by
    rw [← hroute]
    exact congrArg Traced.value (b.route_congr .post rfl)
  have hgather : Binder.gather c (bracketed n).uri.query (.json []) =
      .ok ((Binder.captured c).extendQuery (Form.render [bracketedPair n])) := rfl
  have hlookup := lookup_bracketed hkeys n
  generalize (Binder.captured c).extendQuery (Form.render [bracketedPair n]) = p at hgather hlookup
  exact ⟨_, Binder.value_bindBody_of_route hroute' hgather, hr, hlookup⟩

/-- An object with a number. -/
def numbered (n : Int) : Json := .obj [("id", .int n)]

theorem isFlat_numbered {n : Int} (hn : Json.IsInt64 n) : IsFlat (numbered n) :=
  ⟨_, rfl, List.forall_mem_singleton.2 (.inr ⟨n, hn, rfl⟩)⟩

/-- Such requests are handed over, however many brackets there are. -/
theorem exists_create_bracketed (repository user : Json) (stamp : Stamp) :
    ∃ b k, (binder .default).value = .ok b ∧
      Settings.default.jobs.get? JobKinds.buildRequest = some k ∧ ∀ n, ∃ x r',
        (b.bindRequest (bracketed n)).value = .ok x ∧ x.route.handler = "requests#create" ∧
        lookup x.resolver.params "request" config = some (nested n) ∧
        (create (x.resolver.run []) repository user stamp .empty).value = (.ok stamp.id, r',
          ⟨[jobOf k (lookup x.resolver.params "request" message)
            (lookup x.resolver.params "request" branch) (some (nested n)) repository user stamp],
            none⟩) := by
  obtain ⟨b, hb, hall⟩ := exists_binds_bracketed
  obtain ⟨_, k, _, hk, _⟩ := exists_kind_of_binder hb
  refine ⟨b, k, hb, hk, fun n => ?_⟩
  obtain ⟨x, hx, hr, hconfig⟩ := hall n
  have hbuilds := builds_of_binds hb (.request hx) hr hk
  rw [hconfig] at hbuilds
  obtain ⟨r', hcreate⟩ := hbuilds.accepted [] nofun repository user stamp .empty rfl
  exact ⟨x, r', hx, hr, hconfig, hcreate⟩

/-! ## Reading jobs back -/

/-- The job that is handed over for a request to build can be read back unless its message, its
branch or its configuration is nested as deeply as the reader allows, which no JSON body and no
shorter key can do. -/
theorem readable_of_create {s : Settings} (hb : (binder s).value = .ok b)
    (hx : b.Binds method uri body x) (hr : x.route.handler = "requests#create") {calls : List Call}
    (hcalls : Silent calls) {repository user : Json} (hrepository : IsFlat repository)
    (huser : IsFlat user) {stamp : Stamp} {o o' : Outbox} {id : JobId} {r' : Resolver}
    (hcreate : (create (x.resolver.run calls) repository user stamp o).value = (.ok id, r', o')) :
    ∃ k text, s.jobs.get? JobKinds.buildRequest = some k ∧
      o'.jobs = o.jobs ++ [.ofKind k [.obj [("credentials", .obj []), ("payload", .str text),
        ("type", .str "api")]] stamp] ∧
      (Readable text ↔ ∀ f ∈ described, ∀ v ∈ lookup x.resolver.params "request" f,
        v.depth < maxDepth) ∧
      ((∀ pair ∈ Binder.sentPairs uri.query body, (Brackets.split pair.1).2.length < maxDepth) →
        Readable text) := by
  obtain ⟨_, k, _, hk, _⟩ := exists_kind_of_binder hb
  have hbuilds := builds_of_binds hb hx hr hk
  have hreadable : ∀ {n : Nat}, x.resolver.params.Received n →
      (Readable (filled (lookup x.resolver.params "request" message)
        (lookup x.resolver.params "request" branch) (lookup x.resolver.params "request" config)
        repository user).render ↔ ∀ f ∈ described, ∀ v ∈ lookup x.resolver.params "request" f,
          v.depth < maxDepth) := by
    intro n hreceived
    rw [readable_filled_iff hrepository huser (fun _ => hreceived.lookup)
      (fun _ => hreceived.lookup) fun _ => hreceived.lookup]
    simp [described]
  obtain ⟨n, hreceived⟩ := exists_received_params hx
  refine ⟨k, _, hk, ?_, hreadable hreceived, fun hpairs => ?_⟩
  · cases ho : o.refusal with
    | none =>
      obtain ⟨r'', haccepted⟩ := hbuilds.accepted calls hcalls repository user stamp o ho
      cases hcreate.symm.trans haccepted
      rfl
    | some reason =>
      obtain ⟨r'', hrefused⟩ := hbuilds.refused calls hcalls repository user stamp o reason ho
      cases hcreate.symm.trans hrefused
  · have hshort := received_params hx (n := maxDepth - 1) (by decide)
      fun pair hpair => Nat.le_pred_of_lt (hpairs pair hpair)
    refine (hreadable hreceived).2 fun f _ v hv => ?_
    exact Nat.lt_of_le_pred (by decide) (hshort.lookup hv).depth_le

/-- With one container less than the reader allows, the job can be read back. -/
theorem readable_of_create_bracketed : ∃ b x r' o' k text, (binder .default).value = .ok b ∧
    (b.bindRequest (bracketed 126)).value = .ok x ∧ x.route.handler = "requests#create" ∧
    lookup x.resolver.params "request" config = some (nested 126) ∧
    (create (x.resolver.run []) (numbered 1) (numbered 2) ⟨⟨"1"⟩, ""⟩ .empty).value =
      (.ok ⟨"1"⟩, r', o') ∧
    o'.jobs = [.ofKind k [.obj [("credentials", .obj []), ("payload", .str text),
      ("type", .str "api")]] ⟨⟨"1"⟩, ""⟩] ∧ Readable text := by
  obtain ⟨b, _, hb, _, hall⟩ := exists_create_bracketed (numbered 1) (numbered 2) ⟨⟨"1"⟩, ""⟩
  obtain ⟨x, r', hx, hr, hconfig, hcreate⟩ := hall 126
  have hpairs := sentPairs_bracketed 126
  have hcalls : Silent [] := nofun
  have hrepository : IsFlat (numbered 1) := isFlat_numbered ⟨by decide, by decide⟩
  have huser : IsFlat (numbered 2) := isFlat_numbered ⟨by decide, by decide⟩
  obtain ⟨k, text, _, hjobs, _, hreadable⟩ :=
    readable_of_create hb (.request hx) hr hcalls hrepository huser hcreate
  refine ⟨b, x, r', _, k, text, hb, hx, hr, hconfig, hcreate, hjobs, hreadable fun pair hpair => ?_⟩
  obtain rfl : pair = bracketedPair 126 := List.mem_singleton.1 (hpairs ▸ hpair)
  rw [split_bracketedPair, List.length_replicate]
  decide

/-- With one container more, the job is handed over but cannot be read. -/
theorem not_readable_bracketed : ∃ b x r' k text, (binder .default).value = .ok b ∧
    (b.bindRequest (bracketed 127)).value = .ok x ∧ x.route.handler = "requests#create" ∧
    IsFlat (numbered 1) ∧ IsFlat (numbered 2) ∧
    (create (x.resolver.run []) (numbered 1) (numbered 2) ⟨⟨"1"⟩, ""⟩ .empty).value =
      (.ok ⟨"1"⟩, r', ⟨[.ofKind k [.obj [("credentials", .obj []), ("payload", .str text),
        ("type", .str "api")]] ⟨⟨"1"⟩, ""⟩], none⟩) ∧
    Json.readBytes (Utf8.encode text) = none := by
  obtain ⟨b, k, hb, _, hall⟩ := exists_create_bracketed (numbered 1) (numbered 2) ⟨⟨"1"⟩, ""⟩
  obtain ⟨x, r', hx, hr, hconfig, hcreate⟩ := hall 127
  have hrepository : IsFlat (numbered 1) := isFlat_numbered ⟨by decide, by decide⟩
  have huser : IsFlat (numbered 2) := isFlat_numbered ⟨by decide, by decide⟩
  obtain ⟨n, hreceived⟩ := exists_received_params (.request hx)
  refine ⟨b, x, r', k, _, hb, hx, hr, hrepository, huser, hcreate, ?_⟩
  rw [← hconfig, Json.readBytes_render (numbersAre_filled hrepository huser
    (fun _ => hreceived.lookup) (fun _ => hreceived.lookup) fun _ => hreceived.lookup), if_neg]
  intro hdepth
  have hlt := ((depth_filled_le_iff hrepository huser).1 hdepth).2.2 _ hconfig
  rw [depth_nested] at hlt
  exact Nat.lt_irrefl _ hlt

end V3

end RequestBinding
