import RequestBinding.Binder.Basic

/-!
# The third version of the API

The tree of resources:

* `/accounts`
* `/owner/…` by login, with `/repos` and `/queue`
* `/repo/…` by number or slug, with `/enable`, `/disable`, `/requests` and `/branch/…`
* `/repos`, `/build/…`, `/user`, `/user/…`, `/org/…`, `/orgs`

## Main definitions

* `V3.resources` - the trees
* `V3.binder` - the binder that settings describe
-/

namespace RequestBinding.V3

/-- The trees of resources, in the order of their declaration. -/
def resources : List Resource := [
  ((Resource.named "accounts").route "/accounts").get "for_current_user",
  ((((Resource.named "owner").route
    "/owner/(\x7bowner.login\x7d|\x7buser.login\x7d|\x7borganization.login\x7d)").get "find").getAt
    "repositories" "/repos").getAt "pending_jobs" "/queue",
  ((((((((Resource.named "repository").capture "id" .digits).capture "slug" .slug).route
    "/repo/(\x7brepository.id\x7d|\x7brepository.slug\x7d)").get "find").postAt
    "enable" "/enable").postAt "disable" "/disable").resource
    ((((Resource.named "requests").route "/requests").get "find").post "create")).resource
    (((Resource.named "branch").route "/branch/\x7bbranch.name\x7d").get "find"),
  ((Resource.named "repositories").route "/repos").get "for_current_user",
  (((Resource.named "build").capture "id" .digits).route "/build/\x7bbuild.id\x7d").get "find",
  ((((Resource.named "user").capture "id" .digits).route "/user").get "current").getAt
    "find" "/\x7buser.id\x7d",
  (((Resource.named "organization").capture "id" .digits).route
    "/org/\x7borganization.id\x7d").get "find",
  ((Resource.named "organizations").route "/orgs").get "for_current_user"]

/-- The handlers whose results have a type of their own. -/
def resultTypes : List (String × String) := [("requests#create", "request")]

/-- The binder that settings describe. They have to say where jobs that create builds go. -/
def binder (s : Settings) : Traced (Except RequestError Binder) :=
  if s.jobs.contains JobKinds.buildRequest then
    (RouteTable.compile resources).map fun
      | .error e => .error e.toRequestError
      | .ok routes =>
        (Binder.ofSettings s routes).map fun b =>
          resultTypes.foldl (fun b t => b.withResultType t.1 t.2) b
  else .pure (.error (.internal ("no '" ++ JobKinds.buildRequest ++ "' job configured")))

end RequestBinding.V3
