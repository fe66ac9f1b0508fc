import RequestBinding.Json.Printer
import RequestBinding.Resolver
import RequestBinding.Settings.Basic

/-!
# Requests to build

The parameters of a request to build a branch of a repository, and the job that carries it out.

## Main definitions

* `BuildRequest.fields` - the parameters by name
* `BuildRequest.payload` - the contents of the job
* `BuildRequest.create` - hands the job over
-/

namespace RequestBinding.BuildRequest

def branch : Field := ⟨"request", "branch"⟩
def message : Field := ⟨"request", "message"⟩
def config : Field := ⟨"request", "config"⟩
def repositoryId : Field := ⟨"repository", "id"⟩
def repositorySlug : Field := ⟨"repository", "slug"⟩
def userId : Field := ⟨"user", "id"⟩

/-- The parameters with the names under which they are read. -/
def fields : List (String × Field) := [
  ("branch", branch), ("message", message), ("config", config),
  ("repository_id", repositoryId), ("repository_slug", repositorySlug), ("user_id", userId)]

/-- The branch of a request that names none. -/
def defaultBranch : String := "master"

/-- The contents of a job. -/
def contents (repository user message branch config : Json) : Json :=
  .obj [("branch", branch), ("config", config), ("message", message),
    ("repository", repository), ("user", user)]

/-- The contents of the job for a repository and a user. A request without message, branch or
configuration has a null message, the default branch and an empty configuration. -/
def payload (r : Resolver) (repository user : Json) : Traced (Json × Resolver) :=
  (r.resolve message).bind fun (m, r) =>
    (r.resolve branch).bind fun (b, r) =>
      (r.resolve config).map fun (c, r) =>
        (contents repository user (m.getD .null) (b.getD (.str defaultBranch))
          (c.getD (.obj [])), r)

/-- The argument of a job with given contents. -/
def argument (payload : Json) : Json :=
  .obj [("credentials", .obj []), ("payload", .str payload.render), ("type", .str "api")]

/-- Hands the job for a repository and a user over. -/
def create (r : Resolver) (repository user : Json) (stamp : Stamp) (o : Outbox) :
    Traced (Except ParamsError JobId × Resolver × Outbox) :=
  (payload r repository user).bind fun (p, r) =>
    (r.perform JobKinds.buildRequest [argument p] stamp o).map fun (result, o) => (result, r, o)

end RequestBinding.BuildRequest
