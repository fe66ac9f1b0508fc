import RequestBinding.Jobs.Basic
import RequestBinding.Signal

/-!
# Handing jobs over

A registry knows the kinds of jobs by identifier and hands jobs over to a client, whichever it is.
An outbox is such a client: it keeps the jobs that were handed over, and can be told to refuse all
further ones.

## Main definitions

* `JobClient` - to which jobs are handed over
* `Outbox` - what was handed over
* `JobRegistry` - the kinds of jobs
* `JobRegistry.performBy`, `JobRegistry.perform` - hand a job over
-/

namespace RequestBinding

/-- A client, to which jobs are handed over: its answer to a job, and its state afterwards. -/
abbrev JobClient (σ : Type) : Type := Job → σ → Except JobError Unit × σ

/-- The jobs that were handed over, in order, and the reason for which further ones are refused, if
they are. -/
structure Outbox where
  jobs : List Job
  refusal : Option String
  deriving Repr

namespace Outbox

/-- Nothing handed over yet. -/
def empty : Outbox := ⟨[], none⟩

/-- Refuses all further jobs for a reason. -/
def refuse (o : Outbox) (reason : String) : Outbox := { o with refusal := some reason }

/-- Hands a job over. -/
def push (o : Outbox) (j : Job) : Except JobError Outbox :=
  match o.refusal with
  | some reason => .error (.pushFailed reason)
  | none => .ok { o with jobs := o.jobs ++ [j] }

/-- An outbox as a client; it stays as it is if it refuses a job. -/
def client : JobClient Outbox := fun j o =>
  match o.push j with
  | .ok o' => (.ok (), o')
  | .error e => (.error e, o)

/-- Takes all jobs out. -/
def take (o : Outbox) : List Job × Outbox := (o.jobs, { o with jobs := [] })

end Outbox

/-- The kinds of jobs by identifier, in the order of the identifiers. -/
structure JobRegistry where
  kinds : List (String × JobKind)
  sorted : Members.Sorted kinds

namespace JobRegistry

/-- The registry without kinds. -/
def empty : JobRegistry := ⟨[], Members.sorted_nil⟩

/-- Registers a kind under an identifier, in place of the one that was there. -/
def register (r : JobRegistry) (identifier : String) (k : JobKind) : Except JobError JobRegistry :=
  match k.fault? with
  | some fault => .error (.invalidKind identifier fault)
  | none => .ok ⟨Members.put identifier k r.kinds, Members.sorted_put r.sorted⟩

/-- Registers a list of kinds, or none of them if one has a fault. -/
def registerAll (r : JobRegistry) : List (String × JobKind) → Except JobError JobRegistry
  | [] => .ok r
  | (identifier, k) :: rest =>
    match r.register identifier k with
    | .ok r => registerAll r rest
    | .error e => .error e

/-- The kind registered under an identifier. -/
def get? (r : JobRegistry) (identifier : String) : Option JobKind := Members.get? identifier r.kinds

/-- Whether a kind is registered under an identifier. -/
def contains (r : JobRegistry) (identifier : String) : Bool := Members.contains identifier r.kinds

/-- The number of kinds. -/
def size (r : JobRegistry) : Nat := r.kinds.length

/-- The part of the program that reports on jobs. -/
def target : String := "ariadne_jobs::registry"

/-- Hands a job of a registered kind over to a client; gives its identity, and the state of the
client afterwards. -/
def performBy {σ : Type} (r : JobRegistry) (client : JobClient σ) (identifier : String)
    (args : List Json) (stamp : Stamp) (state : σ) : Traced (Except JobError JobId × σ) :=
  match r.get? identifier with
  | none =>
    .logged (.error (.unknown identifier), state)
      ⟨.warn, target, "unknown job", [("job", .text identifier)]⟩
  | some k =>
    match client (.ofKind k args stamp) state with
    | (.error e, state) => .pure (.error e, state)
    | (.ok (), state) =>
      ⟨(.ok stamp.id, state), [
        .event ⟨.debug, target, "job enqueued",
          [("job", .text identifier), ("jid", .text stamp.id.text), ("queue", .text k.queue)]⟩,
        .count (.jobsEnqueued identifier)]⟩

/-- Hands a job of a registered kind over to an outbox. -/
def perform (r : JobRegistry) (identifier : String) (args : List Json) (stamp : Stamp)
    (o : Outbox) : Traced (Except JobError JobId × Outbox) :=
  r.performBy Outbox.client identifier args stamp o

end JobRegistry

end RequestBinding
