import RequestBinding.RequestError
import RequestBinding.Unicode.Case

/-!
# Jobs

A job is handed to a queue under a class, with JSON arguments and an identity of its own. The
caller supplies the identity and the time, since both come from outside.

## Main definitions

* `JobKind` - where jobs of a kind go
* `Job`, `JobId`, `Stamp` - jobs and their identity
* `JobError` - why a job is not handed over
-/

namespace RequestBinding

/-- Why a kind of job cannot be registered. -/
inductive KindFault where
  | emptyQueue
  | emptyClass
  deriving Repr, DecidableEq

/-- The wording of a fault. -/
def KindFault.reason : KindFault → String
  | .emptyQueue => "queue must not be empty"
  | .emptyClass => "class must not be empty"

/-- Why a job is not handed over. -/
inductive JobError where
  | unknown (identifier : String)
  | noRegistry
  | invalidKind (identifier : String) (fault : KindFault)
  | pushFailed (reason : String)
  deriving Repr, DecidableEq

namespace JobError

/-- The wording of an error. -/
def message : JobError → String
  | .unknown identifier => "unknown job: " ++ identifier
  | .noRegistry => "no job registry configured"
  | .invalidKind identifier fault =>
    "invalid job spec for " ++ identifier ++ ": " ++ fault.reason
  | .pushFailed reason => "failed to push job: " ++ reason

/-- Whether trying again can help. -/
def isRecoverable : JobError → Bool
  | .pushFailed _ => true
  | _ => false

/-- The error of the request that the job was for. -/
def toRequestError (e : JobError) : RequestError := .internal e.message

end JobError

/-- Where jobs of a kind go. -/
structure JobKind where
  queue : String
  class_ : String
  deriving Repr, DecidableEq

/-- A kind of job has a queue and a class that are not blank; the queue is looked at first. -/
def JobKind.fault? (k : JobKind) : Option KindFault :=
  if Unicode.blankText k.queue then some .emptyQueue
  else if Unicode.blankText k.class_ then some .emptyClass
  else none

/-! ## Identity -/

/-- The identity of a job, as the text of a UUID. -/
structure JobId where
  text : String
  deriving Repr, DecidableEq

namespace JobId

/-- The lowercase hexadecimal digits of a number, filled up with zeros. -/
def hex (width n : Nat) : List Char :=
  let ds := Nat.toDigits 16 n
  List.replicate (width - ds.length) '0' ++ ds

/-- A time-ordered identity: 48 bits of time in milliseconds, the version seven, and 74 bits of
noise around the variant. -/
def timeOrdered (millis noise : Nat) : JobId :=
  let time := hex 12 (millis % Nat.pow 2 48)
  let a := hex 3 (noise % Nat.pow 2 12)
  let b := hex 16 (Nat.pow 2 63 + noise / Nat.pow 2 12 % Nat.pow 2 62)
  ⟨String.ofList (time.take 8 ++ '-' :: (time.drop 8 ++ '-' :: '7' :: (a ++ '-' :: (b.take 4 ++
    '-' :: b.drop 4))))⟩

/-- The version that an identity states. -/
def version (id : JobId) : Option Nat := (id.text.toList[14]?).map fun c => c.toNat - '0'.toNat

end JobId

/-- What a job gets from outside: its identity and the time. -/
structure Stamp where
  id : JobId
  time : String
  deriving Repr, DecidableEq

/-- A job as it is handed over. -/
structure Job where
  id : JobId
  queue : String
  class_ : String
  args : List Json
  enqueuedAt : String
  deriving Repr

namespace Job

/-- A job of a kind. -/
def ofKind (k : JobKind) (args : List Json) (stamp : Stamp) : Job :=
  ⟨stamp.id, k.queue, k.class_, args, stamp.time⟩

/-- The members of a job in transit. -/
def members (j : Job) : List (String × Json) := [
  ("args", .arr j.args), ("class", .str j.class_), ("enqueued_at", .str j.enqueuedAt),
  ("jid", .str j.id.text), ("queue", .str j.queue)]

end Job

end RequestBinding
