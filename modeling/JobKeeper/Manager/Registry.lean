/-
  File:      JobKeeper/Manager/Registry.lean
  Subject:   What became of each job: the running ones and the failed ones, by tracking id.
-/
import JobKeeper.Dict
import JobKeeper.Job.Basic
import JobKeeper.Time

namespace JobKeeper

/-! ## 1. Entries -/

/-- What came of the latest attempt to start a job. -/
structure JobEntry where
  id : String
  kind : JobKind
  clusterJobId : Option String := none
  error : Option String := none
  attemptedAt : Instant
  /-- The latest pass that knew the job to be desired, or could not know. -/
  lastSeenPass : Nat
  deriving DecidableEq, Repr

namespace JobEntry

/-- The entry of a job that runs. -/
def running (id : String) (kind : JobKind) (clusterJobId : Option String) (attemptedAt : Instant)
    (pass : Nat) : JobEntry :=
  { id, kind, clusterJobId, attemptedAt, lastSeenPass := pass }

/-- The entry of a job that failed to start. -/
def failed (id : String) (kind : JobKind) (error : String) (attemptedAt : Instant)
    (pass : Nat) : JobEntry :=
  { id, kind, error := some error, attemptedAt, lastSeenPass := pass }

/-- The entry, seen in a pass. -/
def seenIn (e : JobEntry) (pass : Nat) : JobEntry := { e with lastSeenPass := pass }

/-- A text that may be absent, as a field; absent it is not written. -/
private def optionalText (name : String) : Option String → List (String × Json)
  | none => []
  | some s => [(name, .string s)]

/-- The entry as it is published. -/
def toJson (e : JobEntry) : Json :=
  .fields <|
    [("id", .string e.id), ("kind", .string e.kind.name),
     ("attempted_at", .string e.attemptedAt.text), ("last_seen_pass", .int e.lastSeenPass)]
    ++ optionalText "flink_job_id" e.clusterJobId ++ optionalText "error" e.error

end JobEntry

/-! ## 2. The registry -/

/-- The running and the failed jobs. A job is in at most one of the two maps. -/
structure Registry where
  running : Dict JobEntry := .empty
  failed : Dict JobEntry := .empty
  deriving DecidableEq

namespace Registry

instance : Inhabited Registry := ⟨{}⟩

/-- Whether a job is running. -/
def isRunning (r : Registry) (id : String) : Bool := r.running.contains id

/-- Forgets that a job failed. -/
def clearFailed (r : Registry) (id : String) : Option JobEntry × Registry :=
  (r.failed.get? id, { r with failed := r.failed.erase id })

/-- Records a running job; it no longer counts as failed. -/
def recordRunning (r : Registry) (e : JobEntry) : Registry :=
  { running := r.running.insert e.id e, failed := r.failed.erase e.id }

/-- Records a failed job; it no longer counts as running. -/
def recordFailed (r : Registry) (e : JobEntry) : Registry :=
  { running := r.running.erase e.id, failed := r.failed.insert e.id e }

/-- Marks one job as seen in a pass, if it is known. -/
def touch (r : Registry) (id : String) (pass : Nat) : Registry :=
  match r.running.get? id with
  | some e => { r with running := r.running.insert id (e.seenIn pass) }
  | none =>
    match r.failed.get? id with
    | some e => { r with failed := r.failed.insert id (e.seenIn pass) }
    | none => r

/-- An entry of a kind as seen in a pass; any other entry as it is. -/
def seenIfOf (kind : JobKind) (pass : Nat) (e : JobEntry) : JobEntry :=
  if e.kind = kind then e.seenIn pass else e

/-- Marks every job of a kind as seen in a pass. -/
def touchKind (r : Registry) (kind : JobKind) (pass : Nat) : Registry :=
  { running := r.running.map (seenIfOf kind pass), failed := r.failed.map (seenIfOf kind pass) }

/-- The running jobs not seen in a pass, in ascending order. -/
def unseenRunning (r : Registry) (pass : Nat) : List String :=
  (r.running.filter fun _ e => e.lastSeenPass < pass).keys

/-- Whether an entry has been unseen for so many passes. None has if the number is zero. -/
def isStale (pass retention : Nat) (e : JobEntry) : Bool :=
  retention ≠ 0 && retention ≤ pass - e.lastSeenPass

/-- Drops the failed jobs that have been unseen for so many passes; gives their ids in ascending
    order. -/
def evictFailed (r : Registry) (pass retention : Nat) : List String × Registry :=
  ((r.failed.filter fun _ e => isStale pass retention e).keys,
   { r with failed := r.failed.filter fun _ e => !isStale pass retention e })

/-- The running jobs in ascending order of their ids. -/
def runningEntries (r : Registry) : List JobEntry := r.running.values

/-- The failed jobs in ascending order of their ids. -/
def failedEntries (r : Registry) : List JobEntry := r.failed.values

end Registry

end JobKeeper
