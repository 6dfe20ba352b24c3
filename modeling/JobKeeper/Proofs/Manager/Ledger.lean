/-
  File:      JobKeeper/Proofs/Manager/Ledger.lean
  Subject:   The two maps of the registry stand for one map with a tagged outcome for each job.

  A `Ledger` is a single map. Its operations are written without any thought of two maps, so an id
  cannot stand in two places. Splitting a ledger by outcome gives a registry, and each operation of
  the registry on a split ledger does what the operation of the ledger does.

  * `perform_split`: one operation, with one lemma for each operation that changes something;
  * `performAll_split`: any sequence of operations;
  * `run_refines_ledger`: the sequences that start from nothing, and what follows for the two maps
    and for the lists that the API shows.
-/
import JobKeeper.Proofs.Dict
import JobKeeper.Proofs.Manager.Standing
import JobKeeper.Proofs.Text.ByteOrder
import JobKeeper.Web.Router

namespace JobKeeper

/-! ## 1. One map -/

/-- How the latest attempt to start a job went. -/
inductive Outcome where
  | running (clusterJobId : Option String)
  | failed (error : String)
  deriving DecidableEq, Repr

/-- What is known of one job. -/
structure Tracked where
  kind : JobKind
  outcome : Outcome
  attemptedAt : Instant
  lastSeenPass : Nat
  deriving DecidableEq, Repr

namespace Tracked

def isRunning (t : Tracked) : Bool :=
  match t.outcome with
  | .running _ => true
  | .failed _ => false

/-- The entry of the job with this id. -/
def entry (id : String) (t : Tracked) : JobEntry :=
  match t.outcome with
  | .running clusterJobId => .running id t.kind clusterJobId t.attemptedAt t.lastSeenPass
  | .failed error => .failed id t.kind error t.attemptedAt t.lastSeenPass

theorem entry_injective (id : String) {t t' : Tracked} (h : t.entry id = t'.entry id) :
    t = t' := by
  obtain ⟨kind, outcome, attemptedAt, lastSeenPass⟩ := t
  obtain ⟨kind', outcome', attemptedAt', lastSeenPass'⟩ := t'
  cases outcome <;> cases outcome' <;> simp_all [entry, JobEntry.running, JobEntry.failed]

@[simp] theorem entry_id (id : String) (t : Tracked) : (t.entry id).id = id := by
  cases h : t.outcome <;> simp [entry, h, JobEntry.running, JobEntry.failed]

@[simp] theorem entry_kind (id : String) (t : Tracked) : (t.entry id).kind = t.kind := by
  cases h : t.outcome <;> simp [entry, h, JobEntry.running, JobEntry.failed]

@[simp] theorem entry_lastSeenPass (id : String) (t : Tracked) :
    (t.entry id).lastSeenPass = t.lastSeenPass := by
  cases h : t.outcome <;> simp [entry, h, JobEntry.running, JobEntry.failed]

/-- A running job has no error, and a failed one has an error and no id on the cluster. -/
theorem entry_outcome (id : String) (t : Tracked) :
    if t.isRunning then (t.entry id).error = none
    else (t.entry id).error.isSome = true ∧ (t.entry id).clusterJobId = none := by
  cases h : t.outcome <;> simp [isRunning, entry, h, JobEntry.running, JobEntry.failed]

/-- What is known of a job that was seen in a pass. -/
def seenIn (t : Tracked) (pass : Nat) : Tracked := { t with lastSeenPass := pass }

@[simp] theorem isRunning_seenIn (t : Tracked) (pass : Nat) :
    (t.seenIn pass).isRunning = t.isRunning := rfl

@[simp] theorem entry_seenIn (id : String) (t : Tracked) (pass : Nat) :
    (t.seenIn pass).entry id = (t.entry id).seenIn pass := by
  cases h : t.outcome <;>
    simp [entry, seenIn, h, JobEntry.running, JobEntry.failed, JobEntry.seenIn]

end Tracked

/-- Every job that is known of, with what is known of it. -/
abbrev Ledger := Dict Tracked

namespace Ledger

/-- Records an attempt, whatever was known before. -/
def record (l : Ledger) (id : String) (t : Tracked) : Ledger := l.insert id t

/-- Forgets a job if it failed. -/
def clearFailed (l : Ledger) (id : String) : Option JobEntry × Ledger :=
  match l.get? id with
  | none => (none, l)
  | some t => if t.isRunning then (none, l) else (some (t.entry id), l.erase id)

/-- Marks a job as seen in a pass, if it is known. -/
def touch (l : Ledger) (id : String) (pass : Nat) : Ledger :=
  match l.get? id with
  | none => l
  | some t => l.insert id (t.seenIn pass)

/-- Marks every job of a kind as seen in a pass. -/
def touchKind (l : Ledger) (kind : JobKind) (pass : Nat) : Ledger :=
  l.map fun t => if t.kind = kind then t.seenIn pass else t

/-- Whether a job failed and was unseen for so many passes. -/
def isStale (pass retention : Nat) (t : Tracked) : Bool :=
  !t.isRunning && decide (retention ≤ pass - t.lastSeenPass)

/-- Drops the failed jobs that were unseen for so many passes, or none if the number is zero. -/
def evictFailed (l : Ledger) (pass retention : Nat) : List String × Ledger :=
  if retention = 0 then ([], l)
  else
    ((l.filter fun _ t => isStale pass retention t).keys,
      l.filter fun _ t => !isStale pass retention t)

def isRunning (l : Ledger) (id : String) : Bool :=
  match l.get? id with
  | none => false
  | some t => t.isRunning

/-- The running jobs that were not seen in a pass. -/
def unseenRunning (l : Ledger) (pass : Nat) : List String :=
  (l.filter fun _ t => t.isRunning && decide (t.lastSeenPass < pass)).keys

/-- The entries of the jobs that run, or of those that failed. -/
def listing (l : Ledger) (running : Bool) : List JobEntry :=
  (l.filter fun _ t => t.isRunning == running).entries.map fun e => e.2.entry e.1

end Ledger

/-! ## 2. Operations -/

namespace Registry

/-- An operation, with all that it is given. -/
inductive Op where
  | recordRunning (id : String) (kind : JobKind) (clusterJobId : Option String)
      (attemptedAt : Instant) (pass : Nat)
  | recordFailed (id : String) (kind : JobKind) (error : String) (attemptedAt : Instant)
      (pass : Nat)
  | clearFailed (id : String)
  | touch (id : String) (pass : Nat)
  | touchKind (kind : JobKind) (pass : Nat)
  | evictFailed (pass retention : Nat)
  | isRunning (id : String)
  | unseenRunning (pass : Nat)
  | running
  | failed

/-- What an operation gives back. -/
inductive Answer where
  | done
  | forgotten (entry : Option JobEntry)
  | flag (b : Bool)
  | ids (ids : List String)
  | entries (entries : List JobEntry)

/-- An operation on the two maps. -/
def perform (r : Registry) : Op → Answer × Registry
  | .recordRunning id kind clusterJobId attemptedAt pass =>
    (.done, r.recordRunning (.running id kind clusterJobId attemptedAt pass))
  | .recordFailed id kind error attemptedAt pass =>
    (.done, r.recordFailed (.failed id kind error attemptedAt pass))
  | .clearFailed id => ((r.clearFailed id).1 |> .forgotten, (r.clearFailed id).2)
  | .touch id pass => (.done, r.touch id pass)
  | .touchKind kind pass => (.done, r.touchKind kind pass)
  | .evictFailed pass retention =>
    (.ids (r.evictFailed pass retention).1, (r.evictFailed pass retention).2)
  | .isRunning id => (.flag (r.isRunning id), r)
  | .unseenRunning pass => (.ids (r.unseenRunning pass), r)
  | .running => (.entries r.runningEntries, r)
  | .failed => (.entries r.failedEntries, r)

end Registry

/-- The same operation on one map. -/
def Ledger.perform (l : Ledger) : Registry.Op → Registry.Answer × Ledger
  | .recordRunning id kind clusterJobId attemptedAt pass =>
    (.done, l.record id ⟨kind, .running clusterJobId, attemptedAt, pass⟩)
  | .recordFailed id kind error attemptedAt pass =>
    (.done, l.record id ⟨kind, .failed error, attemptedAt, pass⟩)
  | .clearFailed id => (.forgotten (l.clearFailed id).1, (l.clearFailed id).2)
  | .touch id pass => (.done, l.touch id pass)
  | .touchKind kind pass => (.done, l.touchKind kind pass)
  | .evictFailed pass retention =>
    (.ids (l.evictFailed pass retention).1, (l.evictFailed pass retention).2)
  | .isRunning id => (.flag (l.isRunning id), l)
  | .unseenRunning pass => (.ids (l.unseenRunning pass), l)
  | .running => (.entries (l.listing true), l)
  | .failed => (.entries (l.listing false), l)

/-- Operations one after the other: what each gives back, and the state after the last one. -/
def performAll {σ : Type} (perform : σ → Registry.Op → Registry.Answer × σ) (state : σ) :
    List Registry.Op → List Registry.Answer × σ
  | [] => ([], state)
  | op :: ops =>
    let (answer, next) := perform state op
    let (answers, last) := performAll perform next ops
    (answer :: answers, last)

/-! ## 3. Splitting a ledger -/

/-- What the registry holds of a job of which this is known. -/
def Standing.ofTracked (id : String) : Option Tracked → Standing
  | none => {}
  | some t =>
    if t.isRunning then { running := some (t.entry id) } else { failed := some (t.entry id) }

theorem Standing.ofTracked_injective (id : String) {o o' : Option Tracked}
    (h : Standing.ofTracked id o = Standing.ofTracked id o') : o = o' := by
  cases o with
  | none =>
    cases o' with
    | none => rfl
    | some t' => cases hr : t'.isRunning <;> simp [ofTracked, hr] at h
  | some t =>
    cases o' with
    | none => cases hr : t.isRunning <;> simp [ofTracked, hr] at h
    | some t' =>
      have hentry : t.entry id = t'.entry id := by
        cases hr : t.isRunning <;> cases hr' : t'.isRunning <;> simp [ofTracked, hr, hr'] at h
        · exact h
        · exact h
      rw [Tracked.entry_injective id hentry]

/-- The running jobs in one map and the failed ones in another. -/
def Ledger.split (l : Ledger) : Registry where
  running := (l.filter fun _ t => t.isRunning == true).mapWithKey Tracked.entry
  failed := (l.filter fun _ t => t.isRunning == false).mapWithKey Tracked.entry

namespace Ledger

theorem standing_split (l : Ledger) (id : String) :
    l.split.standing id = Standing.ofTracked id (l.get? id) := by
  unfold Registry.standing split Standing.ofTracked
  rw [Dict.get?_mapWithKey, Dict.get?_mapWithKey, Dict.get?_filter, Dict.get?_filter]
  cases l.get? id with
  | none => rfl
  | some t => cases h : t.isRunning <;> simp [h]

/-- A ledger splits as it should if each job has the standing that it should have. -/
theorem split_eq {l : Ledger} {r : Registry}
    (h : ∀ id, Standing.ofTracked id (l.get? id) = r.standing id) : l.split = r :=
  Registry.eq_of_standing fun id => (l.standing_split id).trans (h id)

/-- The entries of one outcome, as the ledger lists them and as the registry does. -/
theorem listing_eq_values (l : Ledger) (running : Bool) :
    l.listing running =
      ((l.filter fun _ t => t.isRunning == running).mapWithKey Tracked.entry).values := by
  show _ = (List.map _ _).map _
  rw [List.map_map]
  rfl

/-- Choosing entries of one outcome by their last pass is choosing jobs. -/
theorem keys_filter_mapWithKey (l : Ledger) (running : Bool) (keep : JobEntry → Bool)
    (keep' : Tracked → Bool)
    (h : ∀ id t, keep' t = ((t.isRunning == running) && keep (t.entry id))) :
    (((l.filter fun _ t => t.isRunning == running).mapWithKey Tracked.entry).filter
      fun _ e => keep e).keys = (l.filter fun _ t => keep' t).keys := by
  refine Dict.keys_congr fun id => ?_
  rw [Dict.get?_filter, Dict.get?_mapWithKey, Dict.get?_filter, Dict.get?_filter]
  cases l.get? id with
  | none => rfl
  | some t =>
    cases hr : t.isRunning == running <;> cases hk : keep (t.entry id) <;>
      simp [Option.filter, hr, hk, h id t]

end Ledger

/-! ## 4. One lemma for each operation -/

namespace Registry

theorem standing_recordRunning (r : Registry) (e : JobEntry) (id : String) :
    (r.recordRunning e).standing id =
      if e.id = id then { running := some e } else r.standing id := by
  by_cases h : e.id = id <;> simp [standing, recordRunning, Dict.get?_insert, Dict.get?_erase, h]

theorem standing_recordFailed (r : Registry) (e : JobEntry) (id : String) :
    (r.recordFailed e).standing id =
      if e.id = id then { failed := some e } else r.standing id := by
  by_cases h : e.id = id <;> simp [standing, recordFailed, Dict.get?_insert, Dict.get?_erase, h]

end Registry

namespace Ledger

variable (l : Ledger)

theorem split_record (id : String) (t : Tracked) :
    (l.record id t).split =
      if t.isRunning then l.split.recordRunning (t.entry id)
      else l.split.recordFailed (t.entry id) := by
  refine split_eq fun id' => ?_
  rw [record, Dict.get?_insert]
  cases hr : t.isRunning with
  | true =>
    rw [if_pos rfl, Registry.standing_recordRunning, Tracked.entry_id, standing_split]
    by_cases h : id = id' <;> simp [h, Standing.ofTracked, hr]
  | false =>
    rw [if_neg Bool.false_ne_true, Registry.standing_recordFailed, Tracked.entry_id, standing_split]
    by_cases h : id = id' <;> simp [h, Standing.ofTracked, hr]

theorem split_touch (id : String) (pass : Nat) :
    (l.touch id pass).split = l.split.touch id pass := by
  refine split_eq fun id' => ?_
  rw [Registry.standing_touch, standing_split, standing_split, touch]
  cases hl : l.get? id with
  | none =>
    by_cases h : id = id'
    · subst h
      simp [hl, Standing.ofTracked, Standing.seenIn]
    · simp [h]
  | some t =>
    rw [Dict.get?_insert]
    by_cases h : id = id'
    · cases hr : t.isRunning <;> simp [h, Standing.ofTracked, Standing.seenIn, hr]
    · simp [h]

theorem split_touchKind (kind : JobKind) (pass : Nat) :
    (l.touchKind kind pass).split = l.split.touchKind kind pass := by
  refine split_eq fun id => ?_
  rw [Registry.standing_touchKind, standing_split, touchKind, Dict.get?_map]
  cases l.get? id with
  | none => rfl
  | some t =>
    by_cases hk : t.kind = kind <;> cases hr : t.isRunning <;>
      simp [Standing.ofTracked, Standing.seenIfOf, Registry.seenIfOf, hk, hr]

theorem split_clearFailed (id : String) :
    l.split.clearFailed id = ((l.clearFailed id).1, (l.clearFailed id).2.split) := by
  have hanswer : (l.split.clearFailed id).1 = (l.clearFailed id).1 := by
    show (l.split.standing id).failed = _
    rw [standing_split, clearFailed]
    cases l.get? id with
    | none => rfl
    | some t => cases hr : t.isRunning <;> simp [Standing.ofTracked, hr]
  have hstate : (l.clearFailed id).2.split = (l.split.clearFailed id).2 := by
    refine split_eq fun id' => ?_
    rw [Registry.standing_clearFailed, standing_split, standing_split, clearFailed]
    cases hl : l.get? id with
    | none =>
      by_cases h : id = id'
      · subst h
        simp [hl, Standing.ofTracked, Standing.cleared]
      · simp [h]
    | some t =>
      cases hr : t.isRunning with
      | true =>
        by_cases h : id = id'
        · subst h
          simp [hl, hr, Standing.ofTracked, Standing.cleared]
        · simp [h, hr]
      | false =>
        by_cases h : id = id' <;> simp [h, hr, Dict.get?_erase, Standing.ofTracked, Standing.cleared]
  rw [← hanswer, hstate]

theorem split_evictFailed (pass retention : Nat) :
    l.split.evictFailed pass retention =
      ((l.evictFailed pass retention).1, (l.evictFailed pass retention).2.split) := by
  unfold evictFailed
  by_cases hr : retention = 0
  · have never : ∀ e, Registry.isStale pass retention e = false := by
      simp [Registry.isStale, hr]
    rw [if_pos hr]
    refine Prod.ext ?_ (Registry.eq_of_standing fun id => ?_)
    · show (l.split.failed.filter _).keys = []
      simp [Dict.keys, Dict.filter, never]
    · rw [Registry.standing_evictFailed]
      refine Standing.ext rfl ?_
      cases hf : (l.split.standing id).failed <;> simp [Standing.swept, Option.filter, hf, never]
  · have stale : ∀ (id : String) (t : Tracked), isStale pass retention t =
        ((t.isRunning == false) && Registry.isStale pass retention (t.entry id)) := by
      intro id t
      cases h : t.isRunning <;> simp [isStale, Registry.isStale, h, hr]
    rw [if_neg hr]
    refine Prod.ext (l.keys_filter_mapWithKey false _ _ stale) (Registry.eq_of_standing fun id => ?_)
    rw [Registry.standing_evictFailed, standing_split, standing_split, Dict.get?_filter]
    cases l.get? id with
    | none => rfl
    | some t =>
      cases h : t.isRunning <;> cases hst : Registry.isStale pass retention (t.entry id) <;>
        simp [Option.filter, Standing.ofTracked, Standing.swept, stale id t, h, hst]

theorem isRunning_split (id : String) : l.split.isRunning id = l.isRunning id := by
  rw [Registry.isRunning_eq, standing_split, isRunning]
  cases l.get? id with
  | none => rfl
  | some t => cases h : t.isRunning <;> simp [Standing.ofTracked, h]

theorem unseenRunning_split (pass : Nat) : l.split.unseenRunning pass = l.unseenRunning pass :=
  l.keys_filter_mapWithKey true _ _ fun id t => by simp

/-! ## 5. Sequences of operations -/

/-- **An operation on a split ledger is the operation on the ledger**: it gives back the same, and
    what is left is the split ledger again. -/
theorem perform_split (op : Registry.Op) :
    l.split.perform op = ((l.perform op).1, (l.perform op).2.split) := by
  cases op with
  | recordRunning id kind clusterJobId attemptedAt pass =>
    exact congrArg (Prod.mk _)
      (l.split_record id ⟨kind, .running clusterJobId, attemptedAt, pass⟩).symm
  | recordFailed id kind error attemptedAt pass =>
    exact congrArg (Prod.mk _) (l.split_record id ⟨kind, .failed error, attemptedAt, pass⟩).symm
  | clearFailed id =>
    simp only [Registry.perform, perform, split_clearFailed]
  | touch id pass => exact congrArg (Prod.mk _) (l.split_touch id pass).symm
  | touchKind kind pass => exact congrArg (Prod.mk _) (l.split_touchKind kind pass).symm
  | evictFailed pass retention => simp only [Registry.perform, perform, split_evictFailed]
  | isRunning id => simp only [Registry.perform, perform, isRunning_split]
  | unseenRunning pass => simp only [Registry.perform, perform, unseenRunning_split]
  | running => simp only [Registry.perform, perform, listing_eq_values]; rfl
  | failed => simp only [Registry.perform, perform, listing_eq_values]; rfl

/-- Any sequence of operations gives back the same on the ledger and on the two maps, and leaves
    the two maps as the split ledger. -/
theorem performAll_split (ops : List Registry.Op) :
    performAll Registry.perform l.split ops =
      ((performAll perform l ops).1, (performAll perform l ops).2.split) := by
  induction ops generalizing l with
  | nil => rfl
  | cons op ops ih => simp only [performAll, perform_split, ih]

/-- The two maps tell everything about the ledger. -/
theorem split_injective {l l' : Ledger} (h : l.split = l'.split) : l = l' := by
  refine Dict.ext fun id => ?_
  apply Standing.ofTracked_injective id
  rw [← standing_split, ← standing_split, h]

/-! ## 6. Entries and listings -/

/-- The two maps have the entries of the ledger, each under its own id. -/
theorem get?_outcome (running : Bool) (id : String) (e : JobEntry) :
    ((l.filter fun _ t => t.isRunning == running).mapWithKey Tracked.entry).get? id = some e ↔
      ∃ t, l.get? id = some t ∧ t.isRunning = running ∧ t.entry id = e := by
  rw [Dict.get?_mapWithKey, Dict.get?_filter, Option.map_eq_some_iff]
  refine exists_congr fun t => ?_
  rw [Option.filter_eq_some_iff, beq_iff_eq, and_assoc]

theorem ids_listing (running : Bool) :
    (l.listing running).map (·.id) = (l.filter fun _ t => t.isRunning == running).keys := by
  rw [listing, List.map_map]
  exact List.map_congr_left fun e _ => Tracked.entry_id e.1 e.2

theorem mem_ids_listing (running : Bool) (id : String) :
    id ∈ (l.listing running).map (·.id) ↔ ∃ t, l.get? id = some t ∧ t.isRunning = running := by
  rw [ids_listing, Dict.mem_keys_filter]
  simp only [beq_iff_eq]

/-- A listing is in the order of the UTF-8 bytes of its ids. -/
theorem listing_ascending (running : Bool) :
    ((l.listing running).map (·.id)).Pairwise
      fun a b => Text.utf8Bytes a < Text.utf8Bytes b := by
  rw [ids_listing]
  exact (Dict.keys_ascending _).imp fun h => (Text.lt_iff_utf8Bytes_lt _ _).mp h

/-- Together the two listings have each job that is known of once, and no other. -/
theorem count_listings (id : String) :
    ((l.listing true).map (·.id) ++ (l.listing false).map (·.id)).count id =
      if (l.get? id).isSome then 1 else 0 := by
  have once : ∀ running, ((l.listing running).map (·.id)).Nodup := fun running => by
    rw [ids_listing]
    exact Dict.nodup_keys _
  rw [List.count_append, (once true).count, (once false).count]
  simp only [mem_ids_listing]
  cases l.get? id with
  | none => simp
  | some t => cases h : t.isRunning <;> simp [h]

end Ledger

/-- **The two maps of the registry are one map.** Whatever operations are performed, from nothing
    on and with any arguments, the registry gives back what a single map from ids to tagged outcomes
    gives back, and its maps are that map split by outcome, which they determine. So no id is in
    both maps; each entry is kept under its own id; a running job has no error, and a failed one has
    an error and no id on the cluster. The lists that the API shows are the two listings: each is
    strictly ascending in the order of the UTF-8 bytes, they have no id in common, and together they
    have each id that the single map knows exactly once. -/
theorem run_refines_ledger (ops : List Registry.Op) :
    let (answers, registry) := performAll Registry.perform {} ops
    let (answers', ledger) := performAll Ledger.perform .empty ops
    answers = answers' ∧ registry = ledger.split ∧
    (∀ l : Ledger, l.split = registry → l = ledger) ∧
    (∀ id, registry.running.get? id = none ∨ registry.failed.get? id = none) ∧
    (∀ id e, registry.running.get? id = some e → e.id = id ∧ e.error = none) ∧
    (∀ id e, registry.failed.get? id = some e →
      e.id = id ∧ e.error.isSome = true ∧ e.clusterJobId = none) ∧
    let running := registry.runningEntries
    let failed := registry.failedEntries
    (Web.answer registry ⟨"GET", "/api/v1/jobs/succeed"⟩).body =
      some (.array (running.map JobEntry.toJson)) ∧
    (Web.answer registry ⟨"GET", "/api/v1/jobs/failed"⟩).body =
      some (.array (failed.map JobEntry.toJson)) ∧
    (Web.answer registry ⟨"GET", "/api/v1/jobs"⟩).body =
      some (.fields [("running", .array (running.map JobEntry.toJson)),
        ("failed", .array (failed.map JobEntry.toJson))]) ∧
    ((running.map (·.id)).Pairwise fun a b => Text.utf8Bytes a < Text.utf8Bytes b) ∧
    ((failed.map (·.id)).Pairwise fun a b => Text.utf8Bytes a < Text.utf8Bytes b) ∧
    (∀ id ∈ running.map (·.id), id ∉ failed.map (·.id)) ∧
    ∀ id, (running.map (·.id) ++ failed.map (·.id)).count id =
      if (ledger.get? id).isSome then 1 else 0 := by
  have hrun := Ledger.performAll_split .empty ops
  rw [show Ledger.split .empty = ({} : Registry) from rfl] at hrun
  generalize performAll Ledger.perform .empty ops = after at hrun
  obtain ⟨answers', l⟩ := after
  rw [hrun]
  have hrunning : l.split.runningEntries = l.listing true := (l.listing_eq_values true).symm
  have hfailed : l.split.failedEntries = l.listing false := (l.listing_eq_values false).symm
  have differ : ∀ {id : String} {t t' : Tracked}, l.get? id = some t → l.get? id = some t' →
      t.isRunning = true → t'.isRunning = false → False := by
    intro id t t' ht ht' hr hr'
    rw [ht, Option.some.injEq] at ht'
    rw [← ht', hr] at hr'
    cases hr'
  refine ⟨rfl, rfl, fun l' h => Ledger.split_injective h, fun id => ?_, fun id e h => ?_,
    fun id e h => ?_, ?_, ?_, ?_, ?_⟩
  · cases hr : l.split.running.get? id with
    | none => exact Or.inl rfl
    | some e =>
      refine Or.inr (Option.eq_none_iff_forall_ne_some.mpr fun e' hf => ?_)
      obtain ⟨t, ht, hrun, _⟩ := (l.get?_outcome true id e).mp hr
      obtain ⟨t', ht', hrun', _⟩ := (l.get?_outcome false id e').mp hf
      exact differ ht ht' hrun hrun'
  · obtain ⟨t, _, hr, rfl⟩ := (l.get?_outcome true id e).mp h
    have hentry := t.entry_outcome id
    rw [if_pos hr] at hentry
    exact ⟨t.entry_id id, hentry⟩
  · obtain ⟨t, _, hr, rfl⟩ := (l.get?_outcome false id e).mp h
    have hentry := t.entry_outcome id
    rw [hr, if_neg Bool.false_ne_true] at hentry
    exact ⟨t.entry_id id, hentry⟩
  · rfl
  · rfl
  · rfl
  · dsimp only
    rw [hrunning, hfailed]
    refine ⟨l.listing_ascending true, l.listing_ascending false, fun id hid hid' => ?_,
      l.count_listings⟩
    obtain ⟨t, ht, hr⟩ := (l.mem_ids_listing true id).mp hid
    obtain ⟨t', ht', hr'⟩ := (l.mem_ids_listing false id).mp hid'
    exact differ ht ht' hr hr'

end JobKeeper
