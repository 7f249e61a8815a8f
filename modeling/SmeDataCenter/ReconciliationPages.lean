import Mathlib.Data.Prod.Lex
import Mathlib.Data.List.Lex
import SmeDataCenter.LedgerRepairs

/-!
# Pages of a reconciliation

A reconciliation goes through the partitions of an organization page by page, in the order of the
bytes of the store and then of the date. An execution of a page reads where the reconciliation
is, lists the keys behind the cursor, lets at most four checkers go through them, and then writes
a checkpoint: under the lease of the run, and only if the reconciliation is still where the
execution has found it, the counts of the page are added and the cursor moves. Executions run
side by side; any of them can be slow, fail or be cut off at any point.
-/

namespace SmeDataCenter
namespace Reconciliation

open Runs

/-! ### Where a reconciliation is -/

inductive Phase where
  | facts
  | index
  | completed
  deriving DecidableEq

structure LedgerReconciliationCounters where
  scannedCount : ℕ := 0
  healthyCount : ℕ := 0
  abnormalCount : ℕ := 0
  submittedCount : ℕ := 0
  inflightSkippedCount : ℕ := 0
  failedCount : ℕ := 0

namespace LedgerReconciliationCounters

/-- The counts of a page are added to those of the reconciliation. -/
def increment (total counts : LedgerReconciliationCounters) : LedgerReconciliationCounters where
  scannedCount := total.scannedCount + counts.scannedCount
  healthyCount := total.healthyCount + counts.healthyCount
  abnormalCount := total.abnormalCount + counts.abnormalCount
  submittedCount := total.submittedCount + counts.submittedCount
  inflightSkippedCount := total.inflightSkippedCount + counts.inflightSkippedCount
  failedCount := total.failedCount + counts.failedCount

/-- Whatever was scanned has come out in one of four ways. -/
def Balanced (counts : LedgerReconciliationCounters) : Prop :=
  counts.scannedCount = counts.healthyCount + counts.submittedCount +
    counts.inflightSkippedCount + counts.failedCount

instance (counts : LedgerReconciliationCounters) : Decidable counts.Balanced :=
  inferInstanceAs (Decidable (_ = _))

lemma Balanced.increment {total counts : LedgerReconciliationCounters} (h : total.Balanced)
    (h' : counts.Balanced) : (total.increment counts).Balanced := by
  unfold Balanced at *
  dsimp only [LedgerReconciliationCounters.increment]
  omega

end LedgerReconciliationCounters

/-- The columns of a reconciliation that a checkpoint moves. A cursor is the last key of a page. -/
structure Progress where
  phase : Phase := .facts
  cursor : Option LedgerPartitionKey := none
  counters : LedgerReconciliationCounters := {}

/-- The bytes of a store name. -/
def storeBytes (storeName : String) : List ℕ := storeName.toUTF8.data.toList.map UInt8.toNat

/-- Keys are in the order of the bytes of the store, then of the date. -/
def position (key : LedgerPartitionKey) : List ℕ ×ₗ String :=
  toLex (storeBytes key.storeName, key.purchaseDate)

/-- The key is behind the cursor. -/
def isPast (cursor : Option LedgerPartitionKey) (key : LedgerPartitionKey) : Bool :=
  cursor.all fun last => position last < position key

/-- The keys of a page, and the cursor of the next one. -/
def listKeys (db : Database) (orgId : String) (cursor : Option LedgerPartitionKey) (limit : ℕ) :
    Except String (List LedgerPartitionKey × Option LedgerPartitionKey) :=
  if cursor.any (·.orgId ≠ orgId) then .error "LEDGER_CURSOR_INVALID"
  else
    let found := (((db.ledgerPdfPartitions.findMany fun key p =>
      key.orgId = orgId && isPast cursor key &&
        (p.publishedDataRevision ≠ some p.dataRevision || p.errorCode.isSome)).map
          (·.1)).insertionSort fun a b => position a ≤ position b).take (limit + 1)
    let keys := found.take limit
    .ok (keys, if limit < found.length then keys.getLast? else none)

lemma listKeys_next {db : Database} {orgId : String} {cursor next : Option LedgerPartitionKey}
    {limit : ℕ} {keys : List LedgerPartitionKey} {last : LedgerPartitionKey}
    (h : listKeys db orgId cursor limit = .ok (keys, next)) (hlast : next = some last) :
    isPast cursor last = true := by
  unfold listKeys at h
  split at h
  · cases h
  cases h
  split_ifs at hlast
  have hfound := List.mem_of_mem_take (List.mem_of_mem_take (List.mem_of_getLast? hlast))
  rw [List.mem_insertionSort] at hfound
  obtain ⟨⟨key, p⟩, hrow, rfl⟩ := List.mem_map.mp hfound
  obtain ⟨-, hp⟩ := Table.mem_findMany.mp hrow
  simp only [Bool.and_eq_true] at hp
  exact hp.1.2

/-! ### Executions of a page -/

/-- What a checker is at with a key, in its first or second attempt. -/
inductive Checker where
  | idle
  | observing (key : LedgerPartitionKey) (attempt : ℕ)
  | heading (key : LedgerPartitionKey) (attempt : ℕ) (partition : Option LedgerPdfPartition)
      (source : ObservedSources)
  | reserving (check : LedgerCheck) (attempt : ℕ)
  /-- The request it was given is there: is it its own? -/
  | reading (check : LedgerCheck) (attempt : ℕ) (requestId : String)
  | finished

/-- The checker has taken a key. -/
def Checker.isBusy : Checker → Bool
  | .idle | .finished => false
  | _ => true

def Checker.isFinished : Checker → Bool
  | .finished => true
  | _ => false

/-- An execution of a page: what it has read of the reconciliation, the page, and how far it is. -/
structure Execution where
  orgId : String
  runId : String
  lease : Lease
  limit : ℕ
  phase : Phase
  cursor : Option LedgerPartitionKey
  /-- The keys, once they are listed. -/
  keys : Option (List LedgerPartitionKey) := none
  nextCursor : Option LedgerPartitionKey := none
  taken : ℕ := 0
  counts : LedgerReconciliationCounters := {}
  checkers : List Checker := []
  /-- A checker has thrown: the execution fails, though the other checkers go on. -/
  rejected : Bool := false

/-- A page that has gone through its checkpoint. -/
structure Commit where
  runId : String
  keys : List LedgerPartitionKey
  cursor : Option LedgerPartitionKey
  nextCursor : Option LedgerPartitionKey
  counts : LedgerReconciliationCounters

/-- The database with the progress of its reconciliations, the executions under way, and the
checkpoints that have gone through, the first one first. -/
structure System where
  db : Database := {}
  progress : Table String Progress := ∅
  executions : Table ℕ Execution := ∅
  commits : List Commit := []

def System.progressOf (s : System) (runId : String) : Progress := (s.progress.lookup runId).getD {}

/-! ### One key -/

/-- The message of an error. -/
def message : WorkerError → String
  | .leaseLost => "LEASE_LOST"
  | .thrown code => code

namespace Execution

def setChecker (e : Execution) (i : ℕ) (checker : Checker) : Execution :=
  { e with checkers := e.checkers.set i checker }

/-- The checker throws out of its loop. -/
def reject (e : Execution) (i : ℕ) : Execution :=
  { e.setChecker i .finished with rejected := true }

/-- A key has come out healthy, submitted, or skipped because something is under way. -/
def settle (e : Execution) (i : ℕ) (check : LedgerCheck) (healthy submitted : Bool) : Execution :=
  { e.setChecker i .idle with
    counts := { e.counts with
      scannedCount := e.counts.scannedCount + 1
      abnormalCount := e.counts.abnormalCount + if check.needsRepair then 1 else 0
      healthyCount := e.counts.healthyCount + if healthy then 1 else 0
      submittedCount := e.counts.submittedCount + if !healthy && submitted then 1 else 0
      inflightSkippedCount :=
        e.counts.inflightSkippedCount + if !healthy && !submitted then 1 else 0 } }

/-- What is done about an error: a lost lease ends the page, a stale observation is made once
more, and everything else is counted as a failure. -/
def catchError (e : Execution) (i : ℕ) (key : LedgerPartitionKey) (attempt : ℕ) (code : String) :
    Execution :=
  if code = "LEDGER_RECONCILIATION_LEASE_LOST" ∨ code = "LEDGER_RECONCILIATION_ABORTED" then
    e.reject i
  else if code = "LEDGER_OBSERVATION_STALE" ∧ attempt = 0 then e.setChecker i (.observing key 1)
  else
    { e.setChecker i .idle with
      counts := { e.counts with
        scannedCount := e.counts.scannedCount + 1
        failedCount := e.counts.failedCount + 1 } }

/-- The checker takes the next key, or it is done. -/
def take (e : Execution) (i : ℕ) (aborted : Bool) : Execution :=
  match (e.keys.getD [])[e.taken]? with
  | none => e.setChecker i .finished
  | some key =>
    if aborted then e.reject i
    else { e.setChecker i (.observing key 0) with taken := e.taken + 1 }

/-- The checkers are through with the page, and none of them has thrown. -/
def done (e : Execution) : Bool :=
  e.keys.isSome && !e.rejected && e.checkers.all Checker.isFinished

/-- The phase that the checkpoint of the page writes. -/
def nextPhase (e : Execution) : Phase := if e.nextCursor.isSome then e.phase else .completed

end Execution

/-! ### Steps -/

/-- The execution stays under way. -/
def System.put (s : System) (n : ℕ) (e : Execution) : System :=
  { s with executions := s.executions.insert n e }

/-- The execution is over, or cut off. -/
def System.drop (s : System) (n : ℕ) : System :=
  { s with executions := s.executions.deleteMany fun k _ => k = n }

/-- `getState`, for a page of at most `limit` keys. -/
def System.getState (s : System) (n : ℕ) (runId : String) (lease : Lease) (limit now : ℕ) :
    System :=
  match s.db.ledgerPdfReconciliationRuns.lookup runId with
  | none => s
  | some run =>
    let progress := s.progressOf runId
    if (s.executions.lookup n).isSome ∨ limit < 1 ∨ 200 < limit ∨
        s.db.observationLeased run.orgId runId lease now = false ∨
        progress.phase = .completed then s
    else s.put n
      { orgId := run.orgId, runId, lease, limit, phase := progress.phase
        cursor := progress.cursor }

/-- `checkpoint`: the lease is checked under a lock on its run, and again when the run is given
back. -/
def System.checkpoint (s : System) (e : Execution) (now mutationTime : ℕ) :
    Except WorkerError System := do
  if !s.db.observationLeased e.orgId e.runId e.lease now then
    throw (.thrown "LEDGER_RECONCILIATION_LEASE_LOST")
  else
    let current := s.progressOf e.runId
    if current.phase ≠ e.phase ∨ current.cursor ≠ e.cursor then
      throw (.thrown "LEDGER_RECONCILIATION_CHECKPOINT_STALE")
    else do
      let failedCount := current.counters.failedCount + e.counts.failedCount
      let db ← s.db.checkpoint e.orgId e.runId e.lease (e.nextPhase = .completed)
        (failedCount ≠ 0) mutationTime
      return { s with
        db
        progress := s.progress.insert e.runId
          ⟨e.nextPhase, e.nextCursor, current.counters.increment e.counts⟩
        commits := s.commits ++
          [⟨e.runId, e.keys.getD [], e.cursor, e.nextCursor, e.counts⟩] }

/-- What happens in the system. An execution goes by its number, a checker by its place in it. -/
inductive Event where
  /-- Any other operation on the database. -/
  | operation (op : Operation)
  | getState (n : ℕ) (runId : String) (lease : Lease) (limit now : ℕ)
  | listKeys (n : ℕ)
  | take (n i : ℕ) (aborted : Bool)
  | observe (n i : ℕ) (source : Except String ObservedSources)
  | headObject (n i : ℕ) (head : Except String LedgerHead)
  | reserveRepair (n i : ℕ) (ids : RefreshIds) (refused : Option String)
      (sourceFingerprint : String) (clock : ℕ → ℕ)
  /-- Has the request been made by this reconciliation? -/
  | readOwn (n i : ℕ) (failure : Option String)
  | checkpoint (n now mutationTime : ℕ)
  /-- The worker is gone, with the execution. -/
  | crash (n : ℕ)

section

variable (config : Option String) (hashes : RepairHashes)

/-- A checker has seen the partition and its sources, and goes on to the object if there is one. -/
def Execution.observed (e : Execution) (i : ℕ) (key : LedgerPartitionKey) (attempt : ℕ)
    (partition : Option LedgerPdfPartition) : Except String ObservedSources → Execution
  | .error code => e.catchError i key attempt code
  | .ok source =>
    if partition.any (·.currentObjectKey.isSome) then
      e.setChecker i (.heading key attempt partition source)
    else e.setChecker i
      (.reserving ⟨e.runId, key, e.lease, partition, source, none⟩ attempt)

def Execution.headed (e : Execution) (i : ℕ) (key : LedgerPartitionKey) (attempt : ℕ)
    (partition : Option LedgerPdfPartition) (source : ObservedSources) :
    Except String LedgerHead → Execution
  | .error code => e.catchError i key attempt code
  | .ok head => e.setChecker i
      (.reserving ⟨e.runId, key, e.lease, partition, source, some head⟩ attempt)

/-- The answer of a reservation: none is needed, or a request that is still to be looked at. -/
def Execution.reserved (e : Execution) (i : ℕ) (check : LedgerCheck) (attempt : ℕ) :
    Except WorkerError (Option LedgerRequestRef) → Execution
  | .error error => e.catchError i check.key attempt (message error)
  | .ok none => e.settle i check true false
  | .ok (some request) => e.setChecker i (.reading check attempt request.requestId)

/-- The request is one of this reconciliation, for this partition. -/
def System.isOwn (s : System) (check : LedgerCheck) (requestId : String) : Bool :=
  (s.db.ledgerArtifactRequests.lookup requestId).any fun request =>
    request.orgId = check.key.orgId &&
      request.actor = .systemReconciler check.reconciliationId &&
      request.idempotencyKey = hashes.idempotencyKey check.reconciliationId check.key

/-- What a checker does next. -/
def System.stepChecker (s : System) (n i : ℕ) (f : Execution → Checker → System) : System :=
  match s.executions.lookup n with
  | none => s
  | some e =>
    match e.checkers[i]? with
    | none => s
    | some checker => f e checker

def System.observe (s : System) (n i : ℕ) (source : Except String ObservedSources) (e : Execution) :
    Checker → System
  | .observing key attempt =>
    s.put n (e.observed i key attempt (s.db.ledgerPdfPartitions.lookup key) source)
  | _ => s

def System.headObject (s : System) (n i : ℕ) (head : Except String LedgerHead) (e : Execution) :
    Checker → System
  | .heading key attempt partition source =>
    s.put n (e.headed i key attempt partition source head)
  | _ => s

def System.reserveRepair (s : System) (n i : ℕ) (ids : RefreshIds) (refused : Option String)
    (sourceFingerprint : String) (clock : ℕ → ℕ) (e : Execution) : Checker → System
  | .reserving check attempt =>
    let result := s.db.reserveRepair hashes check ids refused sourceFingerprint clock
    ({ s with db := s.db.after result } : System).put n
      (e.reserved i check attempt (result.map (·.1)))
  | _ => s

def System.readOwn (s : System) (n i : ℕ) (failure : Option String) (e : Execution) :
    Checker → System
  | .reading check attempt requestId =>
    s.put n (match failure with
      | some code => e.catchError i check.key attempt code
      | none => e.settle i check false (s.isOwn hashes check requestId))
  | _ => s

/-- A checker that is between two keys. -/
def System.take (s : System) (n i : ℕ) (aborted : Bool) (e : Execution) : Checker → System
  | .idle => s.put n (e.take i aborted)
  | _ => s

/-- The keys of the page, and its checkers. -/
def System.listKeys (s : System) (n : ℕ) : System :=
  match s.executions.lookup n with
  | none => s
  | some e =>
    if e.keys.isSome then s
    else match Reconciliation.listKeys s.db e.orgId e.cursor e.limit with
      | .error _ => s.drop n
      | .ok (keys, nextCursor) => s.put n
        { e with
          keys := some keys, nextCursor
          checkers := List.replicate (min 4 keys.length) .idle }

/-- An execution whose checkers are through writes its checkpoint, and is over. -/
def System.finish (s : System) (n now mutationTime : ℕ) : System :=
  match s.executions.lookup n with
  | none => s
  | some e =>
    if !e.done then s
    else (commit s (s.checkpoint e now mutationTime)).drop n

def step (s : System) : Event → System
  | .operation op => { s with db := s.db.step config op }
  | .getState n runId lease limit now => s.getState n runId lease limit now
  | .listKeys n => s.listKeys n
  | .take n i aborted => s.stepChecker n i (s.take n i aborted)
  | .observe n i source => s.stepChecker n i (s.observe n i source)
  | .headObject n i head => s.stepChecker n i (s.headObject n i head)
  | .reserveRepair n i ids refused sourceFingerprint clock =>
    s.stepChecker n i (s.reserveRepair hashes n i ids refused sourceFingerprint clock)
  | .readOwn n i failure => s.stepChecker n i (s.readOwn hashes n i failure)
  | .checkpoint n now mutationTime => s.finish n now mutationTime
  | .crash n => s.drop n

end

end Reconciliation
end SmeDataCenter
