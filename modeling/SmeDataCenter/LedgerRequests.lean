import SmeDataCenter.ProcessingFailure

/-!
# Requests of the ledger archive

How generations of ledger PDFs are requested: a refresh of partitions that are given at once, an
internal refresh whose partitions arrive page by page, the repair that a reconciliation asks
for, and the bundle of PDFs to download. A refresh raises the requested generation of each of
its partitions by one, and creates the item and the run of that generation. Ids of created rows
are given, and a call that meets one that is taken throws. What is outside of these tables is
given too: `refused` is what authorization, the key lengths and the organization throw.
-/

namespace SmeDataCenter

/-- A text for the id of the row under a key. -/
def LedgerPartitionKey.rowId (key : LedgerPartitionKey) : String :=
  toString key.orgId.length ++ "." ++ key.orgId ++ toString key.storeName.length ++ "." ++
    key.storeName ++ key.purchaseDate

def LedgerActor.priority : LedgerActor → ℤ
  | .systemReconciler _ => 20
  | _ => 10

/-- The run of a generation. -/
def ledgerPdfRun (orgId itemId : String) (actor : LedgerActor) (key : LedgerPartitionKey)
    (generation now : ℕ) : ProcessingRun where
  orgId := orgId
  jobType := .ledgerPdfGenerate
  jobKey := "ledger-pdf:" ++ key.rowId ++ ":" ++ toString generation
  priority := actor.priority
  ledgerArtifactRequestItemId := some itemId
  availableAt := now
  createdAt := now

/-- The run of a bundle. -/
def ledgerBundleRun (orgId requestId : String) (now : ℕ) : ProcessingRun where
  orgId := orgId
  jobType := .ledgerPdfBundle
  jobKey := "ledger-bundle:" ++ requestId
  ledgerArtifactRequestId := some requestId
  availableAt := now
  createdAt := now

/-- The run of a reconciliation. -/
def reconciliationRun (orgId reconciliationId : String) (now : ℕ) : ProcessingRun where
  orgId := orgId
  jobType := .ledgerPdfReconcile
  jobKey := "ledger-reconcile:" ++ reconciliationId
  ledgerPdfReconciliationRunId := some reconciliationId
  priority := 20
  availableAt := now
  createdAt := now

/-- The ids of the rows a refresh creates. -/
structure RefreshIds where
  request : String
  item : LedgerPartitionKey → String
  run : LedgerPartitionKey → String

structure LedgerRequestRef where
  requestId : String
  status : LedgerArtifactRequestStatus

structure LedgerReconciliationObservation where
  dataRevision : ℕ
  requestedGeneration : ℕ
  publishedGeneration : Option ℕ
  publishedSourceFingerprint : Option String
  currentObjectKey : Option ObjectKey
  checksumSha256 : Option String
  byteSize : Option ℕ
  errorCode : Option String
  publishedDataRevision : Option ℕ
  rowCount : Option ℕ
  sourceFingerprint : String
  needsRepair : Bool
  lease : Lease

/-- The partition is still as it was observed. -/
def observes (observation : LedgerReconciliationObservation) (current : LedgerPdfPartition) :
    Bool :=
  current.dataRevision = observation.dataRevision &&
    current.requestedGeneration = observation.requestedGeneration &&
    current.publishedGeneration = observation.publishedGeneration &&
    current.publishedSourceFingerprint = observation.publishedSourceFingerprint &&
    current.currentObjectKey = observation.currentObjectKey &&
    current.checksumSha256 = observation.checksumSha256 &&
    current.byteSize = observation.byteSize && current.errorCode = observation.errorCode &&
    current.publishedDataRevision = observation.publishedDataRevision &&
    current.rowCount = observation.rowCount

structure ReserveLedgerRefreshInput where
  orgId : String
  actor : LedgerActor
  idempotencyKey : String
  requestFingerprint : String
  keys : List LedgerPartitionKey
  onlyIfNeeded : Bool := false
  reconciliationObservation : Option LedgerReconciliationObservation := none

structure LedgerInternalRefreshState where
  requestId : String
  status : LedgerArtifactRequestStatus
  cursor : Option String
  complete : Bool

structure BeginLedgerInternalRefreshInput where
  orgId : String
  actor : LedgerActor
  idempotencyKey : String
  requestFingerprint : String

structure AppendInternalRefreshPageInput where
  orgId : String
  requestId : String
  expectedCursor : Option String
  nextCursor : Option String
  keys : List LedgerPartitionKey

structure ReserveBundleInput where
  orgId : String
  employeeId : String
  idempotencyKey : String
  fingerprint : String

def ledgerPageSize : ℕ := 200

def internalState (requestId : String) (request : LedgerArtifactRequest) :
    Except WorkerError LedgerInternalRefreshState :=
  match request.internalScope with
  | none => .error (.thrown "LEDGER_INTERNAL_SCOPE_INVALID")
  | some scope =>
    .ok { requestId, cursor := scope.enumerationCursor, complete := scope.enumerationComplete
          status := if scope.enumerationComplete then request.status
            else if request.status = .queued then .queued else .running }

/-- `matchingRequest` of a request that is there. -/
def matchingRequest (requestId : String) (request : LedgerArtifactRequest)
    (fingerprint : String) : Except WorkerError LedgerRequestRef :=
  if request.requestFingerprint ≠ fingerprint then
    .error (.thrown "LEDGER_IDEMPOTENCY_CONFLICT")
  else .ok ⟨requestId, request.status⟩

namespace Database

/-! ### Generations -/

/-- The row of a partition, created when it is not there. -/
def lockPartition (db : Database) (key : LedgerPartitionKey) : Database :=
  match db.ledgerPdfPartitions.lookup key with
  | some _ => db
  | none => { db with ledgerPdfPartitions := db.ledgerPdfPartitions.insert key {} }

/-- The next generation of a partition is requested. -/
def requestGeneration (db : Database) (key : LedgerPartitionKey) : Database :=
  let db := db.lockPartition key
  { db with
    ledgerPdfPartitions := db.ledgerPdfPartitions.update key fun p =>
      { p with requestedGeneration := p.requestedGeneration + 1 } }

/-- The items of a request for a partition. -/
def itemsFor (db : Database) (requestId : String) (key : LedgerPartitionKey) :
    List (String × LedgerArtifactRequestItem) :=
  db.ledgerArtifactRequestItems.findMany fun _ i => i.requestId = requestId && i.partitionId = key

/-- The item and the run of the generation that is requested of a partition. -/
def enqueuePartition (orgId : String) (actor : LedgerActor) (requestId : String)
    (ids : RefreshIds) (now : ℕ) (db : Database) (key : LedgerPartitionKey) :
    Except WorkerError Database := do
  let partition ← findUniqueOrThrow db.ledgerPdfPartitions key
  if db.itemsFor requestId key ≠ [] then throw (.thrown "P2002")
  else do
    let ledgerArtifactRequestItems ← createOrThrow db.ledgerArtifactRequestItems (ids.item key)
      { orgId, requestId, partitionId := key, generation := partition.requestedGeneration
        dataRevision := partition.dataRevision }
    let db := { db with ledgerArtifactRequestItems }
    db.createRun (ids.run key)
      (ledgerPdfRun orgId (ids.item key) actor key partition.requestedGeneration now)

def enqueuePartitions (db : Database) (orgId : String) (actor : LedgerActor)
    (requestId : String) (ids : RefreshIds) (keys : List LedgerPartitionKey) (now : ℕ) :
    Except WorkerError Database :=
  keys.foldlM (enqueuePartition orgId actor requestId ids now) db

/-- The request under an idempotency key. -/
def findRequest (db : Database) (orgId idempotencyKey : String) :
    Option (String × LedgerArtifactRequest) :=
  (db.ledgerArtifactRequests.findMany fun _ r =>
    r.orgId = orgId && r.idempotencyKey = idempotencyKey).head?

def createRequest (db : Database) (requestId : String) (request : LedgerArtifactRequest) :
    Except WorkerError Database :=
  if (db.findRequest request.orgId request.idempotencyKey).isSome then
    .error (.thrown "P2002")
  else do
    let ledgerArtifactRequests ← createOrThrow db.ledgerArtifactRequests requestId request
    return { db with ledgerArtifactRequests }

/-! ### Internal refreshes -/

def beginInternalRefresh (db : Database) (input : BeginLedgerInternalRefreshInput)
    (requestId : String) (refused : Option String) :
    Except WorkerError (LedgerInternalRefreshState × Database) :=
  match refused, db.findRequest input.orgId input.idempotencyKey with
  | some code, _ => .error (.thrown code)
  | none, some (existingId, existing) => do
    let _ ← matchingRequest existingId existing input.requestFingerprint
    let state ← internalState existingId existing
    return (state, db)
  | none, none => do
    let request : LedgerArtifactRequest :=
      { orgId := input.orgId, kind := .refresh, actor := input.actor
        idempotencyKey := input.idempotencyKey, requestFingerprint := input.requestFingerprint
        internalScope := some ⟨none, false⟩ }
    let db ← db.createRequest requestId request
    let state ← internalState requestId request
    return (state, db)

def appendInternalRefreshPage (db : Database) (input : AppendInternalRefreshPageInput)
    (ids : RefreshIds) (refused : Option String) (now : ℕ) :
    Except WorkerError (LedgerInternalRefreshState × Database) :=
  if ledgerPageSize < input.keys.length then .error (.thrown "LEDGER_PAGE_LIMIT_EXCEEDED")
  else if input.keys.any (·.orgId ≠ input.orgId) then .error (.thrown "LEDGER_ORG_MISMATCH")
  else match refused, (db.ledgerArtifactRequests.lookup input.requestId).filter fun r =>
      r.orgId = input.orgId && r.kind = .refresh with
  | some code, _ => .error (.thrown code)
  | none, none => .error (.thrown "LEDGER_REQUEST_NOT_FOUND")
  | none, some request => do
    let state ← internalState input.requestId request
    -- another client may already have committed this page
    if state.complete ∨ state.cursor ≠ input.expectedCursor then return (state, db)
    else do
      let fresh := input.keys.dedup.filter fun key => (db.itemsFor input.requestId key).isEmpty
      let db := input.keys.dedup.foldl (fun db key =>
        if fresh.contains key then db.requestGeneration key else db.lockPartition key) db
      let db ← db.enqueuePartitions input.orgId request.actor input.requestId ids fresh now
      let complete := input.nextCursor.isNone
      let statuses := (db.ledgerArtifactRequestItems.findMany fun _ i =>
        i.orgId = input.orgId && i.requestId = input.requestId).map (·.2.status)
      let status := if complete then reduceLedgerRequestStatus statuses else .running
      let db := { db with
        ledgerArtifactRequests := db.ledgerArtifactRequests.update input.requestId fun r =>
          { r with internalScope := some ⟨input.nextCursor, complete⟩, status } }
      return (⟨input.requestId, status, input.nextCursor, complete⟩, db)

/-! ### Refreshes -/

/-- The lease of the reconciliation that made an observation. -/
def observationLeased (db : Database) (orgId reconciliationRunId : String) (lease : Lease)
    (now : ℕ) : Bool :=
  (db.processingRuns.lookup lease.runId).any fun run =>
    run.orgId = orgId && run.jobType = .ledgerPdfReconcile &&
      run.ledgerPdfReconciliationRunId = some reconciliationRunId && leaseMatches lease now run

/-- What an observation is refused for. -/
def observationError (db : Database) (input : ReserveLedgerRefreshInput) (now : ℕ) :
    Option String :=
  match input.reconciliationObservation, input.actor with
  | none, _ => none
  | some observation, .systemReconciler reconciliationRunId =>
    if !input.onlyIfNeeded then some "LEDGER_OBSERVATION_INVALID"
    else if db.observationLeased input.orgId reconciliationRunId observation.lease now then none
    else some "LEDGER_RECONCILIATION_LEASE_LOST"
  | some _, _ => some "LEDGER_OBSERVATION_INVALID"

/-- The generation of the partition that is requested, and not yet over. -/
def inflightItem (db : Database) (orgId : String) (key : LedgerPartitionKey)
    (current : LedgerPdfPartition) : Option (String × LedgerArtifactRequestItem) :=
  (db.ledgerArtifactRequestItems.findMany fun id i =>
    i.orgId = orgId && i.partitionId = key && i.generation = current.requestedGeneration &&
      i.dataRevision = current.dataRevision && i.status.isActive &&
      ((db.processingRuns.findMany fun _ r =>
        r.ledgerArtifactRequestItemId = some id && r.status.isLive).isEmpty = false)).head?

/-- The answer to a request that is only made if needed, when it is not. -/
def settledRefresh (db : Database) (input : ReserveLedgerRefreshInput)
    (existing : Option (String × LedgerArtifactRequest)) (sourceFingerprint : String)
    (key : LedgerPartitionKey) : Except WorkerError (Option (Option LedgerRequestRef)) := do
  let current ← findUniqueOrThrow db.ledgerPdfPartitions key
  let tracked ← match input.reconciliationObservation, existing with
    | none, _ => .ok none
    | some observation, existing =>
      if !observes observation current || sourceFingerprint ≠ observation.sourceFingerprint then
        .error (.thrown "LEDGER_OBSERVATION_STALE")
      else match existing with
      | none => .ok none
      | some (existingId, request) =>
        if (db.itemsFor existingId key).isEmpty then .error (.thrown "P2025")
        else (matchingRequest existingId request input.requestFingerprint).map some
  match tracked with
  | some answer => return some (some answer)
  | none =>
    match db.inflightItem input.orgId key current with
    | some (_, item) => do
      let request ← findUniqueOrThrow db.ledgerArtifactRequests item.requestId
      return some (some ⟨item.requestId, request.status⟩)
    | none =>
      let settled := match input.reconciliationObservation with
        | some observation => !observation.needsRepair
        | none => current.currentObjectKey.isSome &&
            current.publishedDataRevision = some current.dataRevision &&
            current.errorCode.all (· = "")
      return if settled then some none else none

/-- Request the next generation of each partition. -/
def requestRefresh (db : Database) (input : ReserveLedgerRefreshInput) (ids : RefreshIds)
    (keys : List LedgerPartitionKey) (now : ℕ) :
    Except WorkerError (Option LedgerRequestRef × Database) := do
  let status : LedgerArtifactRequestStatus := if keys = [] then .succeeded else .queued
  let db := keys.foldl requestGeneration db
  let db ← db.createRequest ids.request
    { orgId := input.orgId, kind := .refresh, actor := input.actor, status
      idempotencyKey := input.idempotencyKey, requestFingerprint := input.requestFingerprint }
  let db ← db.enqueuePartitions input.orgId input.actor ids.request ids keys now
  return (some ⟨ids.request, status⟩, db)

/-- Reserve a refresh; `none` when none is needed. `sourceFingerprint` is that of the sources as
they are. -/
def reserveRefresh (db : Database) (input : ReserveLedgerRefreshInput) (ids : RefreshIds)
    (refused : Option String) (sourceFingerprint : String) (now : ℕ) :
    Except WorkerError (Option LedgerRequestRef × Database) :=
  if input.keys.any (·.orgId ≠ input.orgId) then .error (.thrown "LEDGER_ORG_MISMATCH")
  else match refused <|> db.observationError input now with
  | some code => .error (.thrown code)
  | none =>
    match db.findRequest input.orgId input.idempotencyKey, input.reconciliationObservation with
    | some (existingId, existing), none => do
      let answer ← matchingRequest existingId existing input.requestFingerprint
      return (some answer, db)
    | existing, _ =>
      if !input.onlyIfNeeded then db.requestRefresh input ids input.keys.dedup now
      else match input.keys.dedup with
      | [key] => do
        let db := db.lockPartition key
        match ← db.settledRefresh input existing sourceFingerprint key with
        | some answer => return (answer, db)
        | none => db.requestRefresh input ids [key] now
      | _ => .error (.thrown "LEDGER_PARTITION_KEY_INVALID")

/-! ### Bundles and reconciliations -/

def reserveBundle (db : Database) (input : ReserveBundleInput) (requestId runId : String)
    (refused : Option String) (now : ℕ) : Except WorkerError (LedgerRequestRef × Database) :=
  match db.findRequest input.orgId input.idempotencyKey with
  | some (existingId, existing) => do
    let answer ← matchingRequest existingId existing input.fingerprint
    return (answer, db)
  | none =>
    match refused with
    | some code => .error (.thrown code)
    | none => do
      let db ← db.createRequest requestId
        { orgId := input.orgId, kind := .download, actor := .employee input.employeeId
          idempotencyKey := input.idempotencyKey, requestFingerprint := input.fingerprint }
      let db ← db.createRun runId (ledgerBundleRun input.orgId requestId now)
      return (⟨requestId, .queued⟩, db)

/-- The reconciliation of an organization that is not finished, or the one of the day, or a new
one. -/
def findReconciliation (db : Database) (orgId scheduleDate reconciliationId : String) :
    Except WorkerError ((String × LedgerPdfReconciliationRun) × Database) :=
  let unfinished := (db.ledgerPdfReconciliationRuns.findMany fun _ r =>
    r.orgId = orgId && !r.completed && r.status.isActive).head?
  let ofDay := (db.ledgerPdfReconciliationRuns.findMany fun _ r =>
    r.orgId = orgId && r.scheduleDate = scheduleDate).head?
  match unfinished <|> ofDay with
  | some found => .ok (found, db)
  | none => do
    let run : LedgerPdfReconciliationRun := { orgId, scheduleDate }
    let ledgerPdfReconciliationRuns ←
      createOrThrow db.ledgerPdfReconciliationRuns reconciliationId run
    return ((reconciliationId, run), { db with ledgerPdfReconciliationRuns })

/-- The run of the reconciliation of a day is created once. -/
def scheduleReconciliation (db : Database) (orgId scheduleDate reconciliationId runId : String)
    (now : ℕ) : Except WorkerError Database := do
  let ((id, run), db) ← db.findReconciliation orgId scheduleDate reconciliationId
  let created := reconciliationRun orgId id now
  if !run.completed && run.status.isActive &&
      (db.processingRuns.findMany fun _ r => r.jobKey = created.jobKey).isEmpty then
    db.createRun runId created
  else return db

/-- The end of a page of a reconciliation: the run is given back, or succeeds with the last
page. -/
def checkpoint (db : Database) (orgId reconciliationId : String) (lease : Lease)
    (completed failed : Bool) (now : ℕ) : Except WorkerError Database :=
  if db.observationLeased orgId reconciliationId lease now then do
    let ledgerPdfReconciliationRuns ← updateOrThrow db.ledgerPdfReconciliationRuns
      reconciliationId fun r =>
        { r with
          completed, startedAt := some (r.startedAt.getD now)
          status := if completed then (if failed then .partialFailed else .succeeded)
            else .running
          finishedAt := if completed then some now else none }
    return { db with
      ledgerPdfReconciliationRuns
      processingRuns := db.processingRuns.update lease.runId fun run =>
        { run with
          status := if completed then .succeeded else .queued, availableAt := now
          lockedBy := none, lockedUntil := none, lastHeartbeatAt := none
          finishedAt := if completed then some now else none
          errorCode := if failed then some "LEDGER_RECONCILIATION_CHECK_FAILED" else none
          errorSummary := if failed then some "One or more ledger metadata checks failed."
            else none } }
  else .error (.thrown "LEDGER_RECONCILIATION_LEASE_LOST")

end Database
end SmeDataCenter
