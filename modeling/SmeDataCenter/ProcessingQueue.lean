import SmeDataCenter.CanonicalJson
import SmeDataCenter.Runs
import SmeDataCenter.StorageGarbage

/-!
# The processing queue

The repository behind the worker loop: claiming the next processing run, renewing its lease,
and the writes that end an attempt. Each call is one transaction with one reading of the clock,
given as its `now`; a call that throws leaves the database as it was. Every write that ends an
attempt is guarded by the lease: the run, the worker, the attempt and a deadline ahead.
-/

namespace SmeDataCenter

/-- Whose attempt a call is made for. -/
structure Lease where
  runId : String
  workerId : String
  attemptNumber : ℕ

/-! ### Conditions on a run -/

/-- A download owner can never borrow another job's claim, heartbeat or terminal path. -/
def downloadOwnerWhere (run : ProcessingRun) : Bool :=
  (run.jobType ≠ .structuredPartitionBundle && run.partitionDownloadRequestId.isNone) ||
    (run.jobType = .structuredPartitionBundle && run.partitionDownloadRequestId.isSome &&
      run.documentId.isNone && run.partitionImportJobId.isNone &&
      run.ledgerArtifactRequestItemId.isNone && run.ledgerArtifactRequestId.isNone &&
      run.ledgerPdfReconciliationRunId.isNone)

/-- `status`, `lockedBy`, `attemptNumber` and `lockedUntil` of `activeLeaseWhere`. -/
def leaseMatches (lease : Lease) (now : ℕ) (run : ProcessingRun) : Bool :=
  run.status = .running && run.lockedBy = some lease.workerId &&
    run.attemptNumber = lease.attemptNumber && run.lockedUntil.any (now < ·)

def activeLeaseWhere (lease : Lease) (now : ℕ) (allowDownload : Bool) (run : ProcessingRun) :
    Bool :=
  downloadOwnerWhere run && (allowDownload || run.jobType ≠ .structuredPartitionBundle) &&
    leaseMatches lease now run

/-- `/^evidence_document_index:[^:]+:\d+:phase3\.retrieval\.[^:]+$/u` -/
def isVersionedEvidenceReindexJob (jobKey : String) : Bool :=
  match jobKey.toList.splitOn ':' with
  | [kind, documentId, contentVersion, config] =>
    kind = "evidence_document_index".toList && documentId ≠ [] && contentVersion ≠ [] &&
      contentVersion.all (·.isDigit) && "phase3.retrieval.".toList.isPrefixOf config &&
      config ≠ "phase3.retrieval.".toList
  | _ => false

def endsWithVersion (jobKey retrievalConfigVersion : String) : Bool :=
  (':' :: retrievalConfigVersion.toList).isSuffixOf jobKey.toList

def isEvidenceReindexJobForConfig (jobKey retrievalConfigVersion : String) : Bool :=
  isVersionedEvidenceReindexJob jobKey && endsWithVersion jobKey retrievalConfigVersion

/-- The batches a claim takes up. -/
def ImportBatchStatus.claimable : ImportBatchStatus → Bool
  | .pending | .validating | .applying | .failed => true
  | _ => false

def LedgerArtifactRequestStatus.isActive : LedgerArtifactRequestStatus → Bool
  | .queued | .running => true
  | _ => false

def LedgerArtifactItemStatus.isActive : LedgerArtifactItemStatus → Bool
  | .queued | .running => true
  | _ => false

def PartitionDownloadStatus.isActive : PartitionDownloadStatus → Bool
  | .queued | .running => true
  | _ => false

def PartitionImportJobStatus.isActive : PartitionImportJobStatus → Bool
  | .queued | .processing => true
  | _ => false

namespace Database

/-- Create a run: its id and its unique columns are new. -/
def createRun (db : Database) (runId : String) (run : ProcessingRun) :
    Except WorkerError Database :=
  if (db.processingRuns.findMany fun _ r => r.owner.clash run.owner) ≠ [] then
    .error (.thrown "P2002")
  else do
    let processingRuns ← createOrThrow db.processingRuns runId run
    return { db with processingRuns }

/-! ### Claiming -/

/-- Some owner of the run waits for it. `config` is the retrieval configuration version of the
worker, if it has one. -/
def ownerWaits (db : Database) (config : Option String) (now : ℕ) (run : ProcessingRun) : Bool :=
  let document := run.documentId.bind db.documents.lookup
  (run.jobType = .ledgerPdfGenerate &&
    (run.ledgerArtifactRequestItemId.bind db.ledgerArtifactRequestItems.lookup).any
      (·.status.isActive)) ||
  (run.jobType = .ledgerPdfBundle &&
    (run.ledgerArtifactRequestId.bind db.ledgerArtifactRequests.lookup).any (·.status.isActive)) ||
  (run.jobType = .ledgerPdfReconcile &&
    (run.ledgerPdfReconciliationRunId.bind db.ledgerPdfReconciliationRuns.lookup).any
      (·.status.isActive)) ||
  (run.jobType = .structuredPartitionBundle &&
    (run.partitionDownloadRequestId.bind db.partitionDownloadRequests.lookup).any fun r =>
      r.status.isActive && now < r.expiresAt) ||
  (run.jobType = .structuredPartitionImport &&
    (run.partitionImportJobId.bind db.partitionImportJobs.lookup).any (·.status.isActive)) ||
  (run.jobType ≠ .structuredPartitionImport && run.jobType ≠ .structuredPartitionBundle &&
    document.any fun d => d.status = .pendingProcessing || d.status = .processing) ||
  (run.jobType = .evidenceDocumentIndex &&
    (config.any fun version => endsWithVersion run.jobKey version) &&
    document.any fun d =>
      d.status = .active && d.archivedAt.isNone && d.documentKind = some .evidence)

/-- The run is free, or its lease has run out. -/
def runIsDue (now : ℕ) (run : ProcessingRun) : Bool :=
  match run.status with
  | .queued | .retryScheduled => run.availableAt ≤ now
  | .running => run.lockedUntil.any (· < now)
  | _ => false

def eligible (db : Database) (config : Option String) (now : ℕ) (run : ProcessingRun) : Bool :=
  downloadOwnerWhere run && db.ownerWaits config now run && runIsDue now run

/-- `orderBy` priority, availableAt, createdAt, id. -/
def claimOrder (a b : String × ProcessingRun) : Prop :=
  a.2.priority < b.2.priority ∨ (a.2.priority = b.2.priority ∧
    (a.2.availableAt < b.2.availableAt ∨ (a.2.availableAt = b.2.availableAt ∧
      (a.2.createdAt < b.2.createdAt ∨ (a.2.createdAt = b.2.createdAt ∧ stringLe a.1 b.1)))))

instance : DecidableRel claimOrder := fun _ _ => inferInstanceAs (Decidable (_ ∨ _))

/-- The first eligible run in queue order. -/
def findNextRun (db : Database) (config : Option String) (now : ℕ) :
    Option (String × ProcessingRun) :=
  ((db.processingRuns.findMany fun _ run => db.eligible config now run)
    |>.insertionSort claimOrder).head?

end Database

structure StructuredImportClaim where
  importBatchId : String
  dataset : ImportDataset
  startDate : Option String
  endDate : Option String
  deriving DecidableEq

structure PartitionImportClaim where
  jobId : String
  dataset : PartitionDataset
  orderScope : Option OrderScope
  enterpriseKey : String
  enterpriseName : String
  confidentialityLevel : ℕ
  sourceChecksumSha256 : String
  sourceStartDate : String
  sourceEndDate : String
  temporaryObjectKey : ObjectKey
  deriving DecidableEq

/-- `ClaimedProcessingRun` -/
structure ClaimedProcessingRun where
  id : String
  orgId : String
  documentId : String
  retryCount : ℕ
  attemptNumber : ℕ
  jobType : ProcessingJobType
  partitionDownloadRequestId : Option String
  ledgerArtifactRequestItemId : Option String
  ledgerArtifactRequestId : Option String
  ledgerPdfReconciliationRunId : Option String
  lockedBy : Option String
  lockedUntil : Option ℕ
  isEvidenceReindex : Bool
  structuredImport : Option StructuredImportClaim
  partitionImport : Option PartitionImportClaim
  document : Option Document
  deriving DecidableEq

/-- The row a claim writes. -/
def ProcessingRun.claimed (run : ProcessingRun) (workerId : String) (lockedUntil now : ℕ) :
    ProcessingRun :=
  { run with
    status := .running, attemptNumber := run.attemptNumber + 1
    lockedBy := some workerId, lockedUntil := some lockedUntil, lastHeartbeatAt := some now
    startedAt := some now, finishedAt := none, errorCode := none, errorSummary := none }

def addSeconds (value seconds : ℕ) : ℕ := value + seconds * 1000

def toPartitionImportClaim (jobId : String) (job : PartitionImportJob) :
    Option PartitionImportClaim :=
  job.temporaryObjectKey.map fun temporaryObjectKey =>
    { jobId, dataset := job.dataset, orderScope := job.orderScope,
      enterpriseKey := job.enterpriseKey, enterpriseName := job.enterpriseName,
      confidentialityLevel := job.confidentialityLevel,
      sourceChecksumSha256 := job.sourceChecksumSha256, sourceStartDate := job.sourceStartDate,
      sourceEndDate := job.sourceEndDate, temporaryObjectKey }

namespace Database

/-- The document of the run, set to `processing` unless an active one is indexed again. -/
def claimDocument (seen db : Database) (run : ProcessingRun) (isEvidenceReindex : Bool) :
    Except WorkerError (Option Document × Database) :=
  match run.documentId with
  | none => .ok (none, db)
  | some documentId =>
    if isLedgerJob run.jobType then .ok (none, db)
    else if isEvidenceReindex then .ok (seen.documents.lookup documentId, db)
    else do
      let documents ← updateOrThrow db.documents documentId fun d => { d with status := .processing }
      return (documents.lookup documentId, { db with documents })

/-- The owner of a ledger job, set to `running`. -/
def claimLedgerOwner (db : Database) (run : ProcessingRun) (now : ℕ) :
    Except WorkerError Database :=
  match run.jobType, run.ledgerArtifactRequestItemId, run.ledgerArtifactRequestId,
      run.ledgerPdfReconciliationRunId with
  | .ledgerPdfGenerate, some itemId, _, _ => do
    let items ← updateOrThrow db.ledgerArtifactRequestItems itemId fun i =>
      { i with status := .running, errorCode := none }
    return { db with ledgerArtifactRequestItems := items }
  | .ledgerPdfBundle, _, some requestId, _ => do
    let requests ← updateOrThrow db.ledgerArtifactRequests requestId fun r =>
      { r with status := .running, errorCode := none }
    return { db with ledgerArtifactRequests := requests }
  | .ledgerPdfReconcile, _, _, some reconciliationId => do
    let runs ← updateOrThrow db.ledgerPdfReconciliationRuns reconciliationId fun r =>
      { r with status := .running, startedAt := some now }
    return { db with ledgerPdfReconciliationRuns := runs }
  | _, _, _, _ => return db

/-- The job of a partition import, set to `processing`. -/
def claimPartitionImport (seen db : Database) (runId : String) (run : ProcessingRun) :
    Except WorkerError Database :=
  if run.jobType = .structuredPartitionImport then
    match run.partitionImportJobId with
    | none => .error (.thrown ("Partition import job is not claimable for processing run " ++
        runId ++ "."))
    | some jobId =>
      if ((seen.partitionImportJobs.lookup jobId).bind (·.temporaryObjectKey)).isNone then
        .error (.thrown ("Partition import job is not claimable for processing run " ++
          runId ++ "."))
      else do
        let jobs ← updateOrThrow db.partitionImportJobs jobId fun job =>
          { job with status := .processing, errorCode := none, errorSummary := none }
        return { db with partitionImportJobs := jobs }
  else return db

/-- The batch of a structured import, set to `validating`. -/
def claimStructuredImport (seen db : Database) (runId : String) (run : ProcessingRun) :
    Except WorkerError (Option StructuredImportClaim × Database) :=
  if run.jobType = .structuredImport then
    match run.documentId with
    | none => .error (.thrown ("Structured import document is missing for processing run " ++
        runId ++ "."))
    | some documentId =>
      match (seen.importBatches.findMany fun _ b => b.sourceDocumentId = documentId &&
          b.orgId = run.orgId && b.status.claimable).head? with
      | none => .error (.thrown ("Structured import batch is not claimable for processing run " ++
          runId ++ "."))
      | some (batchId, batch) => do
        let importBatches ← updateOrThrow db.importBatches batchId fun b =>
          { b with status := .validating, errorCode := none, errorSummary := none }
        return (some ⟨batchId, batch.dataset, batch.startDate, batch.endDate⟩,
          { db with importBatches })
  else return (none, db)

/-- The compare-and-set of a claim: the row is still the one that was found, and still due. -/
def claimGuard (now : ℕ) (found current : ProcessingRun) : Bool :=
  downloadOwnerWhere current && current.status = found.status &&
    current.attemptNumber = found.attemptNumber && current.lockedBy = found.lockedBy &&
    current.lockedUntil = found.lockedUntil &&
    (if found.status = .running then current.lockedUntil.any (· < now)
      else current.availableAt ≤ now)

/-- What a claim writes for the run it has found in what it has `seen`. -/
def claimRun (seen db : Database) (config : Option String) (workerId : String)
    (leaseSeconds now : ℕ) (id : String) (run : ProcessingRun) :
    Except WorkerError (ClaimedProcessingRun × Database) := do
  let lockedUntil := addSeconds now leaseSeconds
  let isEvidenceReindex :=
    ((run.documentId.bind seen.documents.lookup).any (·.status = .active)) &&
      config.any fun version => isEvidenceReindexJobForConfig run.jobKey version
  let db := { db with
    processingRuns := db.processingRuns.update id (·.claimed workerId lockedUntil now) }
  let (document, db) ← claimDocument seen db run isEvidenceReindex
  let db ← db.claimLedgerOwner run now
  let db ← claimPartitionImport seen db id run
  let (structuredImport, db) ← claimStructuredImport seen db id run
  let claimed ← findUniqueOrThrow db.processingRuns id
  return ({ id, orgId := claimed.orgId, retryCount := claimed.retryCount
            documentId := (claimed.documentId <|> claimed.partitionImportJobId).getD id
            attemptNumber := claimed.attemptNumber, jobType := claimed.jobType
            partitionDownloadRequestId := claimed.partitionDownloadRequestId
            ledgerArtifactRequestItemId := claimed.ledgerArtifactRequestItemId
            ledgerArtifactRequestId := claimed.ledgerArtifactRequestId
            ledgerPdfReconciliationRunId := claimed.ledgerPdfReconciliationRunId
            lockedBy := claimed.lockedBy, lockedUntil := claimed.lockedUntil
            isEvidenceReindex, structuredImport, document
            partitionImport := claimed.partitionImportJobId.bind fun jobId =>
              (db.partitionImportJobs.lookup jobId).bind (toPartitionImportClaim jobId) }, db)

/-- Claim the first eligible run for a worker, if there is one. The transaction reads the database
as it was when it started reading, which is `seen`, and writes the one that is there by then. -/
def claimNextProcessingRun (seen db : Database) (config : Option String) (workerId : String)
    (leaseSeconds now : ℕ) : Except WorkerError (Option ClaimedProcessingRun × Database) :=
  match seen.findNextRun config now with
  | none => .ok (none, db)
  | some (id, run) =>
    match db.processingRuns.lookup id with
    | none => .ok (none, db)
    | some current =>
      if claimGuard now run current then
        (claimRun seen db config workerId leaseSeconds now id run).map fun (claimed, db) =>
          (some claimed, db)
      else .ok (none, db)

/-! ### Leased writes -/

/-- Write the leased run, or find the lease lost. -/
def updateLeased (db : Database) (lease : Lease) (now : ℕ) (allowDownload : Bool)
    (f : ProcessingRun → ProcessingRun) : Except WorkerError Database :=
  match db.processingRuns.lookup lease.runId with
  | none => .error .leaseLost
  | some run =>
    if activeLeaseWhere lease now allowDownload run then
      .ok { db with processingRuns := db.processingRuns.update lease.runId f }
    else .error .leaseLost

/-- The row of a run that has succeeded. -/
def succeed (now : ℕ) (run : ProcessingRun) : ProcessingRun :=
  { run with
    status := .succeeded, lockedBy := none, lockedUntil := none, errorCode := none
    errorSummary := none, finishedAt := some now }

/-- The row of a run whose lease is renewed. -/
def renew (leaseSeconds now : ℕ) (run : ProcessingRun) : ProcessingRun :=
  { run with lockedUntil := some (addSeconds now leaseSeconds), lastHeartbeatAt := some now }

/-- The row of a run whose lease has been seen to be active. -/
def touch (now : ℕ) (run : ProcessingRun) : ProcessingRun :=
  { run with lastHeartbeatAt := some now }

def heartbeatProcessingRun (db : Database) (lease : Lease) (leaseSeconds now : ℕ) :
    Except WorkerError Database :=
  db.updateLeased lease now true (renew leaseSeconds now)

def completePartitionProcessing (db : Database) (lease : Lease) (now : ℕ) :
    Except WorkerError Database :=
  match db.processingRuns.lookup lease.runId with
  | none => .error .leaseLost
  | some run =>
    if run.jobType = .structuredPartitionImport then db.updateLeased lease now false (succeed now)
    else .error .leaseLost

/-- `activation` is what `activateEvidenceReadRequirement` throws, if it does. -/
def completeEvidenceIndexing (db : Database) (lease : Lease) (documentId : String)
    (activation : Option String) (now : ℕ) : Except WorkerError Database := do
  let db ← db.updateLeased lease now false (succeed now)
  let run ← findUniqueOrThrow db.processingRuns lease.runId
  let document ← findUniqueOrThrow db.documents documentId
  if document.orgId ≠ run.orgId ∨ document.status = .archived ∨ document.archivedAt.isSome then
    throw (.thrown "RESOURCE_INVALID")
  else match activation with
  | some message => throw (.thrown message)
  | none =>
    let documents ← updateOrThrow db.documents documentId fun d => { d with status := .active }
    return { db with documents }

/-- The batch of a structured import, if it is in one of the given states. -/
def findBatch (db : Database) (importBatchId documentId orgId : String)
    (states : List ImportBatchStatus) : Option ImportBatch :=
  (db.importBatches.lookup importBatchId).filter fun b =>
    b.sourceDocumentId = documentId && b.orgId = orgId && states.contains b.status

def beginStructuredImportApply (db : Database) (lease : Lease)
    (documentId importBatchId : String) (now : ℕ) : Except WorkerError Database := do
  let db ← db.updateLeased lease now false (touch now)
  match (db.importBatches.lookup importBatchId).filter fun b =>
      b.sourceDocumentId = documentId && b.status = .validating with
  | none => throw (.thrown ("Structured import batch " ++ importBatchId ++
      " cannot begin applying."))
  | some _ =>
    return { db with
      importBatches := db.importBatches.update importBatchId fun b =>
        { b with status := .applying } }

/-- The row of a partition whose sources have changed. -/
def changedPartition (p : LedgerPdfPartition) : LedgerPdfPartition :=
  { p with dataRevision := p.dataRevision + 1 }

/-- A partition that is not there is created. -/
def markPartitionChanged (partitions : Table LedgerPartitionKey LedgerPdfPartition)
    (key : LedgerPartitionKey) : Table LedgerPartitionKey LedgerPdfPartition :=
  match partitions.lookup key with
  | some _ => partitions.update key changedPartition
  | none => partitions.insert key (changedPartition {})

/-- Each key once: `dataRevision` counts the changes of its sources. -/
def markLedgerPartitionsChanged (db : Database) (keys : List LedgerPartitionKey) : Database :=
  { db with
    ledgerPdfPartitions := keys.dedup.foldl markPartitionChanged db.ledgerPdfPartitions }

/-- The datasets whose rows `completeStructuredImport` can write. -/
def ImportDataset.hasRows : ImportDataset → Bool
  | .vip | .dishCatalog | .deliveryLedger | .supplierCatalog => true
  | _ => false

/-- `persistence` is what writing the read requirements and the rows throws, if it does;
`partitions` are the ledger partitions of the rows of a delivery ledger. -/
def completeStructuredImport (db : Database) (lease : Lease) (documentId importBatchId : String)
    (persistence : Option String) (partitions : List LedgerPartitionKey) (now : ℕ) :
    Except WorkerError Database := do
  let db ← db.updateLeased lease now false (succeed now)
  let run ← findUniqueOrThrow db.processingRuns lease.runId
  match db.findBatch importBatchId documentId run.orgId [.applying], persistence with
  | none, _ => throw (.thrown ("Structured import batch " ++ importBatchId ++ " cannot complete."))
  | some _, some message => throw (.thrown message)
  | some batch, none =>
    if ImportDataset.hasRows batch.dataset then do
      let documents ← updateOrThrow db.documents documentId fun d => { d with status := .active }
      let db := { db with
        documents
        importBatches := db.importBatches.update importBatchId fun b =>
          { b with status := .applied, errorCode := none, errorSummary := none } }
      return if batch.dataset = .deliveryLedger then db.markLedgerPartitionsChanged partitions
        else db
    else throw (.thrown "Unsupported structured dataset")

def structuredImportRejected : String := "STRUCTURED_IMPORT_REJECTED"

/-- The row of a run whose import is rejected. -/
def rejectRun (now : ℕ) (run : ProcessingRun) : ProcessingRun :=
  { run with
    status := .failed, lockedBy := none, lockedUntil := none
    errorCode := some structuredImportRejected
    errorSummary := some "Structured import validation failed.", finishedAt := some now }

def rejectStructuredImport (db : Database) (lease : Lease) (documentId importBatchId : String)
    (now : ℕ) : Except WorkerError Database := do
  let db ← db.updateLeased lease now false (rejectRun now)
  let run ← findUniqueOrThrow db.processingRuns lease.runId
  match db.findBatch importBatchId documentId run.orgId [.validating, .applying] with
  | none => throw (.thrown ("Structured import batch " ++ importBatchId ++ " cannot reject."))
  | some _ =>
    let documents ← updateOrThrow db.documents documentId fun d =>
      { d with status := .processingFailed }
    return { db with
      documents
      importBatches := db.importBatches.update importBatchId fun b =>
        { b with
          status := .rejected, errorCode := some structuredImportRejected
          errorSummary := some "Structured import validation failed." } }

end Database
end SmeDataCenter
