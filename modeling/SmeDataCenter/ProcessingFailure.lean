import SmeDataCenter.ProcessingQueue

/-!
# Failed attempts

What `failProcessingRun` writes: the run is queued again or ended, and its owner with it. A
bundle of partitions that is not tried again goes through the repository of its download, which
ends the run together with the request; an expired request ends there whatever the attempt says.
-/

namespace SmeDataCenter

/-- Where the status of an item counts in `reduceLedgerRequestStatus`. -/
def reduceLedgerRequestStatus (statuses : List LedgerArtifactItemStatus) :
    LedgerArtifactRequestStatus :=
  let done (s : LedgerArtifactItemStatus) : Bool := s = .empty || s = .succeeded
  if statuses.all done then .succeeded
  else if statuses.all (· = .queued) then .queued
  else if statuses.any (·.isActive) then .running
  else if statuses.any done then .partialFailed
  else .failed

structure FailProcessingRunInput where
  documentId : String
  errorCode : String
  errorSummary : String
  willRetry : Bool
  nextAvailableAt : ℕ

/-- The codes of a failed download that are passed on. -/
def safeDownloadErrorCode (errorCode : String) : String :=
  if ["PARTITION_DOWNLOAD_STALE", "PARTITION_DOWNLOAD_FORBIDDEN",
      "PARTITION_DOWNLOAD_LIMIT_EXCEEDED", "PARTITION_DOWNLOAD_SOURCE_INVALID",
      "PARTITION_DOWNLOAD_FAILED"].contains errorCode then errorCode
  else "PARTITION_DOWNLOAD_FAILED"

/-- `downloadOwner` -/
def downloadOwner (orgId requestId : String) (run : ProcessingRun) : Bool :=
  run.orgId = orgId && run.partitionDownloadRequestId = some requestId &&
    run.jobType = .structuredPartitionBundle && run.documentId.isNone &&
    run.partitionImportJobId.isNone && run.ledgerArtifactRequestId.isNone &&
    run.ledgerArtifactRequestItemId.isNone && run.ledgerPdfReconciliationRunId.isNone

def ProcessingRunStatus.isLive : ProcessingRunStatus → Bool
  | .queued | .running | .retryScheduled => true
  | _ => false

namespace Database

/-! ### Partition downloads -/

/-- End a request and its run. -/
def terminate (db : Database) (requestId : String) (row : PartitionDownloadRequest)
    (status : PartitionDownloadStatus) (code : String) (now : ℕ) : Database :=
  let db := match row.objectKey with
    | some objectKey => db.enqueueStorageGarbage objectKey code now none
    | none => db
  { db with
    processingRuns := db.processingRuns.updateMany
      (fun _ run => downloadOwner row.orgId requestId run && run.status.isLive) fun run =>
      { run with
        status := .failed, errorCode := some code, errorSummary := some code, lockedBy := none
        lockedUntil := none, finishedAt := some now }
    partitionDownloadRequests := db.partitionDownloadRequests.update requestId fun r =>
      { r with
        status, errorCode := some code, objectKey := none, byteSize := none
        checksumSha256 := none } }

/-- `fail`: false when the lease is lost or the request is over. -/
def failPartitionDownload (db : Database) (lease : Lease) (orgId requestId errorCode : String)
    (now : ℕ) : Bool × Database :=
  match (db.partitionDownloadRequests.lookup requestId).filter (·.orgId = orgId),
      (db.processingRuns.lookup lease.runId).filter fun run =>
        downloadOwner orgId requestId run && leaseMatches lease now run with
  | some row, some _ =>
    if !row.status.isActive then (false, db)
    else if row.expiresAt ≤ now then
      (false, db.terminate requestId row .expired "PARTITION_DOWNLOAD_EXPIRED" now)
    else (true, db.terminate requestId row .failed (safeDownloadErrorCode errorCode) now)
  | _, _ => (false, db)

/-! ### The owners of a failed run -/

def updateLedgerRefreshRequestStatus (db : Database) (orgId requestId : String) :
    Except WorkerError Database :=
  match (db.ledgerArtifactRequests.lookup requestId).filter (·.orgId = orgId) with
  | none => .error (.thrown "P2025")
  | some request =>
    let statuses := (db.ledgerArtifactRequestItems.findMany fun _ i =>
      i.orgId = orgId && i.requestId = requestId).map (·.2.status)
    let status := match request.internalScope with
      | some ⟨_, false⟩ => LedgerArtifactRequestStatus.running
      | _ => reduceLedgerRequestStatus statuses
    .ok { db with
      ledgerArtifactRequests := db.ledgerArtifactRequests.update requestId fun r =>
        { r with status } }

def failLedgerItem (db : Database) (run : ProcessingRun) (input : FailProcessingRunInput) :
    Except WorkerError Database :=
  match run.ledgerArtifactRequestItemId with
  | none => .ok db
  | some itemId => do
    let item ← findUniqueOrThrow db.ledgerArtifactRequestItems itemId
    let db := { db with
      ledgerArtifactRequestItems := db.ledgerArtifactRequestItems.update itemId fun i =>
        { i with
          status := if input.willRetry then .queued else .failed
          errorCode := some input.errorCode } }
    let db ← db.updateLedgerRefreshRequestStatus run.orgId item.requestId
    return { db with
      ledgerPdfPartitions := db.ledgerPdfPartitions.updateMany
        (fun key p => key = item.partitionId && key.orgId = run.orgId &&
          p.requestedGeneration = item.generation)
        fun p => { p with errorCode := some input.errorCode } }

def failLedgerRequest (db : Database) (run : ProcessingRun) (input : FailProcessingRunInput) :
    Except WorkerError Database :=
  match run.ledgerArtifactRequestId with
  | none => .ok db
  | some requestId => do
    let requests ← updateOrThrow db.ledgerArtifactRequests requestId fun r =>
      { r with
        status := if input.willRetry then .queued else .failed
        errorCode := some input.errorCode }
    return { db with ledgerArtifactRequests := requests }

def failLedgerReconciliation (db : Database) (run : ProcessingRun)
    (input : FailProcessingRunInput) (now : ℕ) : Except WorkerError Database :=
  match run.ledgerPdfReconciliationRunId with
  | none => .ok db
  | some reconciliationId => do
    let runs ← updateOrThrow db.ledgerPdfReconciliationRuns reconciliationId fun r =>
      { r with
        status := if input.willRetry then .queued else .failed
        finishedAt := if input.willRetry then r.finishedAt else some now }
    return { db with ledgerPdfReconciliationRuns := runs }

def failStructuredImport (db : Database) (run : ProcessingRun) (input : FailProcessingRunInput) :
    Database :=
  if run.jobType = .structuredImport then
    { db with
      importBatches := db.importBatches.updateMany
        (fun _ b => b.sourceDocumentId = input.documentId && b.orgId = run.orgId &&
          b.status.claimable)
        fun b =>
          if input.willRetry then { b with status := .pending }
          else
            { b with
              status := .failed, errorCode := some input.errorCode
              errorSummary := some input.errorSummary } }
  else db

/-- The job of a partition import: its status is not looked at. -/
def failPartitionImport (db : Database) (run : ProcessingRun) (input : FailProcessingRunInput)
    (now : ℕ) : Except WorkerError Database :=
  match run.jobType, run.partitionImportJobId with
  | .structuredPartitionImport, some jobId => do
    let jobs ← updateOrThrow db.partitionImportJobs jobId fun job =>
      { job with
        status := if input.willRetry then .queued else .failed
        errorCode := some input.errorCode, errorSummary := some input.errorSummary
        finishedAt := if input.willRetry then job.finishedAt else some now }
    return { db with partitionImportJobs := jobs }
  | _, _ => .ok db

/-- The document, unless it is evidence that stays active while it is indexed again. -/
def failDocument (db : Database) (run : ProcessingRun) (input : FailProcessingRunInput) :
    Except WorkerError Database :=
  match run.documentId with
  | none => .ok db
  | some documentId =>
    if run.jobType = .evidenceDocumentIndex ∧ isVersionedEvidenceReindexJob run.jobKey ∧
        (db.documents.lookup documentId).any (·.status = .active) then .ok db
    else do
      let documents ← updateOrThrow db.documents documentId fun d =>
        { d with status := if input.willRetry then .pendingProcessing else .processingFailed }
      return { db with documents }

/-- The owners of a run whose attempt has failed. -/
def failOwners (db : Database) (run : ProcessingRun) (input : FailProcessingRunInput) (now : ℕ) :
    Except WorkerError Database :=
  if run.jobType = .structuredPartitionBundle then .ok db
  else if isLedgerJob run.jobType then do
    let db ← db.failLedgerItem run input
    let db ← db.failLedgerRequest run input
    db.failLedgerReconciliation run input now
  else do
    let db ← (db.failStructuredImport run input).failPartitionImport run input now
    db.failDocument run input

/-- The row of a run whose attempt has failed. -/
def failedRun (input : FailProcessingRunInput) (now : ℕ) (run : ProcessingRun) : ProcessingRun :=
  { run with
    status := if input.willRetry then .retryScheduled else .failed
    retryCount := run.retryCount + 1, lockedBy := none, lockedUntil := none
    availableAt := input.nextAvailableAt, errorCode := some input.errorCode
    errorSummary := some input.errorSummary, finishedAt := some now }

/-- The transaction of a failed attempt that is not the end of a bundle. -/
def failLeasedRun (db : Database) (lease : Lease) (input : FailProcessingRunInput) (now : ℕ) :
    Except WorkerError Database := do
  let db ← db.updateLeased lease now true (failedRun input now)
  let run ← findUniqueOrThrow db.processingRuns lease.runId
  db.failOwners run input now

/-- What the call throws, if it throws, and the database after it. -/
def failProcessingRun (db : Database) (lease : Lease) (input : FailProcessingRunInput)
    (now : ℕ) : Option WorkerError × Database :=
  match db.processingRuns.lookup lease.runId with
  | none => (some (.thrown "P2025"), db)
  | some owner =>
    if owner.jobType = .structuredPartitionBundle ∧ input.willRetry = false then
      match owner.partitionDownloadRequestId with
      | none => (some .leaseLost, db)
      | some requestId =>
        match db.failPartitionDownload lease owner.orgId requestId input.errorCode now with
        | (true, db) => (none, db)
        | (false, db) => (some .leaseLost, db)
    else match db.failLeasedRun lease input now with
      | .ok db => (none, db)
      | .error error => (some error, db)

end Database
end SmeDataCenter
