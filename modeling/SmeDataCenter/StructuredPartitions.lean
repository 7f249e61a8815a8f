import SmeDataCenter.ProcessingQueue

/-!
# Structured partitions

Partition import jobs, from the reservation of an upload to a terminal status, and the atomic
publication of the partitions of one source. What a call is refused for by the organization's
authorization (administrators, declared order scopes, confirmed transitions, historical intents)
is given to it as `refused`, the code it throws there.
-/

namespace SmeDataCenter

/-- The statuses a job ends in. -/
def PartitionImportJobStatus.isTerminal : PartitionImportJobStatus → Bool
  | .published | .rejected | .failed | .cancelled | .expired => true
  | _ => false

structure PartitionCandidate where
  id : String
  orgId : String
  enterpriseKey : String
  enterpriseName : String
  dataset : PartitionDataset
  orderScope : Option OrderScope
  storeKey : String
  merchantId : Option String
  storeName : String
  businessDate : String
  objectKey : ObjectKey
  rowCount : ℕ
  byteSize : ℕ
  checksumSha256 : String
  confidentialityLevel : ℕ

/-- `partitionIdentityWhere` -/
def PartitionCandidate.identity (candidate : PartitionCandidate) : PartitionIdentity :=
  ⟨candidate.orgId, candidate.enterpriseKey, candidate.dataset, candidate.storeKey,
    candidate.businessDate⟩

inductive ReplacementAction where
  | insert
  | keep
  | updateMetadata
  | replace
  deriving DecidableEq

structure ReplacementDecision where
  action : ReplacementAction
  objectKey : ObjectKey
  garbageObjectKeys : List ObjectKey

/-- The columns that are compared when the checksums agree. -/
def metadataMatches (current : StructuredPartition) (candidate : PartitionCandidate) : Bool :=
  effectiveOrderScope candidate.dataset current.orderScope =
      effectiveOrderScope candidate.dataset candidate.orderScope &&
    current.confidentialityLevel = candidate.confidentialityLevel &&
    current.enterpriseName = candidate.enterpriseName &&
    current.merchantId = candidate.merchantId && current.storeName = candidate.storeName &&
    current.rowCount = candidate.rowCount && current.byteSize = candidate.byteSize

def decidePartitionReplacement (current : Option StructuredPartition)
    (candidate : PartitionCandidate) : ReplacementDecision :=
  match current with
  | none => ⟨.insert, candidate.objectKey, []⟩
  | some current =>
    if current.checksumSha256 ≠ candidate.checksumSha256 then
      ⟨.replace, candidate.objectKey, [current.objectKey]⟩
    else ⟨if metadataMatches current candidate then .keep else .updateMetadata,
      current.objectKey, [candidate.objectKey]⟩

/-- `partitionCreate` -/
def partitionCreate (candidate : PartitionCandidate) (jobId : String) : StructuredPartition where
  id := candidate.id
  orderScope := effectiveOrderScope candidate.dataset candidate.orderScope
  enterpriseName := candidate.enterpriseName
  merchantId := candidate.merchantId
  storeName := candidate.storeName
  rowCount := candidate.rowCount
  byteSize := candidate.byteSize
  checksumSha256 := candidate.checksumSha256
  confidentialityLevel := candidate.confidentialityLevel
  publishedByJobId := jobId
  objectKey := candidate.objectKey

/-- `partitionMetadata`, written over a partition. -/
def partitionMetadata (candidate : PartitionCandidate) (jobId : String)
    (current : StructuredPartition) : StructuredPartition :=
  { partitionCreate candidate jobId with
    id := current.id, version := current.version, objectKey := current.objectKey }

structure ReserveUploadInput where
  id : String
  orgId : String
  uploaderId : String
  dataset : PartitionDataset
  orderScope : Option OrderScope
  enterpriseKey : String
  enterpriseName : String
  confidentialityLevel : ℕ
  idempotencyKey : String
  requestFingerprint : String
  sourceChecksumSha256 : String
  sourceStartDate : String
  sourceEndDate : String
  expiresAt : ℕ
  temporaryObjectKey : ObjectKey
  multipartUploadId : String

/-- `validateOrderScopeDataset`: only an in-store source declares a scope, and it never declares
the unknown one. -/
def validateOrderScopeDataset (dataset : PartitionDataset) (orderScope : Option OrderScope) :
    Bool :=
  match orderScope with
  | none => true
  | some scope => dataset = .inStoreOrders && scope ≠ .legacyUnknown

/-- The statuses `finishJob` is called with. -/
inductive FinishStatus where
  | rejected
  | failed
  | cancelled
  | expired
  deriving DecidableEq

def FinishStatus.jobStatus : FinishStatus → PartitionImportJobStatus
  | .rejected => .rejected
  | .failed => .failed
  | .cancelled => .cancelled
  | .expired => .expired

structure FinishJobInput where
  orgId : String
  jobId : String
  uploaderId : Option String := none
  /-- Is the account of the uploader disabled? -/
  uploaderDisabled : Bool := false
  status : FinishStatus
  errorCode : Option String := none
  errorSummary : Option String := none

structure PublishSourceInput where
  orgId : String
  jobId : String
  totalRowCount : ℕ
  candidates : List PartitionCandidate

namespace Database

/-! ### Reservation and upload -/

/-- The job of a request that was made before, or a new one. -/
def reserveUpload (db : Database) (input : ReserveUploadInput) (refused : Option String) :
    Except WorkerError Database :=
  if !validateOrderScopeDataset input.dataset input.orderScope then
    .error (.thrown "INVALID_ORDER_SCOPE")
  else if 3 < input.confidentialityLevel then .error (.thrown "INVALID_CONFIDENTIALITY_LEVEL")
  else match (db.partitionImportJobs.findMany fun _ job => job.orgId = input.orgId &&
      job.idempotencyKey = input.idempotencyKey).head? with
  | some (_, existing) =>
    if existing.requestFingerprint ≠ input.requestFingerprint ∨
        existing.uploaderId ≠ input.uploaderId then .error (.thrown "IDEMPOTENCY_KEY_REUSED")
    else .ok db
  | none =>
    match refused with
    | some code => .error (.thrown code)
    | none => do
      let partitionImportJobs ← createOrThrow db.partitionImportJobs input.id
          { orgId := input.orgId, uploaderId := input.uploaderId, dataset := input.dataset
            orderScope := effectiveOrderScope input.dataset input.orderScope
            enterpriseKey := input.enterpriseKey, enterpriseName := input.enterpriseName
            confidentialityLevel := input.confidentialityLevel
            idempotencyKey := input.idempotencyKey
            requestFingerprint := input.requestFingerprint
            sourceChecksumSha256 := input.sourceChecksumSha256
            sourceStartDate := input.sourceStartDate, sourceEndDate := input.sourceEndDate
            expiresAt := input.expiresAt, temporaryObjectKey := some input.temporaryObjectKey
            multipartUploadId := some input.multipartUploadId }
      return { db with partitionImportJobs }

/-- The run of a job whose upload is complete. -/
def partitionImportRun (orgId jobId : String) (now : ℕ) : ProcessingRun where
  orgId := orgId
  partitionImportJobId := some jobId
  jobKey := "structured_partition_import:" ++ jobId
  jobType := .structuredPartitionImport
  availableAt := now
  createdAt := now

/-- What an upload completion writes when it has found its job uploading. The row is written by
its key alone. -/
def queueUpload (db : Database) (orgId jobId runId : String) (temporaryObjectKey : ObjectKey)
    (now : ℕ) : Except WorkerError Database := do
  let jobs ← updateOrThrow db.partitionImportJobs jobId fun job =>
    { job with
      temporaryObjectKey := some temporaryObjectKey, multipartUploadId := none, status := .queued }
  let db := { db with partitionImportJobs := jobs }
  db.createRun runId (partitionImportRun orgId jobId now)

/-- The transaction reads the job as it was when it started reading, which is in `seen`. -/
def queueCompletedUpload (seen db : Database) (orgId jobId runId : String)
    (temporaryObjectKey : ObjectKey) (refused : Option String) (now : ℕ) :
    Except WorkerError Database :=
  match (seen.partitionImportJobs.lookup jobId).filter (·.orgId = orgId), refused with
  | none, _ => .error (.thrown "P2025")
  | some job, refused =>
    if job.status ≠ .uploading then .ok db
    else match refused with
    | some code => .error (.thrown code)
    | none => db.queueUpload orgId jobId runId temporaryObjectKey now

/-! ### Leased writes of an import -/

def requirePartitionImportLease (db : Database) (orgId jobId : String) (lease : Lease)
    (now : ℕ) : Except WorkerError Database :=
  match db.processingRuns.lookup lease.runId with
  | none => .error .leaseLost
  | some run =>
    if run.orgId = orgId && run.partitionImportJobId = some jobId &&
        run.jobType = .structuredPartitionImport && leaseMatches lease now run then
      .ok { db with processingRuns := db.processingRuns.update lease.runId (touch now) }
    else .error .leaseLost

/-- The jobs `finishJob` may write: with a lease the one being processed, without one only an
upload. -/
def finishJobWhere (input : FinishJobInput) (leased : Bool) (job : PartitionImportJob) : Bool :=
  job.orgId = input.orgId &&
    (input.uploaderId.all fun uploader => job.uploaderId = uploader && !input.uploaderDisabled) &&
    job.status = (if leased then .processing else .uploading)

def finishJob (db : Database) (input : FinishJobInput) (lease : Option Lease) (now : ℕ) :
    Except WorkerError Database := do
  let db ← match lease with
    | some lease => db.requirePartitionImportLease input.orgId input.jobId lease now
    | none => .ok db
  return { db with
    partitionImportJobs := db.partitionImportJobs.updateMany
      (fun id job => id = input.jobId && finishJobWhere input lease.isSome job) fun job =>
      { job with
        status := input.status.jobStatus, errorCode := input.errorCode
        errorSummary := input.errorSummary, finishedAt := some now } }

/-! ### Publication -/

/-- Publish one candidate; the keys that become garbage are collected. -/
def publishCandidate (jobId : String) (transition : Bool)
    (acc : Table PartitionIdentity StructuredPartition × List ObjectKey)
    (candidate : PartitionCandidate) :
    Except WorkerError (Table PartitionIdentity StructuredPartition × List ObjectKey) :=
  let identity := candidate.identity
  let current := acc.1.lookup identity
  if candidate.dataset = .inStoreOrders && !transition && (current.any fun c =>
      effectiveOrderScope candidate.dataset c.orderScope ≠
        effectiveOrderScope candidate.dataset candidate.orderScope) then
    .error (.thrown "ORDER_SCOPE_CONFLICT")
  else
    let decision := decidePartitionReplacement current candidate
    let garbage := acc.2 ++ decision.garbageObjectKeys
    match decision.action with
    | .insert => .ok (acc.1.insert identity (partitionCreate candidate jobId), garbage)
    | .keep => .ok (acc.1, garbage)
    | .updateMetadata => .ok (acc.1.update identity fun c =>
        { partitionMetadata candidate jobId c with version := c.version + 1 }, garbage)
    | .replace => .ok (acc.1.update identity fun c =>
        { partitionMetadata candidate jobId c with
          objectKey := candidate.objectKey, version := c.version + 1 }, garbage)

/-- An in-store source publishes only what its job declared. -/
def candidatesFit (job : PartitionImportJob) (candidates : List PartitionCandidate) : Bool :=
  job.dataset ≠ .inStoreOrders || candidates.all fun c =>
    c.dataset = job.dataset && c.enterpriseKey = job.enterpriseKey &&
      effectiveOrderScope c.dataset c.orderScope = effectiveOrderScope job.dataset job.orderScope

/-- The job of a source that is published. -/
def publishedJob (input : PublishSourceInput) (now : ℕ) (job : PartitionImportJob) :
    PartitionImportJob :=
  { job with
    status := .published, totalRowCount := input.totalRowCount
    partitionCount := input.candidates.length, publishedAt := some now, finishedAt := some now
    temporaryObjectKey := none, multipartUploadId := none, errorCode := none
    errorSummary := none }

/-- Publish every candidate of a source, queue what they replace and the staged source, and end
the job, or do nothing. The candidates are distinct, so the order of their locks is immaterial.
`transition` says that a confirmed transition is bound to the job. -/
def publishSourceAtomically (db : Database) (input : PublishSourceInput) (lease : Lease)
    (refused : Option String) (transition : Bool) (now : ℕ) : Except WorkerError Database := do
  if input.candidates.any (·.orgId ≠ input.orgId) then throw (.thrown "PARTITION_ORG_MISMATCH")
  else if ¬ (input.candidates.map (·.identity)).Nodup then
    throw (.thrown "PARTITION_DUPLICATE_CANDIDATE")
  else match (db.partitionImportJobs.lookup input.jobId).filter fun job =>
      job.orgId = input.orgId && job.status = .processing with
  | none => throw (.thrown "P2025")
  | some job => do
    let db ← db.requirePartitionImportLease input.orgId input.jobId lease now
    match refused with
    | some code => throw (.thrown code)
    | none =>
      if !candidatesFit job input.candidates then throw (.thrown "ORDER_SCOPE_CONFLICT")
      else if input.candidates = [] ∨ input.totalRowCount = 0 then
        throw (.thrown "PARTITION_INVALID_SOURCE")
      else do
        let (partitions, garbage) ← input.candidates.foldlM
          (publishCandidate input.jobId transition) (db.structuredPartitions, [])
        let db := { db with structuredPartitions := partitions }
        let db := db.enqueueAllStorageGarbage garbage.dedup "partition_replaced" now
        let db := match job.temporaryObjectKey with
          | some key => db.enqueueStorageGarbage key "partition_source_terminal" now none
          | none => db
        return { db with
          partitionImportJobs := db.partitionImportJobs.update input.jobId
            (publishedJob input now) }

/-! ### Retention -/

/-- Delete jobs that ended before a time, with their runs; garbage forgets a run that is gone. -/
def deleteTerminalJobs (db : Database) (before limit : ℕ) : Database :=
  let gone := (((db.partitionImportJobs.findMany fun _ job =>
    job.status.isTerminal && job.finishedAt.any (· < before)).insertionSort fun a b =>
      a.2.finishedAt.getD 0 ≤ b.2.finishedAt.getD 0).take limit).map (·.1)
  let goneRun (run : ProcessingRun) : Bool := run.partitionImportJobId.any gone.contains
  { db with
    partitionImportJobs := db.partitionImportJobs.deleteMany fun id _ => gone.contains id
    processingRuns := db.processingRuns.deleteMany fun _ run => goneRun run
    storageGarbage := db.storageGarbage.updateMany
      (fun _ g => (g.processingRunId.bind db.processingRuns.lookup).any goneRun)
      fun g => { g with processingRunId := none } }

end Database
end SmeDataCenter
