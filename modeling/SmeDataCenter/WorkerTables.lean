import Mathlib.Data.Int.Notation
import SmeDataCenter.Table

/-!
# The tables of the worker

The rows the background worker reads and writes: processing runs with their leases, the owners
of the runs (documents with their import batches, partition import jobs, partition downloads,
ledger requests), the published partitions, and the queue of storage garbage. Times are
milliseconds, dates are texts `YYYY-MM-DD`. A column that is written and never read by the
operations modelled here is left out, except in a processing run, which has all of them.
-/

namespace SmeDataCenter

/-! ### Keys of stored objects -/

/-- A partition of the ledger archive: its organization, store and day. -/
structure LedgerPartitionKey where
  orgId : String
  storeName : String
  purchaseDate : String
  deriving DecidableEq

/-- What the key builders of the storage package and of the archive build, from parts that
cannot contain a separator. -/
inductive ObjectKey where
  /-- `createPartitionStagingObjectKey` -/
  | staging (orgId jobId : String)
  /-- `createPartitionObjectKey` -/
  | partition (orgId jobId partitionId : String)
  /-- A bundle of `structured_partition_bundle`. -/
  | download (orgId requestId : String) (attemptNumber : ℕ) (candidateId : String)
  /-- `createLedgerPdfObjectKey` -/
  | ledgerPdf (key : LedgerPartitionKey) (generation : ℕ) (attemptId : String)
  /-- A bundle of `ledger_pdf_bundle`. -/
  | ledgerBundle (orgId requestId : String) (attemptNumber : ℕ) (candidateId : String)
  deriving DecidableEq

/-! ### Processing runs -/

inductive ProcessingRunStatus where
  | queued
  | running
  | succeeded
  | failed
  | retryScheduled
  deriving DecidableEq

inductive ProcessingJobType where
  | evidenceDocumentIndex
  | structuredImport
  | structuredPartitionImport
  | structuredPartitionBundle
  | ledgerPdfGenerate
  | ledgerPdfBundle
  | ledgerPdfReconcile
  deriving DecidableEq

structure ProcessingRun where
  orgId : String
  jobKey : String
  jobType : ProcessingJobType
  documentId : Option String := none
  partitionImportJobId : Option String := none
  partitionDownloadRequestId : Option String := none
  ledgerArtifactRequestItemId : Option String := none
  ledgerArtifactRequestId : Option String := none
  ledgerPdfReconciliationRunId : Option String := none
  priority : ℤ := 0
  status : ProcessingRunStatus := .queued
  attemptNumber : ℕ := 0
  retryCount : ℕ := 0
  availableAt : ℕ
  createdAt : ℕ
  lockedBy : Option String := none
  lockedUntil : Option ℕ := none
  lastHeartbeatAt : Option ℕ := none
  errorCode : Option String := none
  errorSummary : Option String := none
  startedAt : Option ℕ := none
  finishedAt : Option ℕ := none
  deriving DecidableEq

/-- The columns of a run that say what it is for: they are written once. -/
structure RunOwner where
  orgId : String
  jobKey : String
  jobType : ProcessingJobType
  documentId : Option String
  partitionImportJobId : Option String
  partitionDownloadRequestId : Option String
  ledgerArtifactRequestItemId : Option String
  ledgerArtifactRequestId : Option String
  ledgerPdfReconciliationRunId : Option String

def ProcessingRun.owner (run : ProcessingRun) : RunOwner :=
  ⟨run.orgId, run.jobKey, run.jobType, run.documentId, run.partitionImportJobId,
    run.partitionDownloadRequestId, run.ledgerArtifactRequestItemId,
    run.ledgerArtifactRequestId, run.ledgerPdfReconciliationRunId⟩

/-- A unique column, when both have it. -/
def sameId (a b : Option String) : Bool := a.isSome && a = b

/-- Two runs that cannot both be there, by a unique column. -/
def RunOwner.clash (a b : RunOwner) : Bool :=
  a.jobKey = b.jobKey || sameId a.partitionImportJobId b.partitionImportJobId ||
    sameId a.partitionDownloadRequestId b.partitionDownloadRequestId ||
    sameId a.ledgerArtifactRequestItemId b.ledgerArtifactRequestItemId ||
    sameId a.ledgerArtifactRequestId b.ledgerArtifactRequestId ||
    sameId a.ledgerPdfReconciliationRunId b.ledgerPdfReconciliationRunId

/-- Does a job of this type belong to the ledger archive? -/
def isLedgerJob : ProcessingJobType → Bool
  | .ledgerPdfGenerate | .ledgerPdfBundle | .ledgerPdfReconcile => true
  | _ => false

/-! ### Documents and import batches -/

inductive DocumentStatus where
  | uploading
  | pendingProcessing
  | processing
  | active
  | processingFailed
  | archived
  deriving DecidableEq

inductive DocumentKind where
  | evidence
  | structured
  | quarantineCertificate
  deriving DecidableEq

structure Document where
  orgId : String
  documentKind : Option DocumentKind
  status : DocumentStatus
  archivedAt : Option ℕ := none
  deriving DecidableEq

inductive ImportDataset where
  | dishes
  | business
  | vip
  | dishCatalog
  | deliveryLedger
  | supplierCatalog
  | costCards
  | inStoreOrders
  | takeawayOrders
  deriving DecidableEq

inductive ImportBatchStatus where
  | pending
  | validating
  | applying
  | applied
  | failed
  | rejected
  | archived
  deriving DecidableEq

structure ImportBatch where
  orgId : String
  sourceDocumentId : String
  dataset : ImportDataset
  startDate : Option String := none
  endDate : Option String := none
  status : ImportBatchStatus := .pending
  errorCode : Option String := none
  errorSummary : Option String := none
  deriving DecidableEq

/-! ### Partition imports -/

inductive PartitionDataset where
  | dishes
  | business
  | inStoreOrders
  | takeawayOrders
  deriving DecidableEq

inductive OrderScope where
  | settledOnly
  | allStatuses
  | legacyUnknown
  deriving DecidableEq

/-- Null in old in-store rows is historical uncertainty. -/
def effectiveOrderScope (dataset : PartitionDataset) (scope : Option OrderScope) :
    Option OrderScope :=
  if dataset = .inStoreOrders then some (scope.getD .legacyUnknown) else none

inductive PartitionImportJobStatus where
  | uploading
  | queued
  | processing
  | published
  | rejected
  | failed
  | cancelled
  | expired
  deriving DecidableEq

structure PartitionImportJob where
  orgId : String
  uploaderId : String
  dataset : PartitionDataset
  orderScope : Option OrderScope := none
  enterpriseKey : String
  enterpriseName : String
  confidentialityLevel : ℕ
  idempotencyKey : String
  requestFingerprint : String
  sourceChecksumSha256 : String
  sourceStartDate : String
  sourceEndDate : String
  temporaryObjectKey : Option ObjectKey
  multipartUploadId : Option String
  status : PartitionImportJobStatus := .uploading
  totalRowCount : ℕ := 0
  partitionCount : ℕ := 0
  errorCode : Option String := none
  errorSummary : Option String := none
  expiresAt : ℕ
  publishedAt : Option ℕ := none
  finishedAt : Option ℕ := none

/-- `structured_partitions_identity_uq` -/
structure PartitionIdentity where
  orgId : String
  enterpriseKey : String
  dataset : PartitionDataset
  storeKey : String
  businessDate : String
  deriving DecidableEq

/-- A published partition, under its identity. -/
structure StructuredPartition where
  id : String
  version : ℕ := 1
  orderScope : Option OrderScope
  enterpriseName : String
  merchantId : Option String
  storeName : String
  objectKey : ObjectKey
  rowCount : ℕ
  byteSize : ℕ
  checksumSha256 : String
  confidentialityLevel : ℕ
  publishedByJobId : String
  deriving DecidableEq

/-! ### Partition downloads -/

inductive PartitionDownloadStatus where
  | queued
  | running
  | succeeded
  | failed
  | expired
  deriving DecidableEq

structure PartitionDownloadRequest where
  orgId : String
  requesterId : String
  idempotencyKey : String
  requestFingerprint : String
  /-- The partitions of the manifest. -/
  manifest : List String := []
  status : PartitionDownloadStatus := .queued
  partitionCount : ℕ := 0
  completedPartitionCount : ℕ := 0
  objectKey : Option ObjectKey := none
  byteSize : Option ℕ := none
  checksumSha256 : Option String := none
  errorCode : Option String := none
  expiresAt : ℕ

/-! ### The ledger archive -/

inductive LedgerArtifactRequestStatus where
  | queued
  | running
  | succeeded
  | partialFailed
  | failed
  deriving DecidableEq

inductive LedgerArtifactItemStatus where
  | queued
  | running
  | succeeded
  | empty
  | superseded
  | failed
  deriving DecidableEq

inductive LedgerArtifactRequestKind where
  | refresh
  | download
  deriving DecidableEq

/-- `scope` of an internal refresh: where its enumeration stands. -/
structure LedgerInternalRefreshScope where
  enumerationCursor : Option String
  enumerationComplete : Bool

inductive LedgerActor where
  | employee (employeeId : String)
  | operator (label : String)
  | systemReconciler (reconciliationRunId : String)
  deriving DecidableEq

structure LedgerArtifactRequest where
  orgId : String
  kind : LedgerArtifactRequestKind
  actor : LedgerActor
  idempotencyKey : String
  requestFingerprint : String
  internalScope : Option LedgerInternalRefreshScope := none
  status : LedgerArtifactRequestStatus := .queued
  zipObjectKey : Option ObjectKey := none
  zipExpiresAt : Option ℕ := none
  errorCode : Option String := none

structure LedgerArtifactRequestItem where
  orgId : String
  requestId : String
  partitionId : LedgerPartitionKey
  generation : ℕ
  dataRevision : ℕ
  status : LedgerArtifactItemStatus := .queued
  errorCode : Option String := none

/-- The columns of an item that are written once. -/
def LedgerArtifactRequestItem.target (item : LedgerArtifactRequestItem) :
    String × String × LedgerPartitionKey × ℕ :=
  (item.orgId, item.requestId, item.partitionId, item.generation)

/-- The columns of a request that are written once. -/
def LedgerArtifactRequest.entry (request : LedgerArtifactRequest) :
    String × LedgerArtifactRequestKind × LedgerActor × String × String :=
  (request.orgId, request.kind, request.actor, request.idempotencyKey, request.requestFingerprint)

/-- All of a request but its status and its error code. -/
def LedgerArtifactRequest.facts (request : LedgerArtifactRequest) :
    (String × LedgerArtifactRequestKind × LedgerActor × String × String) ×
      Option LedgerInternalRefreshScope × Option ObjectKey × Option ℕ :=
  (request.entry, request.internalScope, request.zipObjectKey, request.zipExpiresAt)

/-- The kind of a request and what its bundle points to. -/
def LedgerArtifactRequest.pointer (request : LedgerArtifactRequest) :
    LedgerArtifactRequestKind × Option ObjectKey × Option ℕ :=
  (request.kind, request.zipObjectKey, request.zipExpiresAt)

/-- A partition of the archive, under its key: the row's id stands for the key and the key for
the id, since neither changes. -/
structure LedgerPdfPartition where
  dataRevision : ℕ := 0
  requestedGeneration : ℕ := 0
  publishedGeneration : Option ℕ := none
  publishedDataRevision : Option ℕ := none
  publishedSourceFingerprint : Option String := none
  currentObjectKey : Option ObjectKey := none
  checksumSha256 : Option String := none
  byteSize : Option ℕ := none
  rowCount : Option ℕ := none
  certificateCount : Option ℕ := none
  confidentialityLevel : ℕ := 0
  templateVersion : Option String := none
  generatedAt : Option ℕ := none
  errorCode : Option String := none
  deriving DecidableEq

structure LedgerPdfReconciliationRun where
  orgId : String
  scheduleDate : String
  /-- Is the phase `completed`? -/
  completed : Bool := false
  status : LedgerArtifactRequestStatus := .queued
  startedAt : Option ℕ := none
  finishedAt : Option ℕ := none

/-! ### Storage garbage -/

/-- A key queued for deletion, under its key: no two keys share a hash. The id is fresh for
every row created. -/
structure StorageGarbage where
  id : ℕ
  repeatDeletion : Bool
  processingRunId : Option String
  reason : String
  attemptCount : ℕ := 0
  availableAt : ℕ
  lastErrorCode : Option String := none

/-! ### The database -/

structure Database where
  processingRuns : Table String ProcessingRun := ∅
  documents : Table String Document := ∅
  importBatches : Table String ImportBatch := ∅
  partitionImportJobs : Table String PartitionImportJob := ∅
  structuredPartitions : Table PartitionIdentity StructuredPartition := ∅
  partitionDownloadRequests : Table String PartitionDownloadRequest := ∅
  ledgerArtifactRequests : Table String LedgerArtifactRequest := ∅
  ledgerArtifactRequestItems : Table String LedgerArtifactRequestItem := ∅
  ledgerPdfPartitions : Table LedgerPartitionKey LedgerPdfPartition := ∅
  ledgerPdfReconciliationRuns : Table String LedgerPdfReconciliationRun := ∅
  storageGarbage : Table ObjectKey StorageGarbage := ∅
  /-- The id of the next garbage row. -/
  nextGarbageId : ℕ := 0

/-- What a call throws. A lost lease ends the attempt without a further write. -/
inductive WorkerError where
  | leaseLost
  | thrown (message : String)
  deriving DecidableEq

/-- `findUniqueOrThrow`, and an update of a row by its key: it is there, or the call throws. -/
def findUniqueOrThrow {κ ρ : Type} [DecidableEq κ] (t : Table κ ρ) (k : κ) :
    Except WorkerError ρ :=
  match t.lookup k with
  | some row => .ok row
  | none => .error (.thrown "P2025")

/-- Create a row, or throw when its key is taken. -/
def createOrThrow {κ ρ : Type} [DecidableEq κ] (t : Table κ ρ) (k : κ) (row : ρ) :
    Except WorkerError (Table κ ρ) :=
  match t.create k row with
  | some t => .ok t
  | none => .error (.thrown "P2002")

lemma findUniqueOrThrow_eq_ok {κ ρ : Type} [DecidableEq κ] {t : Table κ ρ} {k : κ} {row : ρ} :
    findUniqueOrThrow t k = .ok row ↔ t.lookup k = some row := by
  unfold findUniqueOrThrow
  cases t.lookup k <;> simp

/-- Update a row by its key, or throw when there is none. -/
def updateOrThrow {κ ρ : Type} [DecidableEq κ] (t : Table κ ρ) (k : κ) (f : ρ → ρ) :
    Except WorkerError (Table κ ρ) :=
  match t.lookup k with
  | some _ => .ok (t.update k f)
  | none => .error (.thrown "P2025")

lemma updateOrThrow_eq_ok {κ ρ : Type} [DecidableEq κ] {t t' : Table κ ρ} {k : κ} {f : ρ → ρ} :
    updateOrThrow t k f = .ok t' ↔ (∃ row, t.lookup k = some row) ∧ t' = t.update k f := by
  unfold updateOrThrow
  cases t.lookup k <;> simp [eq_comm]

lemma createOrThrow_eq_ok {κ ρ : Type} [DecidableEq κ] {t t' : Table κ ρ} {k : κ} {row : ρ} :
    createOrThrow t k row = .ok t' ↔ t.create k row = some t' := by
  unfold createOrThrow
  cases t.create k row <;> simp

end SmeDataCenter
