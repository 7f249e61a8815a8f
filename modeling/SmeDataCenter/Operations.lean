import SmeDataCenter.Documents
import SmeDataCenter.LeaseFencing
import SmeDataCenter.LedgerPublication

/-!
# The operations on the shared database

Every transaction that the API, the workers and the maintenance cycles make on the tables of the
worker, as one step on the database: a transaction that throws leaves it as it was. A run of the
system is a list of operations, in any order and with any arguments.
-/

namespace SmeDataCenter

open Runs

/-- Partition imports and the queue of garbage. -/
inductive ImportOperation where
  | reserveUpload (input : ReserveUploadInput) (refused : Option String)
  | queueCompletedUpload (seen : Database) (orgId jobId runId : String)
      (temporaryObjectKey : ObjectKey) (refused : Option String) (now : ℕ)
  /-- A cancelled or expired upload. -/
  | finishUpload (input : FinishJobInput) (now : ℕ)
  | deleteTerminalJobs (before limit : ℕ)
  | enqueueGarbage (objectKey : ObjectKey) (reason : String) (now : ℕ)
  | markObjectDeleted (objectKey : ObjectKey)
  | deleteGarbage (id now : ℕ)
  | postponeGarbage (id : ℕ) (errorCode : String) (availableAt : ℕ)

/-- Documents, structured imports and cost cards. -/
inductive DocumentOperation where
  | createUploadedDocument (input : CreateUploadedDocumentInput) (runId : String)
      (refused : Option String) (now : ℕ)
  | reserveStructuredImport (input : ReserveStructuredImportInput) (importBatchId : String)
      (refused : Option String)
  | enqueueReservedStructuredImport (orgId importBatchId runId : String) (now : ℕ)
  | archiveDocuments (orgId : String) (documentIds : List String)
      (partitions : List LedgerPartitionKey) (now : ℕ)
  | publishCostCards (input : CostCardPublishInput) (refused : Option String) (leaseNow now : ℕ)

inductive DownloadOperation where
  | prepare (limits : PartitionDownloadLimits) (input : PrepareDownloadInput)
      (requestId runId : String) (refused : Option String) (now : ℕ)
  | markRunning (lease : PartitionDownloadLease) (current : Bool) (now finishedAt : ℕ)
  | recordProgress (lease : PartitionDownloadLease) (completedPartitionCount : ℤ)
      (now finishedAt : ℕ)
  | fail (lease : PartitionDownloadLease) (errorCode : String) (now finishedAt : ℕ)
  | registerCandidate (lease : PartitionDownloadLease) (objectKey : ObjectKey)
      (now finishedAt : ℕ)
  | publish (lease : PartitionDownloadLease) (artifact : PartitionDownloadArtifact)
      (current : Bool) (now finishedAt : ℕ)
  | expire (orgId requestId : String) (clock now : ℕ)
  | invalidate (orgId : String) (partitionIds : List String) (now : ℕ)

/-- Requests of the ledger archive. -/
inductive LedgerRequestOperation where
  | markLedgerPartitionsChanged (keys : List LedgerPartitionKey)
  | beginInternalRefresh (input : BeginLedgerInternalRefreshInput) (requestId : String)
      (refused : Option String)
  | appendInternalRefreshPage (input : AppendInternalRefreshPageInput) (ids : RefreshIds)
      (refused : Option String) (now : ℕ)
  | reserveRefresh (input : ReserveLedgerRefreshInput) (ids : RefreshIds)
      (refused : Option String) (sourceFingerprint : String) (now : ℕ)
  | reserveBundle (input : ReserveBundleInput) (requestId runId : String)
      (refused : Option String) (now : ℕ)
  | scheduleReconciliation (orgId scheduleDate reconciliationId runId : String) (now : ℕ)
  | checkpoint (orgId reconciliationId : String) (lease : Lease) (completed failed : Bool)
      (now : ℕ)

/-- Objects of the ledger archive. -/
inductive LedgerObjectOperation where
  | registerCandidate (orgId : String) (token : Lease) (objectKey : ObjectKey) (now : ℕ)
  | publishLedgerPdf (input : PublishLedgerPdfInput) (sourcesCurrent : Bool)
      (refused : Option String) (productLevel : Option ℕ) (now finishedAt : ℕ)
  | registerBundleCandidate (requestId : String) (lease : Lease) (key : ObjectKey) (now : ℕ)
  | completeBundle (requestId : String) (lease : Lease) (key : ObjectKey) (current : Bool)
      (expiresAt now finishedAt : ℕ)
  | failBundle (requestId : String) (lease : Lease) (code : String) (now : ℕ)
  | enqueueExpiredLedgerBundles (now : ℕ)

inductive Operation where
  | call (call : Call)
  | imports (op : ImportOperation)
  | documents (op : DocumentOperation)
  | downloads (op : DownloadOperation)
  | ledgerRequests (op : LedgerRequestOperation)
  | ledgerObjects (op : LedgerObjectOperation)

/-- The database of a transaction that also replies. -/
def Database.after {α : Type} (db : Database) (result : Except WorkerError (α × Database)) :
    Database :=
  commit db (result.map (·.2))

namespace Database

def importStep (db : Database) : ImportOperation → Database
  | .reserveUpload input refused => commit db (db.reserveUpload input refused)
  | .queueCompletedUpload seen orgId jobId runId temporaryObjectKey refused now =>
    commit db (queueCompletedUpload seen db orgId jobId runId temporaryObjectKey refused now)
  | .finishUpload input now => commit db (db.finishJob input none now)
  | .deleteTerminalJobs before limit => db.deleteTerminalJobs before limit
  | .enqueueGarbage objectKey reason now => db.enqueueStorageGarbage objectKey reason now none
  | .markObjectDeleted objectKey => db.markObjectDeleted objectKey
  | .deleteGarbage id now => db.deleteGarbage id now
  | .postponeGarbage id errorCode availableAt => db.postponeGarbage id errorCode availableAt

def documentStep (db : Database) : DocumentOperation → Database
  | .createUploadedDocument input runId refused now =>
    commit db (db.createUploadedDocument input runId refused now)
  | .reserveStructuredImport input importBatchId refused =>
    commit db (db.reserveStructuredImport input importBatchId refused)
  | .enqueueReservedStructuredImport orgId importBatchId runId now =>
    commit db (db.enqueueReservedStructuredImport orgId importBatchId runId now)
  | .archiveDocuments orgId documentIds partitions now =>
    db.archiveDocuments orgId documentIds partitions now
  | .publishCostCards input refused leaseNow now =>
    commit db (db.publishCostCards input refused leaseNow now)

def downloadStep (db : Database) : DownloadOperation → Database
  | .prepare limits input requestId runId refused now =>
    commit db (db.prepareDownload limits input requestId runId refused now)
  | .markRunning lease current now finishedAt =>
    db.after (db.markDownloadRunning lease current now finishedAt)
  | .recordProgress lease completedPartitionCount now finishedAt =>
    db.after (db.recordDownloadProgress lease completedPartitionCount now finishedAt)
  | .fail lease errorCode now finishedAt =>
    db.after (db.failDownload lease errorCode now finishedAt)
  | .registerCandidate lease objectKey now finishedAt =>
    db.after (db.registerDownloadCandidate lease objectKey now finishedAt)
  | .publish lease artifact current now finishedAt =>
    db.after (db.publishDownload lease artifact current now finishedAt)
  | .expire orgId requestId clock now => db.expireDownload orgId requestId clock now
  | .invalidate orgId partitionIds now => db.invalidateDownloads orgId partitionIds now

def ledgerRequestStep (db : Database) : LedgerRequestOperation → Database
  | .markLedgerPartitionsChanged keys => db.markLedgerPartitionsChanged keys
  | .beginInternalRefresh input requestId refused =>
    db.after (db.beginInternalRefresh input requestId refused)
  | .appendInternalRefreshPage input ids refused now =>
    db.after (db.appendInternalRefreshPage input ids refused now)
  | .reserveRefresh input ids refused sourceFingerprint now =>
    db.after (db.reserveRefresh input ids refused sourceFingerprint now)
  | .reserveBundle input requestId runId refused now =>
    db.after (db.reserveBundle input requestId runId refused now)
  | .scheduleReconciliation orgId scheduleDate reconciliationId runId now =>
    commit db (db.scheduleReconciliation orgId scheduleDate reconciliationId runId now)
  | .checkpoint orgId reconciliationId lease completed failed now =>
    commit db (db.checkpoint orgId reconciliationId lease completed failed now)

def ledgerObjectStep (db : Database) : LedgerObjectOperation → Database
  | .registerCandidate orgId token objectKey now =>
    commit db (db.registerCandidate orgId token objectKey now)
  | .publishLedgerPdf input sourcesCurrent refused productLevel now finishedAt =>
    db.after (db.publishLedgerPdf input sourcesCurrent refused productLevel now finishedAt)
  | .registerBundleCandidate requestId lease key now =>
    db.after (db.registerBundleCandidate requestId lease key now)
  | .completeBundle requestId lease key current expiresAt now finishedAt =>
    db.after (db.completeBundle requestId lease key current expiresAt now finishedAt)
  | .failBundle requestId lease code now => db.after (db.failBundle requestId lease code now)
  | .enqueueExpiredLedgerBundles now => db.enqueueExpiredLedgerBundles now

/-- One operation. `config` is the retrieval configuration version of the workers. -/
def step (config : Option String) (db : Database) : Operation → Database
  | .call call => performed config db call
  | .imports op => db.importStep op
  | .documents op => db.documentStep op
  | .downloads op => db.downloadStep op
  | .ledgerRequests op => db.ledgerRequestStep op
  | .ledgerObjects op => db.ledgerObjectStep op

end Database
end SmeDataCenter
