import SmeDataCenter.LedgerEffects

/-!
# Relations that hold of operations

Every operation beside the calls and the publications of the ledger is a sequence of a few writes.
A relation between databases that holds of each of them, and of two after each other, holds of the
operation.
-/

namespace SmeDataCenter

open Runs FencedLease

/-- The columns of an owner are those of its job type. -/
def RunOwner.formed (o : RunOwner) : Bool :=
  (o.documentId.isSome = (o.jobType = .evidenceDocumentIndex || o.jobType = .structuredImport)) &&
    (o.partitionImportJobId.isSome = (o.jobType = .structuredPartitionImport : Bool)) &&
    (o.partitionDownloadRequestId.isSome = (o.jobType = .structuredPartitionBundle : Bool)) &&
    (o.ledgerArtifactRequestItemId.isSome = (o.jobType = .ledgerPdfGenerate : Bool)) &&
    (o.ledgerArtifactRequestId.isSome = (o.jobType = .ledgerPdfBundle : Bool)) &&
    (o.ledgerPdfReconciliationRunId.isSome = (o.jobType = .ledgerPdfReconcile : Bool))

/-- Is a run of this job type created by such an operation? -/
def Operation.creates : Operation → ProcessingJobType → Bool
  | .call _, _ => false
  | .imports _, jobType => jobType = .structuredPartitionImport
  | .documents _, jobType => jobType = .evidenceDocumentIndex || jobType = .structuredImport
  | .downloads _, jobType => jobType = .structuredPartitionBundle
  | .ledgerRequests _, jobType => isLedgerJob jobType
  | .ledgerObjects _, _ => false

/-- What an operation creates a run for. -/
def Operation.newOwner (op : Operation) (o : RunOwner) : Prop :=
  o.formed = true ∧ op.creates o.jobType = true

/-- The page of an internal refresh that an operation appends. -/
def Operation.pageOf : Operation → Option String
  | .ledgerRequests (.appendInternalRefreshPage input _ _ _) => some input.requestId
  | _ => none

namespace Database

/-- The rows of the ledger archive. -/
def ledgerRows (db : Database) : Table LedgerPartitionKey LedgerPdfPartition ×
    Table String LedgerArtifactRequestItem × Table String LedgerArtifactRequest :=
  (db.ledgerPdfPartitions, db.ledgerArtifactRequestItems, db.ledgerArtifactRequests)

/-- A relation that holds of the writes of the imports, the documents and the downloads, where the
runs that are created have owners that meet `new`. -/
structure OfWrites (new : RunOwner → Prop) (R : Database → Database → Prop) : Prop where
  refl (db : Database) : R db db
  trans {db db' db'' : Database} : R db db' → R db' db'' → R db db''
  /-- Neither the runs nor the archive are written. -/
  beside {db db' : Database} (hruns : db'.processingRuns = db.processingRuns)
    (hledger : db'.ledgerRows = db.ledgerRows) : R db db'
  created {db db' : Database} {id : String} {run : ProcessingRun} (hnew : new run.owner)
    (hrun : db.createRun id run = .ok db') : R db db'
  leased {db db' : Database} {lease : Lease} {now : ℕ} {f : ProcessingRun → ProcessingRun}
    (hleased : db.Leased lease now)
    (hruns : db'.processingRuns = db.processingRuns.update lease.runId f)
    (howner : ∀ run, (f run).owner = run.owner) (hledger : db'.ledgerRows = db.ledgerRows) : R db db'
  terminated (db : Database) (requestId : String) (row : PartitionDownloadRequest)
    (status : PartitionDownloadStatus) (code : String) (now : ℕ) :
    R db (db.terminate requestId row status code now)
  deleted (db : Database) (before limit : ℕ) : R db (db.deleteTerminalJobs before limit)
  changed (db : Database) (keys : List LedgerPartitionKey) :
    R db (db.markLedgerPartitionsChanged keys)

/-- A relation that holds of the writes of the ledger requests too, where `paged` are the requests
that turn to another page. -/
structure OfRequests (new : RunOwner → Prop) (paged : String → Prop)
    (R : Database → Database → Prop) : Prop extends OfWrites new R where
  locked (db : Database) (key : LedgerPartitionKey) : R db (db.lockPartition key)
  requested (db : Database) (key : LedgerPartitionKey) : R db (db.requestGeneration key)
  request {db db' : Database} {requestId : String} {request : LedgerArtifactRequest}
    (hnew : request.unbundled) (h : db.createRequest requestId request = .ok db') : R db db'
  item {db db' : Database} {orgId requestId : String} {actor : LedgerActor} {ids : RefreshIds}
    {key : LedgerPartitionKey} {now : ℕ}
    (hnew : ∀ generation, new (ledgerPdfRun orgId (ids.item key) actor key generation now).owner)
    (h : enqueuePartition orgId actor requestId ids now db key = .ok db') : R db db'
  page {db : Database} {requestId : String} (hpaged : paged requestId) (nextCursor : Option String)
    (status : LedgerArtifactRequestStatus) : R db { db with
      ledgerArtifactRequests :=
        db.ledgerArtifactRequests.update requestId (turnedPage nextCursor status) }

lemma after_induction {Inv : Database → Prop} {db : Database} {α : Type}
    {result : Except WorkerError (α × Database)} (hdb : Inv db)
    (hok : ∀ reply db', result = .ok (reply, db') → Inv db') : Inv (db.after result) := by
  cases result with
  | error e => exact hdb
  | ok r => exact hok r.1 r.2 rfl

variable {new : RunOwner → Prop} {paged : String → Prop} {R : Database → Database → Prop}
  {db db' : Database}

variable {now : ℕ}

lemma DownloadLeased.leased {lease : PartitionDownloadLease} {row : PartitionDownloadRequest}
    (h : db.DownloadLeased lease now row) : db.Leased lease.toLease now := h.run

lemma BundleLeased.leased {lease : Lease} {requestId : String}
    (h : db.BundleLeased lease requestId now) : db.Leased lease now := by
  obtain ⟨run, hrun, -, -, hmatch⟩ := h
  exact ⟨run, hrun, hmatch⟩

namespace OfWrites

lemma createdBeside (hR : OfWrites new R) {db₁ : Database} {id : String} {run : ProcessingRun}
    (hrun : db₁.createRun id run = .ok db') (hnew : new run.owner)
    (hruns : db₁.processingRuns = db.processingRuns) (hledger : db₁.ledgerRows = db.ledgerRows) :
    R db db' := hR.trans (hR.beside hruns hledger) (hR.created hnew hrun)

/-! ### Imports, documents and downloads -/

lemma importStep {op : ImportOperation} (hR : OfWrites (Operation.newOwner (.imports op)) R) :
    R db (db.importStep op) := by
  cases op with
  | reserveUpload input refused =>
    refine commit_induction (hR.refl db) fun db' h => ?_
    rcases reserveUpload_ok h with rfl | ⟨job, jobs, -, -, -, rfl⟩
    · exact hR.refl _
    · exact hR.beside rfl rfl
  | queueCompletedUpload seen orgId jobId runId key refused now =>
    refine commit_induction (hR.refl db) fun db' h => ?_
    rcases queueCompletedUpload_ok h with rfl | ⟨-, -, hrun⟩
    · exact hR.refl _
    · exact hR.createdBeside hrun ⟨rfl, rfl⟩ rfl rfl
  | finishUpload input now => exact hR.beside rfl rfl
  | deleteTerminalJobs before limit => exact hR.deleted db before limit
  | enqueueGarbage objectKey reason now => exact hR.beside rfl rfl
  | markObjectDeleted objectKey => exact hR.beside rfl rfl
  | deleteGarbage id now => exact hR.beside rfl rfl
  | postponeGarbage id errorCode availableAt => exact hR.beside rfl rfl

lemma documentStep {op : DocumentOperation}
    (hR : OfWrites (Operation.newOwner (.documents op)) R) : R db (db.documentStep op) := by
  cases op with
  | createUploadedDocument input runId refused now =>
    refine commit_induction (hR.refl db) fun db' h => ?_
    obtain ⟨document, documents, -, hrun⟩ := createUploadedDocument_ok h
    exact hR.createdBeside hrun ⟨rfl, rfl⟩ rfl rfl
  | reserveStructuredImport input importBatchId refused =>
    refine commit_induction (hR.refl db) fun db' h => ?_
    obtain ⟨document, documents, batch, batches, -, -, -, -, -, rfl⟩ :=
      reserveStructuredImport_ok h
    exact hR.beside rfl rfl
  | enqueueReservedStructuredImport orgId importBatchId runId now =>
    refine commit_induction (hR.refl db) fun db' h => ?_
    rcases enqueueReservedStructuredImport_ok h with rfl | ⟨batch, -, -, -, hrun⟩
    · exact hR.refl _
    · exact hR.createdBeside hrun ⟨rfl, rfl⟩ rfl rfl
  | archiveDocuments orgId documentIds partitions now =>
    rw [Database.documentStep]
    rcases db.archiveDocuments_cases orgId documentIds partitions now with heq | ⟨p, heq⟩
    · rw [heq]
      exact hR.refl db
    · rw [heq]
      refine hR.trans ?_ (hR.changed _ partitions)
      exact hR.beside rfl rfl
  | publishCostCards input refused leaseNow now =>
    refine commit_induction (hR.refl db) fun db' h => ?_
    obtain ⟨-, run, batch, hrun, -, -, hmatch, -, -, rfl⟩ := publishCostCards_ok h
    exact hR.leased ⟨run, hrun, hmatch⟩ rfl (fun _ => rfl) rfl

lemma invalidateDownloads (hR : OfWrites new R) (orgId : String) (partitionIds : List String)
    (now : ℕ) : R db (db.invalidateDownloads orgId partitionIds now) := by
  refine invalidateDownloads_keeps (hR.refl db) orgId partitionIds now fun db' id h => ?_
  refine hR.trans h ?_
  rcases db'.invalidateDownload_cases orgId id now with heq | ⟨row, -, heq⟩
  · rw [heq]
    exact hR.refl db'
  · rw [heq]
    refine hR.trans ?_ (hR.terminated _ id row .failed _ now)
    exact hR.beside rfl rfl

lemma downloadStep {op : DownloadOperation}
    (hR : OfWrites (Operation.newOwner (.downloads op)) R) : R db (db.downloadStep op) := by
  cases op with
  | prepare limits input requestId runId refused now =>
    refine commit_induction (hR.refl db) fun db' h => ?_
    rcases prepareDownload_ok h with rfl | ⟨id, row, -, -, rfl⟩ |
      ⟨downloads, -, rfl | hrun⟩
    · exact hR.refl _
    · exact hR.terminated db id row _ _ now
    · exact hR.beside rfl rfl
    · exact hR.createdBeside hrun ⟨rfl, rfl⟩ rfl rfl
  | markRunning lease current now finishedAt =>
    refine after_induction (hR.refl db) fun ok db' h => ?_
    rcases markDownloadRunning_ok h with rfl | ⟨row, -, ⟨status, code, -, rfl⟩ | rfl⟩
    · exact hR.refl _
    · exact hR.terminated db _ row status code now
    · exact hR.beside rfl rfl
  | recordProgress lease completed now finishedAt =>
    refine after_induction (hR.refl db) fun ok db' h => ?_
    rcases recordDownloadProgress_ok h with rfl |
      ⟨row, -, ⟨status, code, -, rfl⟩ | ⟨-, -, rfl⟩⟩
    · exact hR.refl _
    · exact hR.terminated db _ row status code now
    · exact hR.beside rfl rfl
  | fail lease errorCode now finishedAt =>
    refine after_induction (hR.refl db) fun ok db' h => ?_
    rcases failDownload_ok h with rfl | ⟨row, -, ⟨status, code, -, rfl⟩ | ⟨⟨⟩⟩⟩
    · exact hR.refl _
    · exact hR.terminated db _ row status code now
  | registerCandidate lease objectKey now finishedAt =>
    refine after_induction (hR.refl db) fun ok db' h => ?_
    rcases registerDownloadCandidate_ok h with rfl | ⟨row, -, ⟨status, code, -, rfl⟩ | ⟨-, rfl⟩⟩
    · exact hR.refl _
    · exact hR.terminated db _ row status code now
    · exact hR.beside rfl rfl
  | publish lease artifact current now finishedAt =>
    refine after_induction (hR.refl db) fun ok db' h => ?_
    rcases publishDownload_ok h with rfl |
      ⟨row, hleased, ⟨status, code, -, rfl⟩ | ⟨-, -, garbage, -, rfl⟩⟩
    · exact hR.refl _
    · exact hR.terminated db _ row status code now
    · exact hR.leased hleased.leased rfl (fun _ => rfl) rfl
  | expire orgId requestId clock now =>
    rw [Database.downloadStep]
    rcases db.expireDownload_cases orgId requestId clock now with heq | ⟨row, -, -, heq⟩
    · rw [heq]
      exact hR.refl db
    · rw [heq]
      exact hR.terminated db _ row _ _ now
  | invalidate orgId partitionIds now => exact hR.invalidateDownloads orgId partitionIds now

end OfWrites

namespace OfRequests

/-! ### Ledger requests -/

lemma pagePartitions (hR : OfRequests new paged R) (keys fresh : List LedgerPartitionKey) :
    R db (db.pagePartitions keys fresh) := by
  unfold Database.pagePartitions
  induction keys generalizing db with
  | nil => exact hR.refl db
  | cons key keys ih =>
    rw [List.foldl_cons]
    refine hR.trans ?_ ih
    split
    · exact hR.requested db key
    · exact hR.locked db key

lemma items (hR : OfRequests new paged R) {orgId requestId : String} {actor : LedgerActor}
    {ids : RefreshIds} {keys : List LedgerPartitionKey}
    (hnew : ∀ key generation, new (ledgerPdfRun orgId (ids.item key) actor key generation now).owner)
    (h : db.enqueuePartitions orgId actor requestId ids keys now = .ok db') : R db db' := by
  induction keys generalizing db with
  | nil =>
    cases h
    exact hR.refl _
  | cons key keys ih =>
    obtain ⟨db₁, hone, hrest⟩ := bind_eq_ok.mp h
    exact hR.trans (hR.item (hnew key) hone) (ih hrest)

lemma requestRefresh (hR : OfRequests new paged R) {input : ReserveLedgerRefreshInput}
    {ids : RefreshIds} {keys : List LedgerPartitionKey} {answer : Option LedgerRequestRef}
    (hnew : ∀ key generation,
      new (ledgerPdfRun input.orgId (ids.item key) input.actor key generation now).owner)
    (h : db.requestRefresh input ids keys now = .ok (answer, db')) : R db db' := by
  obtain ⟨request, db₁, hunbundled, hcreate, henqueue⟩ := requestRefresh_ok h
  have hgenerations : ∀ db : Database, R db (keys.foldl requestGeneration db) := by
    clear hcreate henqueue h hnew
    induction keys with
    | nil => exact hR.refl
    | cons key keys ih => exact fun db => hR.trans (hR.requested db key) (ih _)
  exact hR.trans (hgenerations db) (hR.trans (hR.request hunbundled hcreate)
    (hR.items hnew henqueue))

lemma ledgerRequestStep {op : LedgerRequestOperation}
    (hR : OfRequests (Operation.newOwner (.ledgerRequests op))
      (fun id => (Operation.ledgerRequests op).pageOf = some id) R) :
    R db (db.ledgerRequestStep op) := by
  cases op with
  | markLedgerPartitionsChanged keys => exact hR.changed db keys
  | beginInternalRefresh input requestId refused =>
    refine after_induction (hR.refl db) fun state db' h => ?_
    rcases beginInternalRefresh_ok h with rfl | ⟨request, hnew, hcreate⟩
    · exact hR.refl _
    · exact hR.request hnew hcreate
  | appendInternalRefreshPage input ids refused now =>
    refine after_induction (hR.refl db) fun state db' h => ?_
    rcases appendInternalRefreshPage_ok h with rfl |
      ⟨actor, fresh, db₁, status, -, -, henqueue, rfl⟩
    · exact hR.refl _
    · exact hR.trans (hR.pagePartitions _ fresh)
        (hR.trans (hR.items (fun key generation => ⟨rfl, rfl⟩) henqueue)
          (hR.page rfl input.nextCursor status))
  | reserveRefresh input ids refused fingerprint now =>
    refine after_induction (hR.refl db) fun answer db' h => ?_
    rcases reserveRefresh_ok h with rfl | ⟨key, rfl⟩ | ⟨keys, -, hrequest⟩ | ⟨key, hrequest⟩
    · exact hR.refl _
    · exact hR.locked db key
    · exact hR.requestRefresh (fun key generation => ⟨rfl, rfl⟩) hrequest
    · exact hR.trans (hR.locked db key)
        (hR.requestRefresh (fun key generation => ⟨rfl, rfl⟩) hrequest)
  | reserveBundle input requestId runId refused now =>
    refine after_induction (hR.refl db) fun answer db' h => ?_
    rcases reserveBundle_ok h with rfl | ⟨request, db₁, hnew, hcreate, hrun⟩
    · exact hR.refl _
    · exact hR.trans (hR.request hnew hcreate) (hR.created ⟨rfl, rfl⟩ hrun)
  | scheduleReconciliation orgId scheduleDate reconciliationId runId now =>
    refine commit_induction (hR.refl db) fun db' h => ?_
    obtain ⟨reconciliations, rfl | ⟨id, hrun⟩⟩ := scheduleReconciliation_ok h
    · exact hR.beside rfl rfl
    · exact hR.createdBeside hrun ⟨rfl, rfl⟩ rfl rfl
  | checkpoint orgId reconciliationId lease completed failed now =>
    refine commit_induction (hR.refl db) fun db' h => ?_
    obtain ⟨hleased, reconciliations, rfl⟩ := checkpoint_ok h
    exact hR.leased hleased rfl (fun _ => rfl) rfl

end OfRequests

end Database
end SmeDataCenter
