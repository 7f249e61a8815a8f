import SmeDataCenter.WorkerCalls

/-!
# Documents and structured imports

What the API writes for a source: an uploaded document comes with its run, a structured import
with its batch, which is enqueued later, and a document can be archived. The publication of cost
cards, which ends a structured import like the completion of the other datasets, is here too.
What the organization, its authorization and the upload refuse a call for is given as `refused`.
-/

namespace SmeDataCenter

open Runs
open Table (Keeps)

structure CreateUploadedDocumentInput where
  id : String
  orgId : String
  documentKind : Option DocumentKind
  status : DocumentStatus

/-- `evidence_document_index` -/
def evidenceRun (orgId documentId : String) (now : ℕ) : ProcessingRun where
  orgId := orgId
  jobKey := "evidence_document_index:" ++ documentId ++ ":v1"
  jobType := .evidenceDocumentIndex
  documentId := some documentId
  attemptNumber := 1
  availableAt := now
  createdAt := now

structure ReserveStructuredImportInput where
  documentId : String
  orgId : String
  dataset : ImportDataset
  startDate : Option String
  endDate : Option String

/-- The run of a reserved import. -/
def structuredImportRun (orgId documentId importBatchId : String) (now : ℕ) : ProcessingRun where
  orgId := orgId
  jobKey := "structured_import:" ++ importBatchId
  jobType := .structuredImport
  documentId := some documentId
  availableAt := now
  createdAt := now

structure CostCardPublishInput where
  orgId : String
  sourceDocumentId : String
  importBatchId : String
  lease : Lease

namespace Database

/-- The route uploads evidence only. -/
def createUploadedDocument (db : Database) (input : CreateUploadedDocumentInput) (runId : String)
    (refused : Option String) (now : ℕ) : Except WorkerError Database :=
  match refused with
  | some code => .error (.thrown code)
  | none => do
    let documents ← createOrThrow db.documents input.id
      { orgId := input.orgId, documentKind := input.documentKind, status := input.status }
    ({ db with documents } : Database).createRun runId (evidenceRun input.orgId input.id now)

/-- A document and its batch; the document of a batch is its own. -/
def reserveStructuredImport (db : Database) (input : ReserveStructuredImportInput)
    (importBatchId : String) (refused : Option String) : Except WorkerError Database :=
  match refused with
  | some code => .error (.thrown code)
  | none => do
    let documents ← createOrThrow db.documents input.documentId
      { orgId := input.orgId, documentKind := some .structured, status := .uploading }
    if (db.importBatches.findMany fun _ b => b.sourceDocumentId = input.documentId) ≠ [] then
      throw (.thrown "P2002")
    else
      let importBatches ← createOrThrow db.importBatches importBatchId
        { orgId := input.orgId, sourceDocumentId := input.documentId, dataset := input.dataset
          startDate := input.startDate, endDate := input.endDate }
      return { db with documents, importBatches }

/-- The runs of a document. -/
def runsOfDocument (db : Database) (documentId : String) : List (String × ProcessingRun) :=
  db.processingRuns.findMany fun _ run => run.documentId = some documentId

def enqueueReservedStructuredImport (db : Database) (orgId importBatchId runId : String)
    (now : ℕ) : Except WorkerError Database :=
  match (db.importBatches.lookup importBatchId).filter (·.orgId = orgId) with
  | none => .error (.thrown "Reserved import batch was not found.")
  | some existing =>
    if db.runsOfDocument existing.sourceDocumentId ≠ [] then .ok db
    else do
      let documents ← updateOrThrow db.documents existing.sourceDocumentId fun d =>
        { d with status := .pendingProcessing }
      ({ db with documents } : Database).createRun runId
        (structuredImportRun orgId existing.sourceDocumentId importBatchId now)

/-- Archive documents that are not yet archived; the ledger partitions they were sources of have
changed. -/
def archiveDocuments (db : Database) (orgId : String) (documentIds : List String)
    (partitions : List LedgerPartitionKey) (now : ℕ) : Database :=
  let open? (id : String) (d : Document) : Bool :=
    documentIds.contains id && d.orgId = orgId && d.status ≠ .archived && d.archivedAt.isNone
  if (db.documents.findMany open?).isEmpty then db
  else ({ db with
    documents := db.documents.updateMany open? fun d =>
      { d with status := .archived, archivedAt := some now } } : Database).markLedgerPartitionsChanged
        partitions

/-- The row of a run whose lease has been seen, and that has succeeded. -/
def succeedPublished (leaseNow now : ℕ) (run : ProcessingRun) : ProcessingRun :=
  succeed now (touch leaseNow run)

/-- The end of an import of cost cards, under its lease. -/
def publishCostCards (db : Database) (input : CostCardPublishInput) (refused : Option String)
    (leaseNow now : ℕ) : Except WorkerError Database :=
  match (db.processingRuns.lookup input.lease.runId).filter fun run =>
      run.orgId = input.orgId && run.documentId = some input.sourceDocumentId &&
        run.jobType = .structuredImport && leaseMatches input.lease leaseNow run with
  | none => .error (.thrown "PROCESSING_LEASE_LOST")
  | some _ =>
    match (db.findBatch input.importBatchId input.sourceDocumentId input.orgId
        [.validating, .applying]).filter (·.dataset = .costCards), refused with
    | none, _ => .error (.thrown "COST_CARD_BATCH_NOT_APPLICABLE")
    | some _, some code => .error (.thrown code)
    | some _, none => do
      let documents ← updateOrThrow db.documents input.sourceDocumentId fun d =>
        { d with status := .active }
      return { db with
        documents
        importBatches := db.importBatches.update input.importBatchId fun b =>
          { b with status := .applied, errorCode := none, errorSummary := none }
        processingRuns := db.processingRuns.update input.lease.runId
          (succeedPublished leaseNow now) }

end Database
end SmeDataCenter
