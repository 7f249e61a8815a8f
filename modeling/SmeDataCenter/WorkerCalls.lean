import Mathlib.Data.List.Dedup
import SmeDataCenter.ProcessingFailure
import SmeDataCenter.StructuredPartitions

/-!
# The calls of workers

The calls that any number of workers make on the shared database, in any order: claims, renewals
and the writes made under a lease. A call replies to its worker and leaves a database behind.
What each call does to the table of runs is said once here: a claim rewrites the run it found,
and any other call writes at most the run of its lease, and only while the lease is active.
-/

namespace SmeDataCenter

open Runs
open Table (Keeps)

/-- A call, with the time it reads. What a claim has seen may be older than the database. -/
inductive Call where
  | claimNextProcessingRun (seen : Database) (workerId : String) (leaseSeconds now : ℕ)
  | heartbeatProcessingRun (lease : Lease) (leaseSeconds now : ℕ)
  | completePartitionProcessing (lease : Lease) (now : ℕ)
  | completeEvidenceIndexing (lease : Lease) (documentId : String) (activation : Option String)
      (now : ℕ)
  | beginStructuredImportApply (lease : Lease) (documentId importBatchId : String) (now : ℕ)
  | completeStructuredImport (lease : Lease) (documentId importBatchId : String)
      (persistence : Option String) (partitions : List LedgerPartitionKey) (now : ℕ)
  | rejectStructuredImport (lease : Lease) (documentId importBatchId : String) (now : ℕ)
  | failProcessingRun (lease : Lease) (input : FailProcessingRunInput) (now : ℕ)
  | finishJob (lease : Lease) (input : FinishJobInput) (now : ℕ)
  | publishSourceAtomically (lease : Lease) (input : PublishSourceInput)
      (refused : Option String) (transition : Bool) (now : ℕ)

namespace Call

/-- Whose attempt the call is made for. -/
def lease : Call → Option Lease
  | claimNextProcessingRun .. => none
  | heartbeatProcessingRun lease .. => some lease
  | completePartitionProcessing lease _ => some lease
  | completeEvidenceIndexing lease .. => some lease
  | beginStructuredImportApply lease .. => some lease
  | completeStructuredImport lease .. => some lease
  | rejectStructuredImport lease .. => some lease
  | failProcessingRun lease .. => some lease
  | finishJob lease .. => some lease
  | publishSourceAtomically lease .. => some lease

def now : Call → ℕ
  | claimNextProcessingRun _ _ _ now => now
  | heartbeatProcessingRun _ _ now => now
  | completePartitionProcessing _ now => now
  | completeEvidenceIndexing _ _ _ now => now
  | beginStructuredImportApply _ _ _ now => now
  | completeStructuredImport _ _ _ _ _ now => now
  | rejectStructuredImport _ _ _ now => now
  | failProcessingRun _ _ now => now
  | finishJob _ _ now => now
  | publishSourceAtomically _ _ _ _ now => now

/-- Does the call complete its run successfully when it is accepted? -/
def completes : Call → Bool
  | completePartitionProcessing .. | completeEvidenceIndexing ..
  | completeStructuredImport .. => true
  | _ => false

/-- Is this a call that a worker makes for the run? It dispatches on the job type, and passes on
the document it was handed with the run. -/
def suits (run : ProcessingRun) : Call → Bool
  | claimNextProcessingRun .. | heartbeatProcessingRun .. => true
  | completePartitionProcessing .. | finishJob .. | publishSourceAtomically .. =>
    run.jobType = .structuredPartitionImport
  | completeEvidenceIndexing _ documentId .. =>
    run.jobType = .evidenceDocumentIndex && run.documentId = some documentId
  | beginStructuredImportApply _ documentId ..
  | completeStructuredImport _ documentId ..
  | rejectStructuredImport _ documentId .. =>
    run.jobType = .structuredImport && run.documentId = some documentId
  | failProcessingRun lease input _ =>
    input.documentId = (run.documentId <|> run.partitionImportJobId).getD lease.runId

/-- The call suits the run it is made for. -/
def dispatched (db : Database) (call : Call) : Bool :=
  (call.lease.bind fun lease => db.processingRuns.lookup lease.runId).all (suits · call)

end Call

/-- What a worker is told. -/
inductive Reply where
  | claimed (run : ClaimedProcessingRun)
  | nothing
  | done
  | threw (error : WorkerError)
  deriving DecidableEq

/-- The reply to a leased write, and the database after it. -/
def replyTo (db : Database) : Except WorkerError Database → Reply × Database
  | .ok db => (.done, db)
  | .error error => (.threw error, db)

/-- One call. `config` is the retrieval configuration version of the workers. -/
def perform (config : Option String) (db : Database) : Call → Reply × Database
  | .claimNextProcessingRun seen workerId leaseSeconds now =>
    match Database.claimNextProcessingRun seen db config workerId leaseSeconds now with
    | .ok (some run, db) => (.claimed run, db)
    | .ok (none, db) => (.nothing, db)
    | .error error => (.threw error, db)
  | .heartbeatProcessingRun lease leaseSeconds now =>
    replyTo db (db.heartbeatProcessingRun lease leaseSeconds now)
  | .completePartitionProcessing lease now =>
    replyTo db (db.completePartitionProcessing lease now)
  | .completeEvidenceIndexing lease documentId activation now =>
    replyTo db (db.completeEvidenceIndexing lease documentId activation now)
  | .beginStructuredImportApply lease documentId importBatchId now =>
    replyTo db (db.beginStructuredImportApply lease documentId importBatchId now)
  | .completeStructuredImport lease documentId importBatchId persistence partitions now =>
    replyTo db
      (db.completeStructuredImport lease documentId importBatchId persistence partitions now)
  | .rejectStructuredImport lease documentId importBatchId now =>
    replyTo db (db.rejectStructuredImport lease documentId importBatchId now)
  | .failProcessingRun lease input now =>
    match db.failProcessingRun lease input now with
    | (none, db) => (.done, db)
    | (some error, db) => (.threw error, db)
  | .finishJob lease input now => replyTo db (db.finishJob input (some lease) now)
  | .publishSourceAtomically lease input refused transition now =>
    replyTo db (db.publishSourceAtomically input lease refused transition now)

/-- The database after a call that a worker makes. -/
def performed (config : Option String) (db : Database) (call : Call) : Database :=
  if call.dispatched db then (perform config db call).2 else db

/-! ### What the parts of a claim write -/

namespace Database

/-- The run indexes an active document again. -/
def reindexes (seen : Database) (config : Option String) (run : ProcessingRun) : Bool :=
  (run.documentId.bind seen.documents.lookup).any (·.status = .active) &&
    config.any fun version => isEvidenceReindexJobForConfig run.jobKey version

/-- The batches that the claim of a structured import can take up. -/
def claimableBatches (seen : Database) (run : ProcessingRun) (documentId : String) :
    List (String × ImportBatch) :=
  seen.importBatches.findMany fun _ b => b.sourceDocumentId = documentId && b.orgId = run.orgId &&
    b.status.claimable

variable {seen db db' : Database} {run : ProcessingRun} {lease : Lease} {now : ℕ}

lemma claimDocument_ok {reindex : Bool} {document : Option Document}
    (h : claimDocument seen db run reindex = .ok (document, db')) :
    ∃ documents, db' = { db with
        documents := documents } ∧
      (documents = db.documents ∨ ∃ id, run.documentId = some id ∧
        isLedgerJob run.jobType = false ∧ reindex = false ∧
        documents = db.documents.update id fun d => { d with status := .processing }) := by
  unfold claimDocument at h
  split at h
  · cases h
    exact ⟨_, rfl, .inl rfl⟩
  rename_i id hid
  split_ifs at h with hkind hreindex
  · cases h
    exact ⟨_, rfl, .inl rfl⟩
  · cases h
    exact ⟨_, rfl, .inl rfl⟩
  · obtain ⟨documents, hdocuments, h⟩ := bind_eq_ok.mp h
    cases h
    exact ⟨_, rfl, .inr ⟨id, hid, by simpa using hkind, by simpa using hreindex,
      (updateOrThrow_eq_ok.mp hdocuments).2⟩⟩

lemma claimLedgerOwner_ok (h : claimLedgerOwner db run now = .ok db') :
    ∃ items requests reconciliations, db' = { db with
        ledgerArtifactRequestItems := items
        ledgerArtifactRequests := requests
        ledgerPdfReconciliationRuns := reconciliations } ∧
      Keeps LedgerArtifactRequestItem.target db.ledgerArtifactRequestItems items ∧
      Keeps LedgerArtifactRequest.facts db.ledgerArtifactRequests requests ∧
      Keeps (·.orgId) db.ledgerPdfReconciliationRuns reconciliations := by
  unfold claimLedgerOwner at h
  split at h
  · obtain ⟨items, hitems, h⟩ := bind_eq_ok.mp h
    cases h
    refine ⟨_, _, _, rfl, ?_, .refl _ _, .refl _ _⟩
    rw [(updateOrThrow_eq_ok.mp hitems).2]
    exact .update fun _ => rfl
  · obtain ⟨requests, hrequests, h⟩ := bind_eq_ok.mp h
    cases h
    refine ⟨_, _, _, rfl, .refl _ _, ?_, .refl _ _⟩
    rw [(updateOrThrow_eq_ok.mp hrequests).2]
    exact .update fun _ => rfl
  · obtain ⟨reconciliations, hreconciliations, h⟩ := bind_eq_ok.mp h
    cases h
    refine ⟨_, _, _, rfl, .refl _ _, .refl _ _, ?_⟩
    rw [(updateOrThrow_eq_ok.mp hreconciliations).2]
    exact .update fun _ => rfl
  · cases h
    exact ⟨_, _, _, rfl, .refl _ _, .refl _ _, .refl _ _⟩

lemma claimPartitionImport_ok {runId : String}
    (h : claimPartitionImport seen db runId run = .ok db') :
    ∃ jobs, db' = { db with
        partitionImportJobs := jobs } ∧
      (jobs = db.partitionImportJobs ∨ ∃ jobId, run.jobType = .structuredPartitionImport ∧
        run.partitionImportJobId = some jobId ∧
        ((seen.partitionImportJobs.lookup jobId).bind (·.temporaryObjectKey)).isSome = true ∧
        jobs = db.partitionImportJobs.update jobId fun job =>
          { job with status := .processing, errorCode := none, errorSummary := none }) := by
  unfold claimPartitionImport at h
  split_ifs at h with htype
  · split at h
    · cases h
    rename_i jobId hjobId
    split_ifs at h with hkey
    obtain ⟨jobs, hjobs, h⟩ := bind_eq_ok.mp h
    cases h
    refine ⟨_, rfl, .inr ⟨jobId, htype, hjobId, ?_, (updateOrThrow_eq_ok.mp hjobs).2⟩⟩
    simpa [Option.isSome_iff_ne_none] using hkey
  · cases h
    exact ⟨_, rfl, .inl rfl⟩

/-- The batch of an import, taken up from those that can be. -/
def TakesUpBatch (seen db db' : Database) (run : ProcessingRun) : Prop :=
  ∃ documentId batchId batch, run.documentId = some documentId ∧
    (batchId, batch) ∈ seen.claimableBatches run documentId ∧
    db'.importBatches = db.importBatches.update batchId fun b =>
      { b with status := .validating, errorCode := none, errorSummary := none }

lemma claimStructuredImport_ok {runId : String} {claim : Option StructuredImportClaim}
    (h : claimStructuredImport seen db runId run = .ok (claim, db')) :
    ∃ batches, db' = { db with
        importBatches := batches } ∧
      ((run.jobType ≠ .structuredImport ∧ batches = db.importBatches) ∨
        run.jobType = .structuredImport ∧ TakesUpBatch seen db db' run) := by
  unfold claimStructuredImport at h
  split_ifs at h with hkind
  · split at h
    · cases h
    rename_i documentId hdocument
    split at h
    · cases h
    · rename_i batchId batch hbatch
      obtain ⟨batches, hbatches, h⟩ := bind_eq_ok.mp h
      cases h
      exact ⟨_, rfl, .inr ⟨hkind, documentId, batchId, batch, hdocument,
        List.mem_of_mem_head? hbatch, (updateOrThrow_eq_ok.mp hbatches).2⟩⟩
  · cases h
    exact ⟨_, rfl, .inl ⟨hkind, rfl⟩⟩

variable {config : Option String}

lemma findNextRun_some {id : String} (h : db.findNextRun config now = some (id, run)) :
    db.processingRuns.lookup id = some run ∧ db.eligible config now run = true := by
  unfold findNextRun at h
  have hmem := List.mem_of_mem_head? h
  rw [List.mem_insertionSort] at hmem
  exact Table.mem_findMany.mp hmem

/-- What the claim of a run writes. -/
structure ClaimWrites (seen db : Database) (config : Option String) (id : String)
    (run : ProcessingRun) (f : ProcessingRun → ProcessingRun) (db' : Database) : Prop where
  runs : db'.processingRuns = db.processingRuns.update id f
  documents : db'.documents = db.documents ∨ ∃ documentId, run.documentId = some documentId ∧
    isLedgerJob run.jobType = false ∧ seen.reindexes config run = false ∧
    db'.documents = db.documents.update documentId fun d => { d with status := .processing }
  batches : (run.jobType ≠ .structuredImport ∧ db'.importBatches = db.importBatches) ∨
    run.jobType = .structuredImport ∧ TakesUpBatch seen db db' run
  jobs : db'.partitionImportJobs = db.partitionImportJobs ∨ ∃ jobId,
    run.jobType = .structuredPartitionImport ∧ run.partitionImportJobId = some jobId ∧
    ((seen.partitionImportJobs.lookup jobId).bind (·.temporaryObjectKey)).isSome = true ∧
    db'.partitionImportJobs = db.partitionImportJobs.update jobId fun job =>
      { job with status := .processing, errorCode := none, errorSummary := none }
  items : Keeps LedgerArtifactRequestItem.target db.ledgerArtifactRequestItems
    db'.ledgerArtifactRequestItems
  requests : Keeps LedgerArtifactRequest.facts db.ledgerArtifactRequests
    db'.ledgerArtifactRequests
  reconciliations : Keeps (·.orgId) db.ledgerPdfReconciliationRuns
    db'.ledgerPdfReconciliationRuns
  partitions : db'.structuredPartitions = db.structuredPartitions
  downloads : db'.partitionDownloadRequests = db.partitionDownloadRequests
  ledgerPartitions : db'.ledgerPdfPartitions = db.ledgerPdfPartitions
  garbage : db'.storageGarbage = db.storageGarbage
  nextGarbageId : db'.nextGarbageId = db.nextGarbageId

variable {seconds : ℕ}

lemma claimRun_ok {workerId id : String} {claimed : ClaimedProcessingRun}
    {current : ProcessingRun} (hcurrent : db.processingRuns.lookup id = some current)
    (h : claimRun seen db config workerId seconds now id run = .ok (claimed, db')) :
    claimed.id = id ∧ claimed.attemptNumber = current.attemptNumber + 1 ∧
      claimed.lockedBy = some workerId ∧
      ClaimWrites seen db config id run (·.claimed workerId (addSeconds now seconds) now) db' := by
  unfold claimRun at h
  obtain ⟨⟨document, db₁⟩, hdocument, h⟩ := bind_eq_ok.mp h
  obtain ⟨db₂, hledger, h⟩ := bind_eq_ok.mp h
  obtain ⟨db₃, hpartition, h⟩ := bind_eq_ok.mp h
  obtain ⟨⟨structured, db₄⟩, hstructured, h⟩ := bind_eq_ok.mp h
  obtain ⟨row, hrow, h⟩ := bind_eq_ok.mp h
  cases h
  obtain ⟨documents, rfl, hdocuments⟩ := claimDocument_ok hdocument
  obtain ⟨items, requests, reconciliations, rfl, hitems, hrequests, hreconciliations⟩ :=
    claimLedgerOwner_ok hledger
  obtain ⟨jobs, rfl, hjobs⟩ := claimPartitionImport_ok hpartition
  obtain ⟨batches, rfl, hbatches⟩ := claimStructuredImport_ok hstructured
  have hclaimed : row = current.claimed workerId (addSeconds now seconds) now := by
    rw [findUniqueOrThrow_eq_ok, Table.lookup_update, if_pos rfl, hcurrent] at hrow
    exact (Option.some.inj hrow).symm
  subst hclaimed
  exact ⟨rfl, rfl, rfl, rfl, hdocuments, hbatches, hjobs, hitems, hrequests, hreconciliations,
    rfl, rfl, rfl, rfl, rfl⟩

lemma claimNextProcessingRun_cases {workerId : String} {claimed : Option ClaimedProcessingRun}
    (h : claimNextProcessingRun seen db config workerId seconds now = .ok (claimed, db')) :
    (claimed = none ∧ db' = db) ∨ ∃ id found run r, claimed = some r ∧
      seen.findNextRun config now = some (id, found) ∧ db.processingRuns.lookup id = some run ∧
      claimGuard now found run = true ∧
      claimRun seen db config workerId seconds now id found = .ok (r, db') := by
  unfold claimNextProcessingRun at h
  split at h
  · cases h
    exact .inl ⟨rfl, rfl⟩
  rename_i id found hfind
  split at h
  · cases h
    exact .inl ⟨rfl, rfl⟩
  rename_i run hrun
  split_ifs at h with hguard
  · cases hclaim : claimRun seen db config workerId seconds now id found with
    | error e => simp [hclaim, Except.map] at h
    | ok result =>
      obtain ⟨r, db₁⟩ := result
      simp only [hclaim, Except.map, Except.ok.injEq, Prod.mk.injEq] at h
      obtain ⟨rfl, rfl⟩ := h
      exact .inr ⟨id, found, run, r, rfl, hfind, hrun, hguard, hclaim⟩
  · cases h
    exact .inl ⟨rfl, rfl⟩

/-- **What a claim does**: it finds no run, or it rewrites a run that it found eligible and that
is still as it was found. -/
lemma claimNextProcessingRun_ok {workerId : String} {claimed : Option ClaimedProcessingRun}
    (h : claimNextProcessingRun seen db config workerId seconds now = .ok (claimed, db')) :
    (claimed = none ∧ db' = db) ∨
      ∃ found run r, claimed = some r ∧ r.attemptNumber = run.attemptNumber + 1 ∧
        r.lockedBy = some workerId ∧
        seen.processingRuns.lookup r.id = some found ∧ seen.eligible config now found = true ∧
        db.processingRuns.lookup r.id = some run ∧ claimGuard now found run = true ∧
        ClaimWrites seen db config r.id found (·.claimed workerId (addSeconds now seconds) now)
          db' := by
  rcases claimNextProcessingRun_cases h with hnone | ⟨id, found, run, r, rfl, hfind, hrun, hguard,
    hclaim⟩
  · exact .inl hnone
  · obtain ⟨hfound, heligible⟩ := findNextRun_some hfind
    obtain ⟨rfl, hattempt, hworker, hwrites⟩ := claimRun_ok hrun hclaim
    exact .inr ⟨found, run, r, rfl, hattempt, hworker, hfound, heligible, hrun, hguard, hwrites⟩

/-! ### Writes under a lease -/

/-- The lease is the run's: running, by this worker, in this attempt, before the deadline. -/
def Leased (db : Database) (lease : Lease) (now : ℕ) : Prop :=
  ∃ run, db.processingRuns.lookup lease.runId = some run ∧ leaseMatches lease now run = true

lemma updateLeased_active {download : Bool} {f : ProcessingRun → ProcessingRun}
    (h : db.updateLeased lease now download f = .ok db') :
    ∃ run, db.processingRuns.lookup lease.runId = some run ∧
      activeLeaseWhere lease now download run = true ∧
      db' = { db with
        processingRuns := db.processingRuns.update lease.runId f } ∧
      db'.processingRuns.lookup lease.runId = some (f run) := by
  unfold updateLeased at h
  split at h
  · cases h
  rename_i run hrun
  split_ifs at h with hactive
  cases h
  refine ⟨run, hrun, hactive, rfl, ?_⟩
  rw [Table.lookup_update, if_pos rfl, hrun, Option.map_some]

lemma updateLeased_ok {download : Bool} {f : ProcessingRun → ProcessingRun}
    (h : db.updateLeased lease now download f = .ok db') :
    db.Leased lease now ∧
      db' = { db with
        processingRuns := db.processingRuns.update lease.runId f } := by
  obtain ⟨run, hrun, hactive, hdb', -⟩ := updateLeased_active h
  exact ⟨⟨run, hrun, (Bool.and_eq_true_iff.mp hactive).2⟩, hdb'⟩

lemma heartbeatProcessingRun_ok (h : db.heartbeatProcessingRun lease seconds now = .ok db') :
    db.Leased lease now ∧ db' = { db with
      processingRuns := db.processingRuns.update lease.runId (renew seconds now) } :=
  updateLeased_ok h

lemma completePartitionProcessing_ok (h : db.completePartitionProcessing lease now = .ok db') :
    db.Leased lease now ∧ db' = { db with
      processingRuns := db.processingRuns.update lease.runId (succeed now) } := by
  unfold completePartitionProcessing at h
  split at h
  · cases h
  split_ifs at h
  exact updateLeased_ok h

variable {documentId : String}

lemma completeEvidenceIndexing_ok {activation : Option String}
    (h : db.completeEvidenceIndexing lease documentId activation now = .ok db') :
    db.Leased lease now ∧
      (∃ document, db.documents.lookup documentId = some document ∧
        document.archivedAt = none) ∧ db' = { db with
      processingRuns := db.processingRuns.update lease.runId (succeed now)
      documents := db.documents.update documentId fun d => { d with status := .active } } := by
  unfold completeEvidenceIndexing at h
  obtain ⟨db₁, hwrite, h⟩ := bind_eq_ok.mp h
  obtain ⟨run, -, h⟩ := bind_eq_ok.mp h
  obtain ⟨document, hdocument, h⟩ := bind_eq_ok.mp h
  split_ifs at h with hopen
  split at h
  · cases h
  obtain ⟨documents, hdocuments, h⟩ := bind_eq_ok.mp h
  cases h
  obtain ⟨hleased, rfl⟩ := updateLeased_ok hwrite
  rw [(updateOrThrow_eq_ok.mp hdocuments).2]
  simp only [not_or, Option.not_isSome_iff_eq_none] at hopen
  exact ⟨hleased, ⟨document, findUniqueOrThrow_eq_ok.mp hdocument, hopen.2.2⟩, rfl⟩

variable {importBatchId : String}

lemma beginStructuredImportApply_ok
    (h : db.beginStructuredImportApply lease documentId importBatchId now = .ok db') :
    db.Leased lease now ∧
      (∃ batch, db.importBatches.lookup importBatchId = some batch ∧
        batch.sourceDocumentId = documentId) ∧ db' = { db with
      processingRuns := db.processingRuns.update lease.runId (touch now)
      importBatches := db.importBatches.update importBatchId fun b =>
        { b with status := .applying } } := by
  unfold beginStructuredImportApply at h
  obtain ⟨db₁, hwrite, h⟩ := bind_eq_ok.mp h
  obtain ⟨hleased, rfl⟩ := updateLeased_ok hwrite
  split at h
  · cases h
  rename_i batch hbatch
  cases h
  simp only [Option.filter_eq_some_iff, Bool.and_eq_true, decide_eq_true_eq] at hbatch
  exact ⟨hleased, ⟨batch, hbatch.1, hbatch.2.1⟩, rfl⟩

lemma completeStructuredImport_ok {persistence : Option String}
    {partitions : List LedgerPartitionKey}
    (h : db.completeStructuredImport lease documentId importBatchId persistence partitions now =
      .ok db') :
    db.Leased lease now ∧ persistence = none ∧
      (∃ batch, db.importBatches.lookup importBatchId = some batch ∧
        batch.sourceDocumentId = documentId) ∧
      ∃ keys, db' = ({ db with
        processingRuns := db.processingRuns.update lease.runId (succeed now)
        documents := db.documents.update documentId fun d => { d with status := .active }
        importBatches := db.importBatches.update importBatchId fun b =>
          { b with status := .applied, errorCode := none, errorSummary := none }
        } : Database).markLedgerPartitionsChanged keys := by
  unfold completeStructuredImport at h
  obtain ⟨db₁, hwrite, h⟩ := bind_eq_ok.mp h
  obtain ⟨hleased, rfl⟩ := updateLeased_ok hwrite
  obtain ⟨run, -, h⟩ := bind_eq_ok.mp h
  split at h
  · cases h
  · cases h
  rename_i batch hbatch _ _
  unfold findBatch at hbatch
  rw [Option.filter_eq_some_iff] at hbatch
  simp only [Bool.and_eq_true, decide_eq_true_eq] at hbatch
  split at h
  · obtain ⟨documents, hdocuments, h⟩ := bind_eq_ok.mp h
    cases h
    rw [(updateOrThrow_eq_ok.mp hdocuments).2]
    refine ⟨hleased, rfl, ⟨batch, hbatch.1, hbatch.2.1.1⟩, ?_⟩
    split
    · exact ⟨partitions, rfl⟩
    · exact ⟨[], rfl⟩
  · cases h

lemma rejectStructuredImport_ok
    (h : db.rejectStructuredImport lease documentId importBatchId now = .ok db') :
    db.Leased lease now ∧
      (∃ batch, db.importBatches.lookup importBatchId = some batch ∧
        batch.sourceDocumentId = documentId) ∧ db' = { db with
      processingRuns := db.processingRuns.update lease.runId (rejectRun now)
      documents := db.documents.update documentId fun d => { d with status := .processingFailed }
      importBatches := db.importBatches.update importBatchId fun b =>
        { b with
          status := .rejected, errorCode := some structuredImportRejected
          errorSummary := some "Structured import validation failed." } } := by
  unfold rejectStructuredImport at h
  obtain ⟨db₁, hwrite, h⟩ := bind_eq_ok.mp h
  obtain ⟨hleased, rfl⟩ := updateLeased_ok hwrite
  obtain ⟨run, -, h⟩ := bind_eq_ok.mp h
  split at h
  · cases h
  rename_i batch hbatch
  unfold findBatch at hbatch
  rw [Option.filter_eq_some_iff] at hbatch
  simp only [Bool.and_eq_true, decide_eq_true_eq] at hbatch
  obtain ⟨documents, hdocuments, h⟩ := bind_eq_ok.mp h
  cases h
  rw [(updateOrThrow_eq_ok.mp hdocuments).2]
  exact ⟨hleased, ⟨batch, hbatch.1, hbatch.2.1.1⟩, rfl⟩

/-- The lease is that of an import of the job. -/
def ImportLeased (db : Database) (lease : Lease) (orgId jobId : String) (now : ℕ) : Prop :=
  ∃ run, db.processingRuns.lookup lease.runId = some run ∧ run.orgId = orgId ∧
    run.partitionImportJobId = some jobId ∧ run.jobType = .structuredPartitionImport ∧
    leaseMatches lease now run = true

variable {orgId : String}

lemma ImportLeased.leased {jobId : String} (h : db.ImportLeased lease orgId jobId now) :
    db.Leased lease now := by
  obtain ⟨run, hrun, -, -, -, hmatch⟩ := h
  exact ⟨run, hrun, hmatch⟩

lemma requirePartitionImportLease_ok {jobId : String}
    (h : db.requirePartitionImportLease orgId jobId lease now = .ok db') :
    db.ImportLeased lease orgId jobId now ∧ db' = { db with
      processingRuns := db.processingRuns.update lease.runId (touch now) } := by
  unfold requirePartitionImportLease at h
  split at h
  · cases h
  rename_i run hrun
  split_ifs at h with hlease
  cases h
  simp only [Bool.and_eq_true, decide_eq_true_eq] at hlease
  exact ⟨⟨run, hrun, hlease.1.1.1, hlease.1.1.2, hlease.1.2, hlease.2⟩, rfl⟩

lemma finishJob_ok {input : FinishJobInput} (h : db.finishJob input (some lease) now = .ok db') :
    db.ImportLeased lease input.orgId input.jobId now ∧ db' = { db with
      processingRuns := db.processingRuns.update lease.runId (touch now)
      partitionImportJobs := db.partitionImportJobs.updateMany
        (fun id job => id = input.jobId && finishJobWhere input true job) fun job =>
        { job with
          status := input.status.jobStatus, errorCode := input.errorCode
          errorSummary := input.errorSummary, finishedAt := some now } } := by
  unfold finishJob at h
  obtain ⟨db₁, hwrite, h⟩ := bind_eq_ok.mp h
  cases h
  obtain ⟨hleased, rfl⟩ := requirePartitionImportLease_ok hwrite
  exact ⟨hleased, rfl⟩

/-- A publication that goes through: the leased job was being processed, its candidates are
published one by one, and what they replace is queued with the staged source. -/
lemma publishSourceAtomically_ok {input : PublishSourceInput} {refused : Option String}
    {transition : Bool}
    (h : db.publishSourceAtomically input lease refused transition now = .ok db') :
    db.ImportLeased lease input.orgId input.jobId now ∧ ∃ job partitions garbage queue n,
      db.partitionImportJobs.lookup input.jobId = some job ∧ job.status = .processing ∧
      (input.candidates.map (·.identity)).Nodup ∧
      input.candidates.foldlM (publishCandidate input.jobId transition)
        (db.structuredPartitions, []) = .ok (partitions, garbage) ∧
      db' = { db with
        processingRuns := db.processingRuns.update lease.runId (touch now)
        structuredPartitions := partitions
        partitionImportJobs := db.partitionImportJobs.update input.jobId (publishedJob input now)
        storageGarbage := queue
        nextGarbageId := n } ∧
      ∀ key, db'.Queued key ↔
        key ∈ garbage ∨ job.temporaryObjectKey = some key ∨ db.Queued key := by
  unfold publishSourceAtomically at h
  split at h
  · cases h
  split at h
  · cases h
  rename_i hnodup
  split at h
  · cases h
  rename_i job hjob
  obtain ⟨db₁, hrequire, h⟩ := bind_eq_ok.mp h
  split at h
  · cases h
  split at h
  · cases h
  split at h
  · cases h
  obtain ⟨⟨partitions, garbage⟩, hfold, h⟩ := bind_eq_ok.mp h
  cases h
  rw [Option.filter_eq_some_iff] at hjob
  simp only [Bool.and_eq_true, decide_eq_true_eq] at hjob
  obtain ⟨hleased, rfl⟩ := requirePartitionImportLease_ok hrequire
  refine ⟨hleased, job, partitions, garbage, ?_⟩
  set db₂ : Database := ({ db with
    processingRuns := db.processingRuns.update lease.runId (touch now)
    structuredPartitions := partitions } : Database) with hdb₂
  obtain ⟨queue, n, hqueue⟩ :=
    enqueueAllStorageGarbage_eq garbage.dedup "partition_replaced" now db₂
  have hqueued : ∀ key, (db₂.enqueueAllStorageGarbage garbage.dedup "partition_replaced"
      now).Queued key ↔ key ∈ garbage ∨ db.Queued key := fun key => by
    rw [queued_enqueueAllStorageGarbage, List.mem_dedup]
    rfl
  cases hkey : job.temporaryObjectKey with
  | none =>
    refine ⟨queue, n, hjob.1, hjob.2.2, not_not.mp hnodup, hfold, ?_, fun key => ?_⟩
    · dsimp only
      rw [hqueue]
    · simp only [reduceCtorEq, false_or]
      exact hqueued key
  | some source =>
    obtain ⟨queue', n', hqueue'⟩ := (db₂.enqueueAllStorageGarbage garbage.dedup
      "partition_replaced" now).enqueueStorageGarbage_eq source "partition_source_terminal" now none
    refine ⟨queue', n', hjob.1, hjob.2.2, not_not.mp hnodup, hfold, ?_, fun key => ?_⟩
    · dsimp only
      rw [hqueue', hqueue]
    · have hsource : ((db₂.enqueueAllStorageGarbage garbage.dedup "partition_replaced"
          now).enqueueStorageGarbage source "partition_source_terminal" now none).Queued key ↔
          key = source ∨ key ∈ garbage ∨ db.Queued key := by
        rw [queued_enqueueStorageGarbage, hqueued]
      rw [Option.some.injEq, ← or_assoc, or_comm (a := key ∈ garbage), or_assoc, eq_comm]
      exact hsource

/-! ### Failures -/

lemma updateLedgerRefreshRequestStatus_ok {requestId : String}
    (h : db.updateLedgerRefreshRequestStatus orgId requestId = .ok db') :
    ∃ requests, db' = { db with
        ledgerArtifactRequests := requests } ∧
      Keeps LedgerArtifactRequest.facts db.ledgerArtifactRequests requests := by
  unfold updateLedgerRefreshRequestStatus at h
  split at h
  · cases h
  · cases h
    exact ⟨_, rfl, .update fun _ => rfl⟩

/-- The batches of a failed import, and what is written to them. -/
def failedWhere (run : ProcessingRun) (input : FailProcessingRunInput) (b : ImportBatch) : Bool :=
  b.sourceDocumentId = input.documentId && b.orgId = run.orgId && b.status.claimable

def failedBatch (input : FailProcessingRunInput) (b : ImportBatch) : ImportBatch :=
  if input.willRetry then { b with status := .pending }
  else
    { b with
      status := .failed, errorCode := some input.errorCode
      errorSummary := some input.errorSummary }

/-- What the failure of an attempt writes to the owners of its run. -/
structure FailWrites (db : Database) (run : ProcessingRun) (input : FailProcessingRunInput)
    (now : ℕ) (db' : Database) : Prop where
  documents : (db'.documents = db.documents ∧
      (run.jobType = .structuredImport → run.documentId = none)) ∨
    ∃ documentId, run.documentId = some documentId ∧ isLedgerJob run.jobType = false ∧
      run.jobType ≠ .structuredPartitionBundle ∧
      db'.documents = db.documents.update documentId fun d =>
        { d with status := if input.willRetry then .pendingProcessing else .processingFailed }
  batches : (run.jobType ≠ .structuredImport ∧ db'.importBatches = db.importBatches) ∨
    run.jobType = .structuredImport ∧ db'.importBatches =
      db.importBatches.updateMany (fun _ b => failedWhere run input b) (failedBatch input)
  jobs : db'.partitionImportJobs = db.partitionImportJobs ∨ ∃ jobId,
    run.jobType = .structuredPartitionImport ∧ run.partitionImportJobId = some jobId ∧
    db'.partitionImportJobs = db.partitionImportJobs.update jobId fun job =>
      { job with
        status := if input.willRetry then .queued else .failed
        errorCode := some input.errorCode, errorSummary := some input.errorSummary
        finishedAt := if input.willRetry then job.finishedAt else some now }
  items : Keeps LedgerArtifactRequestItem.target db.ledgerArtifactRequestItems
    db'.ledgerArtifactRequestItems
  requests : Keeps LedgerArtifactRequest.facts db.ledgerArtifactRequests
    db'.ledgerArtifactRequests
  reconciliations : Keeps (·.orgId) db.ledgerPdfReconciliationRuns
    db'.ledgerPdfReconciliationRuns
  ledgerPartitions : db'.ledgerPdfPartitions = db.ledgerPdfPartitions ∨ ∃ itemId item,
    run.ledgerArtifactRequestItemId = some itemId ∧
    db.ledgerArtifactRequestItems.lookup itemId = some item ∧
    db'.ledgerPdfPartitions = db.ledgerPdfPartitions.updateMany
      (fun key p => key = item.partitionId && key.orgId = run.orgId &&
        p.requestedGeneration = item.generation)
      fun p => { p with errorCode := some input.errorCode }
  partitions : db'.structuredPartitions = db.structuredPartitions
  downloads : db'.partitionDownloadRequests = db.partitionDownloadRequests
  garbage : db'.storageGarbage = db.storageGarbage
  nextGarbageId : db'.nextGarbageId = db.nextGarbageId

variable {input : FailProcessingRunInput}

lemma failLedgerItem_ok (h : db.failLedgerItem run input = .ok db') :
    ∃ items requests partitions, db' = { db with
        ledgerArtifactRequestItems := items
        ledgerArtifactRequests := requests
        ledgerPdfPartitions := partitions } ∧
      Keeps LedgerArtifactRequestItem.target db.ledgerArtifactRequestItems items ∧
      Keeps LedgerArtifactRequest.facts db.ledgerArtifactRequests requests ∧
      (partitions = db.ledgerPdfPartitions ∨ ∃ itemId item,
        run.ledgerArtifactRequestItemId = some itemId ∧
        db.ledgerArtifactRequestItems.lookup itemId = some item ∧
        partitions = db.ledgerPdfPartitions.updateMany
          (fun key p => key = item.partitionId && key.orgId = run.orgId &&
            p.requestedGeneration = item.generation)
          fun p => { p with errorCode := some input.errorCode }) := by
  unfold failLedgerItem at h
  split at h
  · cases h
    exact ⟨_, _, _, rfl, .refl _ _, .refl _ _, .inl rfl⟩
  rename_i itemId hitemId
  obtain ⟨item, hitem, h⟩ := bind_eq_ok.mp h
  obtain ⟨db₁, hstatus, h⟩ := bind_eq_ok.mp h
  cases h
  obtain ⟨requests, rfl, hrequests⟩ := updateLedgerRefreshRequestStatus_ok hstatus
  exact ⟨_, requests, _, rfl, .update fun _ => rfl, hrequests,
    .inr ⟨itemId, item, hitemId, findUniqueOrThrow_eq_ok.mp hitem, rfl⟩⟩

lemma failLedgerRequest_ok (h : db.failLedgerRequest run input = .ok db') :
    ∃ requests, db' = { db with
        ledgerArtifactRequests := requests } ∧
      Keeps LedgerArtifactRequest.facts db.ledgerArtifactRequests requests := by
  unfold failLedgerRequest at h
  split at h
  · cases h
    exact ⟨_, rfl, .refl _ _⟩
  obtain ⟨requests, hrequests, h⟩ := bind_eq_ok.mp h
  cases h
  rw [(updateOrThrow_eq_ok.mp hrequests).2]
  exact ⟨_, rfl, .update fun _ => rfl⟩

lemma failLedgerReconciliation_ok (h : db.failLedgerReconciliation run input now = .ok db') :
    ∃ reconciliations, db' = { db with
        ledgerPdfReconciliationRuns := reconciliations } ∧
      Keeps (·.orgId) db.ledgerPdfReconciliationRuns reconciliations := by
  unfold failLedgerReconciliation at h
  split at h
  · cases h
    exact ⟨_, rfl, .refl _ _⟩
  obtain ⟨reconciliations, hreconciliations, h⟩ := bind_eq_ok.mp h
  cases h
  rw [(updateOrThrow_eq_ok.mp hreconciliations).2]
  exact ⟨_, rfl, .update fun _ => rfl⟩

lemma failStructuredImport_eq (db : Database) (run : ProcessingRun)
    (input : FailProcessingRunInput) :
    ∃ batches, db.failStructuredImport run input = { db with
        importBatches := batches } ∧
      ((run.jobType ≠ .structuredImport ∧ batches = db.importBatches) ∨
        run.jobType = .structuredImport ∧ batches =
          db.importBatches.updateMany (fun _ b => failedWhere run input b) (failedBatch input)) := by
  unfold failStructuredImport
  by_cases htype : run.jobType = .structuredImport
  · rw [if_pos htype]
    exact ⟨_, rfl, .inr ⟨htype, rfl⟩⟩
  · rw [if_neg htype]
    exact ⟨_, rfl, .inl ⟨htype, rfl⟩⟩

lemma failPartitionImport_ok (h : db.failPartitionImport run input now = .ok db') :
    ∃ jobs, db' = { db with
        partitionImportJobs := jobs } ∧
      (jobs = db.partitionImportJobs ∨ ∃ jobId,
        run.jobType = .structuredPartitionImport ∧ run.partitionImportJobId = some jobId ∧
        jobs = db.partitionImportJobs.update jobId fun job =>
          { job with
            status := if input.willRetry then .queued else .failed
            errorCode := some input.errorCode, errorSummary := some input.errorSummary
            finishedAt := if input.willRetry then job.finishedAt else some now }) := by
  unfold failPartitionImport at h
  split at h
  · rename_i jobId htype hjobId
    obtain ⟨jobs, hjobs, h⟩ := bind_eq_ok.mp h
    cases h
    exact ⟨_, rfl, .inr ⟨jobId, htype, hjobId, (updateOrThrow_eq_ok.mp hjobs).2⟩⟩
  · cases h
    exact ⟨_, rfl, .inl rfl⟩

lemma failDocument_ok (h : db.failDocument run input = .ok db') :
    ∃ documents, db' = { db with
        documents := documents } ∧
      ((documents = db.documents ∧ (run.jobType = .structuredImport → run.documentId = none)) ∨
        ∃ documentId, run.documentId = some documentId ∧
          documents = db.documents.update documentId fun d =>
            { d with
              status := if input.willRetry then .pendingProcessing else .processingFailed }) := by
  unfold failDocument at h
  split at h
  · rename_i hnone
    cases h
    exact ⟨_, rfl, .inl ⟨rfl, fun _ => hnone⟩⟩
  rename_i documentId hdocumentId
  split at h
  · rename_i hkind
    cases h
    exact ⟨_, rfl, .inl ⟨rfl, fun himport => nomatch hkind.1.symm.trans himport⟩⟩
  · obtain ⟨documents, hdocuments, h⟩ := bind_eq_ok.mp h
    cases h
    exact ⟨_, rfl, .inr ⟨documentId, hdocumentId, (updateOrThrow_eq_ok.mp hdocuments).2⟩⟩

lemma failOwners_ok (h : db.failOwners run input now = .ok db') :
    db'.processingRuns = db.processingRuns ∧ FailWrites db run input now db' := by
  unfold failOwners at h
  split_ifs at h with hbundle hkind
  · have hnot : run.jobType ≠ .structuredImport := by simp [hbundle]
    cases h
    exact ⟨rfl, .inl ⟨rfl, fun himport => absurd himport hnot⟩, .inl ⟨hnot, rfl⟩, .inl rfl,
      .refl _ _, .refl _ _, .refl _ _, .inl rfl, rfl, rfl, rfl, rfl⟩
  · have hnot : run.jobType ≠ .structuredImport := by
      intro himport
      rw [himport] at hkind
      cases hkind
    obtain ⟨db₁, hitem, h⟩ := bind_eq_ok.mp h
    obtain ⟨db₂, hrequest, h⟩ := bind_eq_ok.mp h
    obtain ⟨items, requests, partitions, rfl, hitems, hrequests, hpartitions⟩ :=
      failLedgerItem_ok hitem
    obtain ⟨requests', rfl, hrequests'⟩ := failLedgerRequest_ok hrequest
    obtain ⟨reconciliations, rfl, hreconciliations⟩ := failLedgerReconciliation_ok h
    exact ⟨rfl, .inl ⟨rfl, fun himport => absurd himport hnot⟩, .inl ⟨hnot, rfl⟩, .inl rfl, hitems,
      hrequests.trans hrequests', hreconciliations, hpartitions, rfl, rfl, rfl, rfl⟩
  · obtain ⟨db₁, hjob, h⟩ := bind_eq_ok.mp h
    obtain ⟨batches, hbatch, hbatches⟩ := db.failStructuredImport_eq run input
    rw [hbatch] at hjob
    obtain ⟨jobs, rfl, hjobs⟩ := failPartitionImport_ok hjob
    obtain ⟨documents, rfl, hdocuments⟩ := failDocument_ok h
    refine ⟨rfl, hdocuments.imp_right ?_, hbatches, hjobs, .refl _ _, .refl _ _, .refl _ _, .inl rfl,
      rfl, rfl, rfl, rfl⟩
    rintro ⟨id, hid, hwritten⟩
    exact ⟨id, hid, by simpa using hkind, hbundle, hwritten⟩

lemma failLeasedRun_active (h : db.failLeasedRun lease input now = .ok db') :
    ∃ run, db.processingRuns.lookup lease.runId = some run ∧
      activeLeaseWhere lease now true run = true ∧
      Database.failOwners { db with
        processingRuns := db.processingRuns.update lease.runId (failedRun input now) }
          (failedRun input now run) input now = .ok db' := by
  unfold failLeasedRun at h
  obtain ⟨db₁, hwrite, h⟩ := bind_eq_ok.mp h
  obtain ⟨row, hrow, h⟩ := bind_eq_ok.mp h
  obtain ⟨run, hrun, hactive, rfl, hwritten⟩ := updateLeased_active hwrite
  obtain rfl : failedRun input now run = row := by
    rw [findUniqueOrThrow_eq_ok, hwritten] at hrow
    exact Option.some.inj hrow
  exact ⟨run, hrun, hactive, h⟩

lemma failLeasedRun_ok (h : db.failLeasedRun lease input now = .ok db') :
    ∃ run, db.processingRuns.lookup lease.runId = some run ∧ leaseMatches lease now run = true ∧
      db'.processingRuns = db.processingRuns.update lease.runId (failedRun input now) ∧
      FailWrites db run input now db' := by
  obtain ⟨run, hrun, hactive, h⟩ := failLeasedRun_active h
  obtain ⟨hruns, hwrites⟩ := failOwners_ok h
  exact ⟨run, hrun, (Bool.and_eq_true_iff.mp hactive).2, hruns, hwrites.documents,
    hwrites.batches, hwrites.jobs, hwrites.items, hwrites.requests, hwrites.reconciliations,
    hwrites.ledgerPartitions, hwrites.partitions, hwrites.downloads, hwrites.garbage,
    hwrites.nextGarbageId⟩

/-- The row of a run that ends with its download request. -/
def terminatedRun (code : String) (now : ℕ) (run : ProcessingRun) : ProcessingRun :=
  { run with
    status := .failed, errorCode := some code, errorSummary := some code, lockedBy := none
    lockedUntil := none, finishedAt := some now }

/-- The unique columns of the runs are unique. -/
def UniqueRuns (db : Database) : Prop :=
  ∀ id id' run run', db.processingRuns.lookup id = some run →
    db.processingRuns.lookup id' = some run' → run.owner.clash run'.owner = true → id = id'

lemma terminate_eq (db : Database) (now : ℕ) (requestId : String) (row : PartitionDownloadRequest)
    (status : PartitionDownloadStatus) (code : String) :
    ∃ downloads queue n, db.terminate requestId row status code now = { db with
      processingRuns := db.processingRuns.updateMany
        (fun _ run => downloadOwner row.orgId requestId run && run.status.isLive)
        (terminatedRun code now)
      partitionDownloadRequests := downloads
      storageGarbage := queue
      nextGarbageId := n } := by
  unfold terminate
  split
  · rename_i key hkey
    obtain ⟨queue, n, hqueue⟩ := db.enqueueStorageGarbage_eq key code now none
    rw [hqueue]
    exact ⟨_, queue, n, rfl⟩
  · exact ⟨_, _, _, rfl⟩

/-- What the end of a download writes: the run of the lease and no other. -/
structure EndsDownload (db : Database) (lease : Lease) (now : ℕ) (db' : Database) : Prop where
  runs : ∃ run code, db.processingRuns.lookup lease.runId = some run ∧
    leaseMatches lease now run = true ∧ run.jobType = .structuredPartitionBundle ∧
    ∀ id, db'.processingRuns.lookup id =
      (db.processingRuns.update lease.runId (terminatedRun code now)).lookup id
  rest : ∃ downloads queue n, db' = { db with
    processingRuns := db'.processingRuns
    partitionDownloadRequests := downloads
    storageGarbage := queue
    nextGarbageId := n }

lemma failPartitionDownload_cases (hdb : db.UniqueRuns) {requestId errorCode : String} {ok : Bool}
    (h : db.failPartitionDownload lease orgId requestId errorCode now = (ok, db')) :
    (ok = false ∧ db' = db) ∨ EndsDownload db lease now db' := by
  unfold failPartitionDownload at h
  split at h
  · rename_i row run hrow hrun
    rw [Option.filter_eq_some_iff] at hrun hrow
    simp only [Bool.and_eq_true] at hrun
    obtain ⟨hrun, howner, hmatch⟩ := hrun
    have horg : row.orgId = orgId := by simpa using hrow.2
    have hdownload : run.partitionDownloadRequestId = some requestId ∧
        run.jobType = .structuredPartitionBundle := by
      simp only [downloadOwner, Bool.and_eq_true, decide_eq_true_eq] at howner
      tauto
    have hends : ∀ status code,
        EndsDownload db lease now (db.terminate requestId row status code now) := by
      intro status code
      obtain ⟨downloads, queue, n, hterminate⟩ :=
        db.terminate_eq now requestId row status code
      refine ⟨⟨run, code, hrun, hmatch, hdownload.2, fun id => ?_⟩, downloads, queue, n, ?_⟩
      · rw [hterminate, Table.lookup_updateMany, Table.lookup_update, horg]
        by_cases hid : id = lease.runId
        · subst hid
          have hlive : run.status.isLive = true := by
            simp only [leaseMatches, Bool.and_eq_true, decide_eq_true_eq] at hmatch
            rw [hmatch.1.1.1]; rfl
          simp [hrun, howner, hlive]
        · rw [if_neg hid]
          cases hother : db.processingRuns.lookup id with
          | none => rfl
          | some other =>
            have hnot : downloadOwner orgId requestId other = false := by
              rw [Bool.eq_false_iff]
              intro hothers
              have hsame : other.partitionDownloadRequestId = some requestId := by
                simp only [downloadOwner, Bool.and_eq_true, decide_eq_true_eq] at hothers
                tauto
              have hclash : other.owner.clash run.owner = true := by
                simp [RunOwner.clash, sameId, ProcessingRun.owner, hsame, hdownload.1]
              exact hid (hdb id lease.runId other run hother hrun hclash)
            simp [hnot]
      · rw [hterminate]
    split_ifs at h
    · cases h
      exact .inl ⟨rfl, rfl⟩
    · cases h
      exact .inr (hends _ _)
    · cases h
      exact .inr (hends _ _)
  · cases h
    exact .inl ⟨rfl, rfl⟩

/-- A failure is refused, it is that of the leased run, or it ends a download. -/
lemma failProcessingRun_ways {error : Option WorkerError}
    (h : db.failProcessingRun lease input now = (error, db')) :
    (error ≠ none ∧ db' = db) ∨ db.failLeasedRun lease input now = .ok db' ∨
      ∃ owner requestId ok, db.processingRuns.lookup lease.runId = some owner ∧
        owner.jobType = .structuredPartitionBundle ∧ input.willRetry = false ∧
        db.failPartitionDownload lease owner.orgId requestId input.errorCode now = (ok, db') ∧
        (ok = false → error ≠ none) := by
  unfold failProcessingRun at h
  split at h
  · cases h
    exact .inl ⟨by simp, rfl⟩
  rename_i owner howner
  split_ifs at h with hend
  · split at h
    · cases h
      exact .inl ⟨by simp, rfl⟩
    split at h
    · rename_i hfail
      cases h
      exact .inr (.inr ⟨owner, _, _, howner, hend.1, hend.2, hfail, nofun⟩)
    · rename_i hfail
      cases h
      exact .inr (.inr ⟨owner, _, _, howner, hend.1, hend.2, hfail, fun _ => by simp⟩)
  · split at h
    · rename_i hleased
      cases h
      exact .inr (.inl hleased)
    · cases h
      exact .inl ⟨by simp, rfl⟩

/-- **What a failure does**: nothing, or it writes the run of the lease, which is active, and its
owners, or it ends the run together with its download. -/
lemma failProcessingRun_cases (hdb : db.UniqueRuns) {error : Option WorkerError}
    (h : db.failProcessingRun lease input now = (error, db')) :
    (error ≠ none ∧ db' = db) ∨
      (∃ run, db.processingRuns.lookup lease.runId = some run ∧
        leaseMatches lease now run = true ∧
        db'.processingRuns = db.processingRuns.update lease.runId (failedRun input now) ∧
        FailWrites db run input now db') ∨
      (input.willRetry = false ∧ EndsDownload db lease now db') := by
  rcases failProcessingRun_ways h with hsame | hleased | ⟨owner, requestId, ok, -, -, hretry, hfail,
    herror⟩
  · exact .inl hsame
  · exact .inr (.inl (failLeasedRun_ok hleased))
  · rcases failPartitionDownload_cases hdb hfail with ⟨hok, hsame⟩ | hends
    · exact .inl ⟨herror hok, hsame⟩
    · exact .inr (.inr ⟨hretry, hends⟩)

end Database
end SmeDataCenter
