import SmeDataCenter.Operations

/-!
# What the operations write

For each operation of the API and of the archive, what it has found when it goes through, and the
database it leaves behind.
-/

namespace SmeDataCenter

open Runs
open Table (Keeps)

namespace Database

variable {db db' : Database} {now : ℕ}

/-! ### Runs -/

lemma createRun_ok {id : String} {run : ProcessingRun}
    (h : db.createRun id run = .ok db') :
    db.processingRuns.lookup id = none ∧
      (∀ k other, db.processingRuns.lookup k = some other →
        other.owner.clash run.owner = false) ∧
      ∃ runs, db' = { db with
        processingRuns := runs } ∧
        ∀ k, runs.lookup k = if k = id then some run else db.processingRuns.lookup k := by
  unfold createRun at h
  split_ifs at h with hclash
  obtain ⟨runs, hruns, h⟩ := bind_eq_ok.mp h
  cases h
  rw [createOrThrow_eq_ok] at hruns
  refine ⟨Table.create_fresh hruns, fun k other hother => ?_, runs, rfl, Table.lookup_create hruns⟩
  rw [Bool.eq_false_iff]
  intro hc
  have hmem : (k, other) ∈ db.processingRuns.findMany fun _ r => r.owner.clash run.owner :=
    Table.mem_findMany.mpr ⟨hother, hc⟩
  rw [not_not.mp hclash] at hmem
  cases hmem

/-! ### Imports -/

variable {refused : Option String}

lemma reserveUpload_ok {input : ReserveUploadInput} (h : db.reserveUpload input refused = .ok db') :
    db' = db ∨ ∃ job jobs, db.partitionImportJobs.create input.id job = some jobs ∧
      job.status = .uploading ∧ job.temporaryObjectKey = some input.temporaryObjectKey ∧
      db' = { db with
        partitionImportJobs := jobs } := by
  unfold reserveUpload at h
  split_ifs at h
  split at h
  · split_ifs at h
    cases h
    exact .inl rfl
  · split at h
    · cases h
    · obtain ⟨jobs, hjobs, h⟩ := bind_eq_ok.mp h
      cases h
      exact .inr ⟨_, jobs, createOrThrow_eq_ok.mp hjobs, rfl, rfl, rfl⟩

/-- The row of a job whose upload is complete. -/
def queuedJob (temporaryObjectKey : ObjectKey) (job : PartitionImportJob) : PartitionImportJob :=
  { job with
    temporaryObjectKey := some temporaryObjectKey, multipartUploadId := none, status := .queued }

variable {runId : String}

lemma queueCompletedUpload_ok {seen : Database} {orgId jobId : String} {key : ObjectKey}
    (h : queueCompletedUpload seen db orgId jobId runId key refused now = .ok db') :
    db' = db ∨ ((∃ job, seen.partitionImportJobs.lookup jobId = some job ∧
        job.status = .uploading) ∧
      (∃ job, db.partitionImportJobs.lookup jobId = some job) ∧
      ({ db with
        partitionImportJobs := db.partitionImportJobs.update jobId (queuedJob key) } :
          Database).createRun runId (partitionImportRun orgId jobId now) = .ok db') := by
  unfold queueCompletedUpload at h
  split at h
  · cases h
  rename_i job hjob
  split_ifs at h with hstatus
  · cases h
    exact .inl rfl
  split at h
  · cases h
  right
  unfold queueUpload at h
  obtain ⟨jobs, hjobs, h⟩ := bind_eq_ok.mp h
  obtain ⟨hrow, rfl⟩ := updateOrThrow_eq_ok.mp hjobs
  exact ⟨⟨job, (Option.filter_eq_some_iff.mp hjob).1, not_not.mp hstatus⟩, hrow, h⟩

/-! ### Documents -/

lemma createUploadedDocument_ok {input : CreateUploadedDocumentInput}
    (h : db.createUploadedDocument input runId refused now = .ok db') :
    ∃ document documents, db.documents.create input.id document = some documents ∧
      ({ db with
        documents := documents } : Database).createRun runId
          (evidenceRun input.orgId input.id now) = .ok db' := by
  unfold createUploadedDocument at h
  split at h
  · cases h
  obtain ⟨documents, hdocuments, h⟩ := bind_eq_ok.mp h
  exact ⟨_, documents, createOrThrow_eq_ok.mp hdocuments, h⟩

lemma reserveStructuredImport_ok {input : ReserveStructuredImportInput} {importBatchId : String}
    (h : db.reserveStructuredImport input importBatchId refused = .ok db') :
    ∃ document documents batch batches, db.documents.create input.documentId document =
        some documents ∧
      db.importBatches.create importBatchId batch = some batches ∧
      batch.sourceDocumentId = input.documentId ∧ batch.status = .pending ∧
      (∀ k other, db.importBatches.lookup k = some other →
        other.sourceDocumentId ≠ input.documentId) ∧
      db' = { db with
        documents := documents
        importBatches := batches } := by
  unfold reserveStructuredImport at h
  split at h
  · cases h
  obtain ⟨documents, hdocuments, h⟩ := bind_eq_ok.mp h
  split_ifs at h with hother
  obtain ⟨batches, hbatches, h⟩ := bind_eq_ok.mp h
  cases h
  refine ⟨_, documents, _, batches, createOrThrow_eq_ok.mp hdocuments,
    createOrThrow_eq_ok.mp hbatches, rfl, rfl, fun k other hlookup heq => ?_, rfl⟩
  have hmem : (k, other) ∈ db.importBatches.findMany fun _ b =>
      b.sourceDocumentId = input.documentId :=
    Table.mem_findMany.mpr ⟨hlookup, by simpa using heq⟩
  rw [not_not.mp hother] at hmem
  cases hmem

lemma enqueueReservedStructuredImport_ok {orgId importBatchId : String}
    (h : db.enqueueReservedStructuredImport orgId importBatchId runId now = .ok db') :
    db' = db ∨ ∃ batch, db.importBatches.lookup importBatchId = some batch ∧
      batch.orgId = orgId ∧
      (∀ k other, db.processingRuns.lookup k = some other →
        other.documentId ≠ some batch.sourceDocumentId) ∧
      ({ db with
        documents := db.documents.update batch.sourceDocumentId fun d =>
          { d with status := .pendingProcessing } } : Database).createRun runId
        (structuredImportRun orgId batch.sourceDocumentId importBatchId now) = .ok db' := by
  unfold enqueueReservedStructuredImport at h
  split at h
  · cases h
  rename_i batch hbatch
  rw [Option.filter_eq_some_iff] at hbatch
  split_ifs at h with hruns
  · cases h
    exact .inl rfl
  obtain ⟨documents, hdocuments, h⟩ := bind_eq_ok.mp h
  obtain ⟨-, rfl⟩ := updateOrThrow_eq_ok.mp hdocuments
  refine .inr ⟨batch, hbatch.1, by simpa using hbatch.2, fun k other hlookup heq => ?_, h⟩
  have hmem : (k, other) ∈ db.runsOfDocument batch.sourceDocumentId :=
    Table.mem_findMany.mpr ⟨hlookup, by simpa using heq⟩
  rw [not_not.mp hruns] at hmem
  cases hmem

lemma archiveDocuments_cases (db : Database) (orgId : String) (documentIds : List String)
    (partitions : List LedgerPartitionKey) (now : ℕ) :
    db.archiveDocuments orgId documentIds partitions now = db ∨ ∃ p,
      db.archiveDocuments orgId documentIds partitions now = ({ db with
        documents := db.documents.updateMany p fun d =>
          { d with status := .archived, archivedAt := some now } } :
            Database).markLedgerPartitionsChanged partitions := by
  unfold archiveDocuments
  dsimp only
  split
  · exact .inl rfl
  · exact .inr ⟨_, rfl⟩

lemma publishCostCards_ok {input : CostCardPublishInput} {leaseNow : ℕ}
    (h : db.publishCostCards input refused leaseNow now = .ok db') :
    refused = none ∧
    ∃ run batch, db.processingRuns.lookup input.lease.runId = some run ∧
      run.documentId = some input.sourceDocumentId ∧ run.jobType = .structuredImport ∧
      leaseMatches input.lease leaseNow run = true ∧
      db.importBatches.lookup input.importBatchId = some batch ∧
      batch.sourceDocumentId = input.sourceDocumentId ∧
      db' = { db with
        documents := db.documents.update input.sourceDocumentId fun d =>
          { d with status := .active }
        importBatches := db.importBatches.update input.importBatchId fun b =>
          { b with status := .applied, errorCode := none, errorSummary := none }
        processingRuns := db.processingRuns.update input.lease.runId
          (succeedPublished leaseNow now) } := by
  unfold publishCostCards at h
  split at h
  · cases h
  rename_i run hrun
  split at h
  · cases h
  · cases h
  rename_i batch hbatch
  obtain ⟨documents, hdocuments, h⟩ := bind_eq_ok.mp h
  obtain ⟨-, rfl⟩ := updateOrThrow_eq_ok.mp hdocuments
  cases h
  simp only [findBatch, Option.filter_eq_some_iff, Bool.and_eq_true, decide_eq_true_eq] at hrun hbatch
  exact ⟨rfl, run, batch, hrun.1, hrun.2.1.1.2, hrun.2.1.2, hrun.2.2, hbatch.1.1, hbatch.1.2.1.1, rfl⟩

/-! ### Downloads -/

lemma expireRow_cases (requestId : String) (row : PartitionDownloadRequest) (clock now : ℕ) :
    db.expireRow requestId row clock now = db ∨
      (row.expiresAt ≤ clock ∧ db.expireRow requestId row clock now =
        db.terminate requestId row .expired "PARTITION_DOWNLOAD_EXPIRED" now) := by
  unfold expireRow
  split_ifs with hexpired
  · exact .inr ⟨hexpired.2, rfl⟩
  · exact .inl rfl

/-- The row of a request that is active, and the run of its lease. -/
structure DownloadLeased (db : Database) (lease : PartitionDownloadLease) (now : ℕ)
    (row : PartitionDownloadRequest) : Prop where
  active : row.status.isActive = true
  row : db.partitionDownloadRequests.lookup lease.requestId = some row
  run : ∃ run, db.processingRuns.lookup lease.runId = some run ∧
    leaseMatches lease.toLease now run = true

lemma downloadLeased_some {lease : PartitionDownloadLease} {row : PartitionDownloadRequest}
    {run : ProcessingRun} (h : db.downloadLeased lease now = some (row, run)) :
    db.DownloadLeased lease now row := by
  unfold downloadLeased at h
  simp only [Option.bind_eq_bind, Option.bind_eq_some_iff, Option.filter_eq_some_iff] at h
  obtain ⟨row', hrow, run', hrun, h⟩ := h
  split_ifs at h with hactive
  cases h
  exact ⟨hactive, hrow.1, run, hrun.1, by simpa using (Bool.and_eq_true_iff.mp hrun.2).2⟩

/-- The request of the lease is ended. -/
def EndsRequest (db : Database) (lease : PartitionDownloadLease) (row : PartitionDownloadRequest)
    (now : ℕ) (db' : Database) : Prop :=
  ∃ status code, (status = .failed ∨ status = .expired) ∧
    db' = db.terminate lease.requestId row status code now

variable {finishedAt : ℕ} {ok : Bool}

/-- What a download operation that goes through for a lease writes: nothing, the end of the
request, or what it is there for. -/
def DownloadWrites (db : Database) (lease : PartitionDownloadLease) (now : ℕ) (db' : Database)
    (written : PartitionDownloadRequest → Prop) : Prop :=
  db' = db ∨ ∃ row, db.DownloadLeased lease now row ∧
    (db.EndsRequest lease row now db' ∨ written row)

lemma fencedDownload_ok {lease : PartitionDownloadLease} {written : PartitionDownloadRequest → Prop}
    {fn : PartitionDownloadRequest → Except WorkerError (Bool × Database)}
    (h : db.fencedDownload lease now finishedAt fn = .ok (ok, db'))
    (hfn : ∀ row, fn row = .ok (ok, db') → db.EndsRequest lease row now db' ∨ written row) :
    db.DownloadWrites lease now db' written := by
  unfold fencedDownload at h
  split at h
  · cases h
    exact .inl rfl
  rename_i row run hleased
  split_ifs at h with hexpired
  · cases h
    rcases db.expireRow_cases lease.requestId row now now with heq | ⟨-, heq⟩
    · exact .inl heq
    · exact .inr ⟨row, downloadLeased_some hleased, .inl ⟨_, _, .inr rfl, heq⟩⟩
  · obtain ⟨⟨ok', db₁⟩, hok, h⟩ := bind_eq_ok.mp h
    cases h
    exact .inr ⟨row, downloadLeased_some hleased, hfn row hok⟩
  · obtain ⟨result, -, h⟩ := bind_eq_ok.mp h
    cases h
    exact .inl rfl

variable {lease : PartitionDownloadLease}

lemma publishDownload_ok {artifact : PartitionDownloadArtifact} {current : Bool}
    (h : db.publishDownload lease artifact current now finishedAt = .ok (ok, db')) :
    db.DownloadWrites lease now db' fun row =>
      isDownloadKey lease artifact.objectKey = true ∧ artifact.expiresAt ≤ row.expiresAt ∧
        ∃ garbage, db.storageGarbage.lookup artifact.objectKey = some garbage ∧
          db' = ({ db with
            processingRuns := db.processingRuns.update lease.runId (succeed finishedAt)
            partitionDownloadRequests := db.partitionDownloadRequests.update lease.requestId
              (publishedDownload artifact)
            storageGarbage := db.storageGarbage.deleteMany fun _ g => g.id = garbage.id } :
              Database).enqueueStorageGarbage artifact.objectKey "partition_download_expired"
                artifact.expiresAt none := by
  refine fencedDownload_ok h fun row hfn => ?_
  unfold checkContent at hfn
  cases current with
  | false =>
    cases hfn
    exact .inl ⟨_, _, .inl rfl, rfl⟩
  | true =>
    right
    simp only [if_true] at hfn
    split at hfn
    · cases hfn
    rename_i hkey
    split at hfn
    · cases hfn
    rename_i garbage hgarbage
    split at hfn
    · cases hfn
    rename_i hartifact
    cases hfn
    simp only [Bool.or_eq_true, decide_eq_true_eq, not_or, not_lt] at hartifact
    exact ⟨by simpa using hkey, hartifact.2, garbage, (Option.filter_eq_some_iff.mp hgarbage).1,
      rfl⟩

lemma markDownloadRunning_ok {current : Bool}
    (h : db.markDownloadRunning lease current now finishedAt = .ok (ok, db')) :
    db.DownloadWrites lease now db' fun _ => db' = { db with
      partitionDownloadRequests := db.partitionDownloadRequests.update lease.requestId fun r =>
        { r with status := .running } } := by
  refine fencedDownload_ok h fun row hfn => ?_
  unfold checkContent at hfn
  cases current with
  | false =>
    cases hfn
    exact .inl ⟨_, _, .inl rfl, rfl⟩
  | true =>
    cases hfn
    exact .inr rfl

lemma registerDownloadCandidate_ok {objectKey : ObjectKey}
    (h : db.registerDownloadCandidate lease objectKey now finishedAt = .ok (ok, db')) :
    db.DownloadWrites lease now db' fun _ => isDownloadKey lease objectKey = true ∧
      db' = db.enqueueStorageGarbage objectKey "partition_download_candidate" now
        (some lease.runId) := by
  refine fencedDownload_ok h fun row hfn => ?_
  split_ifs at hfn with hkey
  cases hfn
  exact .inr ⟨hkey, rfl⟩

lemma recordDownloadProgress_ok {completed : ℤ}
    (h : db.recordDownloadProgress lease completed now finishedAt = .ok (ok, db')) :
    db.DownloadWrites lease now db' fun row =>
      (row.completedPartitionCount : ℤ) ≤ completed ∧ completed ≤ row.partitionCount ∧
        db' = { db with
          partitionDownloadRequests :=
            db.partitionDownloadRequests.update lease.requestId fun r =>
              { r with completedPartitionCount := completed.toNat } } := by
  refine fencedDownload_ok h fun row hfn => ?_
  split_ifs at hfn with hprogress
  cases hfn
  simp only [Bool.or_eq_true, decide_eq_true_eq, not_or, not_lt] at hprogress
  exact .inr ⟨hprogress.1.2, hprogress.2, rfl⟩

lemma failDownload_ok {errorCode : String}
    (h : db.failDownload lease errorCode now finishedAt = .ok (ok, db')) :
    db.DownloadWrites lease now db' fun _ => False := by
  refine fencedDownload_ok h fun row hfn => ?_
  cases hfn
  exact .inl ⟨_, _, .inl rfl, rfl⟩

lemma prepareDownload_ok {limits : PartitionDownloadLimits} {input : PrepareDownloadInput}
    {requestId : String} (h : db.prepareDownload limits input requestId runId refused now = .ok db')
    :
    db' = db ∨
      (∃ id row, db.partitionDownloadRequests.lookup id = some row ∧ row.expiresAt ≤ now ∧
        db' = db.terminate id row .expired "PARTITION_DOWNLOAD_EXPIRED" now) ∨
      ∃ downloads, db.partitionDownloadRequests.create requestId
          (preparedDownload limits input now) = some downloads ∧
        (db' = { db with
            partitionDownloadRequests := downloads } ∨
          ({ db with
            partitionDownloadRequests := downloads } : Database).createRun runId
              (partitionBundleRun input.orgId requestId now) = .ok db') := by
  unfold prepareDownload at h
  split at h
  · cases h
  · rename_i id existing hexisting
    split_ifs at h
    cases h
    have hmem := Table.mem_findMany.mp (List.mem_of_mem_head? hexisting)
    rcases db.expireRow_cases id existing now now with heq | ⟨hexpired, heq⟩
    · exact .inl heq
    · exact .inr (.inl ⟨id, existing, hmem.1, hexpired, heq⟩)
  · split_ifs at h
    obtain ⟨downloads, hdownloads, h⟩ := bind_eq_ok.mp h
    refine .inr (.inr ⟨downloads, createOrThrow_eq_ok.mp hdownloads, ?_⟩)
    split_ifs at h
    · cases h
      exact .inl rfl
    · exact .inr h

lemma expireDownload_cases (db : Database) (orgId requestId : String) (clock now : ℕ) :
    db.expireDownload orgId requestId clock now = db ∨ ∃ row,
      db.partitionDownloadRequests.lookup requestId = some row ∧ row.expiresAt ≤ clock ∧
      db.expireDownload orgId requestId clock now =
        db.terminate requestId row .expired "PARTITION_DOWNLOAD_EXPIRED" now := by
  unfold expireDownload
  split
  · exact .inl rfl
  · rename_i row hrow
    rcases db.expireRow_cases requestId row clock now with heq | ⟨hexpired, heq⟩
    · exact .inl heq
    · exact .inr ⟨row, (Option.filter_eq_some_iff.mp hrow).1, hexpired, heq⟩

lemma invalidateDownload_cases (db : Database) (orgId requestId : String) (now : ℕ) :
    invalidateDownload orgId now db requestId = db ∨ ∃ row,
      db.partitionDownloadRequests.lookup requestId = some row ∧
      invalidateDownload orgId now db requestId =
        (db.releaseDownloadCandidates orgId requestId now).terminate requestId row .failed
          "PARTITION_DOWNLOAD_STALE" now := by
  unfold invalidateDownload
  split
  · exact .inl rfl
  · rename_i row hrow
    exact .inr ⟨row, (Option.filter_eq_some_iff.mp hrow).1, rfl⟩

lemma invalidateDownloads_keeps {P : Database → Prop} (h : P db) (orgId : String)
    (partitionIds : List String) (now : ℕ)
    (hstep : ∀ db id, P db → P (invalidateDownload orgId now db id)) :
    P (db.invalidateDownloads orgId partitionIds now) := by
  unfold invalidateDownloads
  exact List.foldlRecOn _ _ h fun db hdb id _ => hstep db id hdb

end Database
end SmeDataCenter
