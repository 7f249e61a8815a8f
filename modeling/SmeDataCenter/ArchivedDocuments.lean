import SmeDataCenter.OperationEffects

/-!
# Archived documents

An archived document keeps the rows and chunks that were made from it, and no query reads them: it
has the time when it was archived, which nothing takes away. Its status is another matter. The
completions look whether the document is archived; claims, rejections, failures and the enqueuing
of an import write the status without looking.
-/

namespace SmeDataCenter

open Runs

namespace Database

/-! ### Completions look at the document -/

/-- What the persistence of the read requirements throws: the document has to be a structured one
of the organization that is not archived. `others` is what else it throws, if it does. -/
def persistRequirements (db : Database) (orgId documentId : String) (others : Option String) :
    Option String :=
  match (db.documents.lookup documentId).filter fun d => d.orgId = orgId &&
      d.documentKind = some .structured && d.archivedAt.isNone && d.status ≠ .archived with
  | none => some "P2025"
  | some _ => others

/-- The organization of a run. -/
def runOrg (db : Database) (runId : String) : String :=
  ((db.processingRuns.lookup runId).map (·.orgId)).getD ""

/-- A call of a worker, with what the persistence of its import throws. -/
def persisted (db : Database) : Call → Call
  | .completeStructuredImport lease documentId importBatchId others partitions now =>
    .completeStructuredImport lease documentId importBatchId
      (db.persistRequirements (db.runOrg lease.runId) documentId others) partitions now
  | call => call

/-- The publication of cost cards persists the read requirements last. -/
def publishPersisted (db : Database) : DocumentOperation → DocumentOperation
  | .publishCostCards input refused leaseNow now =>
    .publishCostCards input
      (refused.or (db.persistRequirements input.orgId input.sourceDocumentId none)) leaseNow now
  | op => op

/-- What happens to the sources: calls of workers, and operations on documents. -/
inductive SourceStep where
  | call (call : Call)
  | document (op : DocumentOperation)

def sourceStep (config : Option String) (db : Database) : SourceStep → Database
  | .call call => performed config db (db.persisted call)
  | .document op => db.documentStep (db.publishPersisted op)

end Database

/-! ### Archived documents -/

/-- The document is archived. -/
def Document.IsArchived (d : Document) : Prop := d.status = .archived ∧ d.archivedAt ≠ none

/-- What the queries of rows and chunks ask of their document. -/
def Document.readable (d : Document) : Bool := d.status = .active && d.archivedAt.isNone

namespace Database

/-- A step writes the status of a document without looking whether it is archived. -/
inductive Overwrites (config : Option String) (db : Database) (documentId : String) :
    SourceStep → Prop where
  /-- A claim of a run that was found in what the claim has seen, and is still as it was found. -/
  | claim {seen : Database} {workerId runId : String} {leaseSeconds now : ℕ}
      {found run : ProcessingRun}
      (next : seen.findNextRun config now = some (runId, found))
      (current : db.processingRuns.lookup runId = some run)
      (unchanged : claimGuard now found run = true)
      (document : found.documentId = some documentId) (kind : isLedgerJob found.jobType = false)
      (written : seen.reindexes config found = false)
      (batch : found.jobType = .structuredImport → seen.claimableBatches found documentId ≠ []) :
      Overwrites config db documentId (.call (.claimNextProcessingRun seen workerId leaseSeconds now))
  /-- The rejection of an import under its lease. -/
  | reject {lease : Lease} {importBatchId : String} {now : ℕ} {run : ProcessingRun}
      (current : db.processingRuns.lookup lease.runId = some run)
      (leased : activeLeaseWhere lease now false run = true)
      (kind : run.jobType = .structuredImport) (document : run.documentId = some documentId)
      (batch : (db.findBatch importBatchId documentId run.orgId [.validating, .applying]).isSome) :
      Overwrites config db documentId
        (.call (.rejectStructuredImport lease documentId importBatchId now))
  /-- The failure of an attempt under its lease. -/
  | fail {lease : Lease} {input : FailProcessingRunInput} {now : ℕ} {run : ProcessingRun}
      (current : db.processingRuns.lookup lease.runId = some run)
      (leased : activeLeaseWhere lease now true run = true)
      (document : run.documentId = some documentId) (kind : isLedgerJob run.jobType = false)
      (bundle : run.jobType ≠ .structuredPartitionBundle) :
      Overwrites config db documentId (.call (.failProcessingRun lease input now))
  /-- The first run of a reserved import. -/
  | enqueue {orgId importBatchId runId : String} {now : ℕ} {batch : ImportBatch}
      (found : db.importBatches.lookup importBatchId = some batch) (owner : batch.orgId = orgId)
      (document : batch.sourceDocumentId = documentId) (first : db.runsOfDocument documentId = []) :
      Overwrites config db documentId
        (.document (.enqueueReservedStructuredImport orgId importBatchId runId now))

/-! ### What a step writes to a document that is archived -/

/-- The document is as it was, or its status is written by a step that overwrites it. -/
def Spared (db' : Database) (documentId : String) (document : Document) (overwrites : Prop) :
    Prop :=
  db'.documents.lookup documentId = some document ∨
    (overwrites ∧ ∃ status, db'.documents.lookup documentId = some { document with status })

section

variable {seen db db' : Database} {config : Option String} {documentId : String} {now : ℕ}
  {lease : Lease} {document : Document} {overwrites : Prop}

lemma Spared.of_same (h : db.documents.lookup documentId = some document)
    (hsame : db'.documents = db.documents) : Spared db' documentId document overwrites :=
  .inl (hsame ▸ h)

variable {id : String}

lemma Spared.of_update {status : DocumentStatus}
    (h : db.documents.lookup documentId = some document)
    (hdocuments : db'.documents = db.documents.update id fun d => { d with status })
    (hover : id = documentId → overwrites) : Spared db' documentId document overwrites := by
  unfold Spared
  rw [hdocuments, Table.lookup_update]
  by_cases hid : documentId = id
  · subst hid
    rw [if_pos rfl, h]
    exact .inr ⟨hover rfl, status, rfl⟩
  · rw [if_neg hid]
    exact .inl h

lemma Spared.of_create {row : Document} {documents : Table String Document}
    (h : db.documents.lookup documentId = some document)
    (hcreate : db.documents.create id row = some documents) (hdocuments : db'.documents = documents)
    : Spared db' documentId document overwrites := by
  left
  rw [hdocuments, Table.lookup_create hcreate]
  split_ifs with hid
  · rw [hid, Table.create_fresh hcreate] at h
    cases h
  · exact h

lemma Spared.commit {result : Except WorkerError Database}
    (h : db.documents.lookup documentId = some document)
    (hok : ∀ db', result = .ok db' → Spared db' documentId document overwrites) :
    Spared (commit db result) documentId document overwrites :=
  commit_induction (.of_same h rfl) hok

lemma Spared.replyTo {result : Except WorkerError Database}
    (h : db.documents.lookup documentId = some document)
    (hok : ∀ db', result = .ok db' → Spared db' documentId document overwrites) :
    Spared (replyTo db result).2 documentId document overwrites := by
  cases result with
  | ok db' => exact hok db' rfl
  | error e => exact .of_same h rfl

lemma createRun_documents {run : ProcessingRun} (h : db.createRun id run = .ok db') :
    db'.documents = db.documents := by
  obtain ⟨-, -, runs, rfl, -⟩ := createRun_ok h
  rfl

/-! ### Calls of workers -/

lemma spared_claim {workerId : String} {seconds : ℕ} {claimed : Option ClaimedProcessingRun}
    (hdocument : db.documents.lookup documentId = some document)
    (h : claimNextProcessingRun seen db config workerId seconds now = .ok (claimed, db')) :
    Spared db' documentId document (Overwrites config db documentId
      (.call (.claimNextProcessingRun seen workerId seconds now))) := by
  rcases claimNextProcessingRun_cases h with ⟨-, rfl⟩ | ⟨id, found, run, r, -, hfind, hrun, hguard,
    hclaim⟩
  · exact .of_same hdocument rfl
  obtain ⟨-, -, -, hwrites⟩ := claimRun_ok hrun hclaim
  rcases hwrites.documents with hsame | ⟨id', hid, hkind, hreindex, hwritten⟩
  · exact .of_same hdocument hsame
  · refine .of_update hdocument hwritten ?_
    rintro rfl
    refine .claim hfind hrun hguard hid hkind hreindex fun himport => ?_
    rcases hwrites.batches with ⟨hnot, -⟩ | ⟨-, id, batchId, batch, hid', hmem, -⟩
    · exact absurd himport hnot
    · rw [hid] at hid'
      cases hid'
      exact List.ne_nil_of_mem hmem

lemma spared_completeEvidenceIndexing {activation : Option String}
    (hdocument : db.documents.lookup documentId = some document)
    (harchived : document.archivedAt ≠ none)
    (h : db.completeEvidenceIndexing lease id activation now = .ok db') :
    Spared db' documentId document overwrites := by
  obtain ⟨-, ⟨row, hrow, hopen⟩, hdb'⟩ := completeEvidenceIndexing_ok h
  have hdocuments : db'.documents =
      db.documents.update id fun d => { d with status := .active } := by
    rw [hdb']
  refine .of_update hdocument hdocuments ?_
  rintro rfl
  cases hdocument.symm.trans hrow
  exact absurd hopen harchived

lemma persistRequirements_archived {orgId : String} {others : Option String}
    (hdocument : db.documents.lookup documentId = some document)
    (harchived : document.archivedAt ≠ none) :
    db.persistRequirements orgId documentId others = some "P2025" := by
  unfold persistRequirements
  rw [hdocument, Option.filter_some, if_neg]
  simp [Option.isNone_iff_eq_none, harchived]

lemma spared_completeStructuredImport {importBatchId : String} {others : Option String}
    {partitions : List LedgerPartitionKey}
    (hdocument : db.documents.lookup documentId = some document)
    (harchived : document.archivedAt ≠ none) (h : db.completeStructuredImport lease id importBatchId
      (db.persistRequirements (db.runOrg lease.runId) id others) partitions now = .ok db') :
    Spared db' documentId document overwrites := by
  obtain ⟨-, hpersisted, -, keys, hdb'⟩ := completeStructuredImport_ok h
  have hdocuments : db'.documents =
      db.documents.update id fun d => { d with status := .active } := by
    rw [hdb']
    rfl
  refine .of_update hdocument hdocuments ?_
  rintro rfl
  rw [persistRequirements_archived hdocument harchived] at hpersisted
  cases hpersisted

lemma spared_rejectStructuredImport {importBatchId : String}
    (hdocument : db.documents.lookup documentId = some document)
    (hdispatched : (Call.rejectStructuredImport lease id importBatchId now).dispatched db = true)
    (h : db.rejectStructuredImport lease id importBatchId now = .ok db') :
    Spared db' documentId document (Overwrites config db documentId
      (.call (.rejectStructuredImport lease id importBatchId now))) := by
  obtain ⟨-, -, hdb'⟩ := rejectStructuredImport_ok h
  have hdocuments : db'.documents =
      db.documents.update id fun d => { d with status := .processingFailed } := by
    rw [hdb']
  refine .of_update hdocument hdocuments ?_
  rintro rfl
  unfold rejectStructuredImport at h
  obtain ⟨db₁, hwrite, h⟩ := bind_eq_ok.mp h
  obtain ⟨row, hrow, h⟩ := bind_eq_ok.mp h
  obtain ⟨run, hrun, hactive, rfl, hwritten⟩ := updateLeased_active hwrite
  obtain rfl : rejectRun now run = row := by
    rw [findUniqueOrThrow_eq_ok, hwritten] at hrow
    exact Option.some.inj hrow
  split at h
  · cases h
  rename_i batch hbatch
  have hsuits : run.jobType = .structuredImport ∧ run.documentId = some id := by
    simpa [Call.dispatched, Call.lease, Call.suits, hrun] using hdispatched
  exact .reject hrun hactive hsuits.1 hsuits.2 (Option.isSome_iff_exists.mpr ⟨batch, hbatch⟩)

lemma spared_failLeasedRun {input : FailProcessingRunInput}
    (hdocument : db.documents.lookup documentId = some document)
    (h : db.failLeasedRun lease input now = .ok db') :
    Spared db' documentId document (Overwrites config db documentId
      (.call (.failProcessingRun lease input now))) := by
  obtain ⟨run, hrun, hactive, h⟩ := failLeasedRun_active h
  obtain ⟨-, hwrites⟩ := failOwners_ok h
  rcases hwrites.documents with ⟨hsame, -⟩ | ⟨id, hid, hkind, hbundle, hfailed⟩
  · exact .of_same hdocument hsame
  · refine .of_update hdocument hfailed ?_
    rintro rfl
    exact .fail hrun hactive hid hkind hbundle

lemma failPartitionDownload_documents {orgId requestId code : String} {ok : Bool}
    (h : db.failPartitionDownload lease orgId requestId code now = (ok, db')) :
    db'.documents = db.documents := by
  have hterminate : ∀ row status code, (db.terminate requestId row status code now).documents =
      db.documents := by
    intro row status code
    obtain ⟨downloads, queue, n, heq⟩ := db.terminate_eq now requestId row status code
    rw [heq]
  unfold failPartitionDownload at h
  split at h
  · split_ifs at h
    · cases h
      rfl
    · cases h
      exact hterminate _ _ _
    · cases h
      exact hterminate _ _ _
  · cases h
    rfl

lemma spared_failProcessingRun {input : FailProcessingRunInput} {error : Option WorkerError}
    (hdocument : db.documents.lookup documentId = some document)
    (h : db.failProcessingRun lease input now = (error, db')) :
    Spared db' documentId document (Overwrites config db documentId
      (.call (.failProcessingRun lease input now))) := by
  rcases failProcessingRun_ways h with ⟨-, rfl⟩ | hleased | ⟨owner, requestId, ok, -, -, -, hfail, -⟩
  · exact .of_same hdocument rfl
  · exact spared_failLeasedRun hdocument hleased
  · exact .of_same hdocument (failPartitionDownload_documents hfail)

lemma spared_call (hdocument : db.documents.lookup documentId = some document)
    (harchived : document.archivedAt ≠ none) (call : Call) :
    Spared (sourceStep config db (.call call)) documentId document
      (Overwrites config db documentId (.call call)) := by
  change Spared (performed config db (db.persisted call)) documentId document _
  unfold performed
  split_ifs with hdispatched
  swap
  · exact .of_same hdocument rfl
  cases call with
  | claimNextProcessingRun seen workerId leaseSeconds now =>
    dsimp only [persisted, perform]
    split
    · rename_i hclaim
      exact spared_claim hdocument hclaim
    · rename_i hclaim
      exact spared_claim hdocument hclaim
    · exact .of_same hdocument rfl
  | heartbeatProcessingRun lease leaseSeconds now =>
    refine .replyTo hdocument fun db' h => ?_
    obtain ⟨-, rfl⟩ := heartbeatProcessingRun_ok h
    exact .of_same hdocument rfl
  | completePartitionProcessing lease now =>
    refine .replyTo hdocument fun db' h => ?_
    obtain ⟨-, rfl⟩ := completePartitionProcessing_ok h
    exact .of_same hdocument rfl
  | completeEvidenceIndexing lease id activation now =>
    exact .replyTo hdocument fun db' h => spared_completeEvidenceIndexing hdocument harchived h
  | beginStructuredImportApply lease id importBatchId now =>
    refine .replyTo hdocument fun db' h => ?_
    obtain ⟨-, -, rfl⟩ := beginStructuredImportApply_ok h
    exact .of_same hdocument rfl
  | completeStructuredImport lease id importBatchId others partitions now =>
    exact .replyTo hdocument fun db' h => spared_completeStructuredImport hdocument harchived h
  | rejectStructuredImport lease id importBatchId now =>
    exact .replyTo hdocument fun db' h => spared_rejectStructuredImport hdocument hdispatched h
  | failProcessingRun lease input now =>
    dsimp only [persisted, perform]
    split
    · rename_i hfail
      exact spared_failProcessingRun hdocument hfail
    · rename_i hfail
      exact spared_failProcessingRun hdocument hfail
  | finishJob lease input now =>
    refine .replyTo hdocument fun db' h => ?_
    obtain ⟨-, rfl⟩ := finishJob_ok h
    exact .of_same hdocument rfl
  | publishSourceAtomically lease input refused transition now =>
    refine .replyTo hdocument fun db' h => ?_
    obtain ⟨-, job, partitions, garbage, queue, n, -, -, -, -, hdb', -⟩ :=
      publishSourceAtomically_ok h
    exact .of_same hdocument (by rw [hdb'])

/-! ### Operations on documents -/

lemma spared_document (hdocument : db.documents.lookup documentId = some document)
    (harchived : document.archivedAt ≠ none) (op : DocumentOperation) :
    Spared (sourceStep config db (.document op)) documentId document
      (Overwrites config db documentId (.document op)) := by
  cases op with
  | createUploadedDocument input runId refused now =>
    refine .commit hdocument fun db' h => ?_
    obtain ⟨row, documents, hcreate, hrun⟩ := createUploadedDocument_ok h
    exact .of_create hdocument hcreate (createRun_documents hrun)
  | reserveStructuredImport input importBatchId refused =>
    refine .commit hdocument fun db' h => ?_
    obtain ⟨row, documents, batch, batches, hcreate, -, -, -, -, rfl⟩ :=
      reserveStructuredImport_ok h
    exact .of_create hdocument hcreate rfl
  | enqueueReservedStructuredImport orgId importBatchId runId now =>
    refine .commit hdocument fun db' h => ?_
    rcases enqueueReservedStructuredImport_ok h with rfl | ⟨batch, hbatch, horg, hfirst, hrun⟩
    · exact .of_same hdocument rfl
    refine .of_update hdocument (createRun_documents hrun) fun hid => .enqueue hbatch horg hid ?_
    rw [runsOfDocument, List.eq_nil_iff_forall_not_mem]
    rintro ⟨k, other⟩ hmem
    obtain ⟨hother, heq⟩ := Table.mem_findMany.mp hmem
    exact hfirst k other hother (by rw [hid]; simpa using heq)
  | archiveDocuments orgId documentIds partitions now =>
    change Spared (db.archiveDocuments orgId documentIds partitions now) documentId document _
    unfold archiveDocuments
    dsimp only
    split
    · exact .of_same hdocument rfl
    · left
      change (db.documents.updateMany _ _).lookup documentId = _
      rw [Table.lookup_updateMany, hdocument, Option.map_some, if_neg]
      simp [Option.isNone_iff_eq_none, harchived]
  | publishCostCards input refused leaseNow now =>
    refine .commit hdocument fun db' h => ?_
    obtain ⟨hpersisted, run, batch, -, -, -, -, -, -, hdb'⟩ := publishCostCards_ok h
    have hdocuments : db'.documents =
        db.documents.update input.sourceDocumentId fun d => { d with status := .active } := by
      rw [hdb']
    refine .of_update hdocument hdocuments ?_
    rintro rfl
    rw [persistRequirements_archived hdocument harchived] at hpersisted
    cases refused <;> cases hpersisted

/-- **What a step does to an archived document**: nothing, unless the step is one of those that
overwrite it, which write its status and nothing else. -/
lemma spared_step (hdocument : db.documents.lookup documentId = some document)
    (harchived : document.archivedAt ≠ none) (s : SourceStep) :
    Spared (sourceStep config db s) documentId document (Overwrites config db documentId s) := by
  cases s with
  | call call => exact spared_call hdocument harchived call
  | document op => exact spared_document hdocument harchived op

/-! ### Archived documents stay archived -/

/-- The document is there, and has the time it was archived at. -/
def ArchivedAt (documentId : String) (time : ℕ) (db : Database) : Prop :=
  ∃ document, db.documents.lookup documentId = some document ∧ document.archivedAt = some time

lemma archivedAt_step {time : ℕ} (s : SourceStep) (h : db.ArchivedAt documentId time) :
    (sourceStep config db s).ArchivedAt documentId time := by
  obtain ⟨document, hdocument, htime⟩ := h
  have harchived : document.archivedAt ≠ none := by simp [htime]
  rcases spared_step hdocument harchived s with hsame | ⟨-, status, hwritten⟩
  · exact ⟨document, hsame, htime⟩
  · exact ⟨_, hwritten, htime⟩

end

/-- **Once a document is archived**, no later step takes the time away or makes its rows and
chunks readable, and when no step overwrites it, its row stays as it was. -/
theorem archived_documents_final {config : Option String} {db : Database} {documentId : String}
    {document : Document} (hdocument : db.documents.lookup documentId = some document)
    (harchived : document.IsArchived) (steps : List SourceStep) :
    (∃ later, (run (sourceStep config) db steps).documents.lookup documentId = some later ∧
        later.archivedAt = document.archivedAt ∧ later.readable = false) ∧
      (Along (sourceStep config) (fun db s => ¬ Overwrites config db documentId s) db steps →
        (run (sourceStep config) db steps).documents.lookup documentId = some document) := by
  constructor
  · obtain ⟨time, htime⟩ := Option.ne_none_iff_exists'.mp harchived.2
    have hkept : (run (sourceStep config) db steps).ArchivedAt documentId time :=
      run_invariant' (fun db s h => archivedAt_step s h) steps ⟨document, hdocument, htime⟩
    obtain ⟨later, hlater, hsame⟩ := hkept
    refine ⟨later, hlater, hsame.trans htime.symm, ?_⟩
    simp [Document.readable, hsame]
  · intro hspared
    have hstep : ∀ (db : Database) s, ¬ Overwrites config db documentId s →
        db.documents.lookup documentId = some document →
        (sourceStep config db s).documents.lookup documentId = some document := by
      intro db s hs h
      rcases spared_step h harchived.2 s with hsame | ⟨hover, -⟩
      · exact hsame
      · exact absurd hover hs
    exact run_invariant hstep hspared hdocument

/-- An import that a worker has claimed when its document is archived. -/
def reservedImport : Database :=
  run (sourceStep none) {} [
    .document (.reserveStructuredImport ⟨"document", "org", .vip, none, none⟩ "batch" none),
    .document (.enqueueReservedStructuredImport "org" "batch" "run" 1)]

def archivedImport : Database :=
  run (sourceStep none) reservedImport [
    .call (.claimNextProcessingRun reservedImport "worker" 300 2),
    .document (.archiveDocuments "org" ["document"] [] 3)]

def archivedDocument : Document where
  orgId := "org"
  documentKind := some .structured
  status := .archived
  archivedAt := some 3

lemma archivedImport_document :
    archivedImport.documents.lookup "document" = some archivedDocument := by
  decide +kernel

/-- A rejection takes the document out of the archive. -/
theorem rejected_after_archival :
    archivedImport.documents.lookup "document" = some archivedDocument ∧
      archivedDocument.IsArchived ∧
      (sourceStep none archivedImport (.call (.rejectStructuredImport ⟨"run", "worker", 1⟩
        "document" "batch" 4))).documents.lookup "document" =
          some { archivedDocument with status := .processingFailed } := by
  exact ⟨archivedImport_document, ⟨rfl, by decide⟩, by decide +kernel⟩

/-- The worker that has claimed the import finds it archived, renews its lease, and cannot
complete it. -/
def lateImport : List SourceStep :=
  [.call (.heartbeatProcessingRun ⟨"run", "worker", 1⟩ 300 4),
    .call (.beginStructuredImportApply ⟨"run", "worker", 1⟩ "document" "batch" 5),
    .call (.completeStructuredImport ⟨"run", "worker", 1⟩ "document" "batch" none [] 6)]

lemma lateImport_spares :
    Along (sourceStep none) (fun db s => ¬ Overwrites none db "document" s) archivedImport
      lateImport := by
  refine ⟨?_, ?_, ?_, trivial⟩ <;> intro h <;> cases h

theorem archived_while_claimed :
    (∃ later, (run (sourceStep none) archivedImport lateImport).documents.lookup "document" =
        some later ∧ later.archivedAt = archivedDocument.archivedAt ∧ later.readable = false) ∧
      (run (sourceStep none) archivedImport lateImport).documents.lookup "document" =
        some archivedDocument := by
  have hfinal := @archived_documents_final none _ _ _ archivedImport_document
    ⟨rfl, by decide⟩ lateImport
  exact ⟨hfinal.1, hfinal.2 lateImport_spares⟩

end Database
end SmeDataCenter
