import SmeDataCenter.ImportCalls

/-!
# Operations on the documents of imports

Uploads, reservations and the enqueuing of an import make new rows of documents that have none;
archiving writes the document only. Imports stay in step, and those that have ended are not
written.
-/

namespace SmeDataCenter

open Runs
open Table (Keeps)

namespace Database

section

variable {db db' db'' : Database} {id : String} {run : ProcessingRun} {now : ℕ}

/-- A document is as it was, or has no run, or is archived now. -/
def DocumentKept (db : Database) (k : String) (d d' : Document) : Prop :=
  d' = d ∨ (∀ id run, ¬ db.RunOf id run k) ∨ (d'.status = .archived ∧ d'.archivedAt ≠ none)

lemma InStep.of_documents (h : db.InStep) (hruns : db'.processingRuns = db.processingRuns)
    (hbatches : db'.importBatches = db.importBatches)
    (hkept : ∀ k d, db.documents.lookup k = some d →
      ∃ d', db'.documents.lookup k = some d' ∧ DocumentKept db k d d') : db'.InStep := by
  have hrunOf : ∀ id run documentId, db'.RunOf id run documentId ↔ db.RunOf id run documentId := by
    intro id run documentId
    unfold RunOf
    rw [hruns]
  constructor
  · intro id run hrun
    rw [hruns] at hrun
    obtain ⟨hkind, hdownload, hdeadline, documentId, d, hdocument, hd⟩ := h.kinds id run hrun
    obtain ⟨d', hd', -⟩ := hkept documentId d hd
    exact ⟨hkind, hdownload, hdeadline, documentId, d', hdocument, hd'⟩
  · intro id id' run run' documentId hrun hrun'
    exact h.one id id' run run' documentId ((hrunOf ..).mp hrun) ((hrunOf ..).mp hrun')
  · rw [hbatches]
    exact h.sources
  · intro k b hb
    rw [hbatches] at hb
    obtain ⟨d, hd⟩ := h.documents k b hb
    obtain ⟨d', hd', -⟩ := hkept _ d hd
    exact ⟨d', hd'⟩
  · intro k b hb hnone
    rw [hbatches] at hb
    exact h.idle k b hb fun id run hrun => hnone id run ((hrunOf ..).mpr hrun)
  · intro k b id run d' hb hrun hd'
    rw [hbatches] at hb
    rw [hrunOf] at hrun
    obtain ⟨d, hd⟩ := h.documents k b hb
    obtain ⟨horg, hkind, hagrees⟩ := h.agrees k b id run d hb hrun hd
    refine ⟨horg, hkind, ?_⟩
    obtain ⟨e, he, hsame | hnone | ⟨hstatus, htime⟩⟩ := hkept _ d hd
    · rw [he, hsame] at hd'
      cases hd'
      exact hagrees
    · exact absurd hrun (hnone id run)
    · rw [he] at hd'
      cases hd'
      exact hagrees.archived hstatus htime

lemma InStep.create_run {documentId : String} {d : Document} (h : db.InStep)
    (hcreate : db.createRun id run = .ok db')
    (hkind : run.jobType = .evidenceDocumentIndex ∨ run.jobType = .structuredImport)
    (hdownload : run.partitionDownloadRequestId = none) (hqueued : run.status = .queued)
    (hdocument : run.documentId = some documentId) (hd : db.documents.lookup documentId = some d)
    (hnone : ∀ k other, ¬ db.RunOf k other documentId)
    (hbatch : ∀ k b, db.importBatches.lookup k = some b → b.sourceDocumentId = documentId →
      run.orgId = b.orgId ∧ run.jobType = .structuredImport) : db'.InStep := by
  obtain ⟨-, -, runs, rfl, hlookup⟩ := createRun_ok hcreate
  have hrunOf : ∀ k other source, ({ db with processingRuns := runs } : Database).RunOf k other
      source → (k = id ∧ other = run ∧ source = documentId) ∨
        (source ≠ documentId ∧ db.RunOf k other source) := by
    rintro k other source ⟨hother, hsource⟩
    change runs.lookup k = some other at hother
    rw [hlookup] at hother
    split_ifs at hother with hk
    · cases hother
      exact .inl ⟨hk, rfl, Option.some.inj (hsource.symm.trans hdocument)⟩
    · refine .inr ⟨?_, hother, hsource⟩
      rintro rfl
      exact hnone k other ⟨hother, hsource⟩
  constructor
  · intro k other hother
    change runs.lookup k = some other at hother
    rw [hlookup] at hother
    split_ifs at hother with hk
    · cases hother
      refine ⟨hkind, hdownload, fun hr => ?_, documentId, d, hdocument, hd⟩
      rw [hqueued] at hr
      cases hr
    · exact h.kinds k other hother
  · intro k k' r r' source hr hr'
    rcases hrunOf k r source hr with ⟨rfl, -, rfl⟩ | ⟨hne, hold⟩
    · rcases hrunOf k' r' _ hr' with ⟨rfl, -, -⟩ | ⟨hne, -⟩
      · rfl
      · exact absurd rfl hne
    · rcases hrunOf k' r' source hr' with ⟨-, -, rfl⟩ | ⟨-, hold'⟩
      · exact absurd rfl hne
      · exact h.one k k' r r' source hold hold'
  · exact h.sources
  · exact h.documents
  · intro k b hb hidle
    refine h.idle k b hb fun k' other hother => ?_
    have hk : k' ≠ id := by
      rintro rfl
      obtain ⟨hfresh, -⟩ := createRun_ok hcreate
      rw [hother.1] at hfresh
      cases hfresh
    refine hidle k' other ⟨?_, hother.2⟩
    change runs.lookup k' = some other
    rw [hlookup, if_neg hk]
    exact hother.1
  · intro k b k' other e hb hother he
    rcases hrunOf k' other _ hother with ⟨rfl, rfl, hsource⟩ | ⟨-, hold⟩
    · obtain ⟨horg, himport⟩ := hbatch k b hb hsource
      have hpending := h.idle k b hb fun k'' r => hsource ▸ hnone k'' r
      refine ⟨horg, himport, ?_⟩
      rw [hqueued, hpending]
      exact .queued e
    · exact h.agrees k b k' other e hb hold he

lemma InStep.create_batch {k : String} {b : ImportBatch} {batches : Table String ImportBatch}
    {d : Document} (h : db.InStep) (hcreate : db.importBatches.create k b = some batches)
    (hpending : b.status = .pending) (hd : db.documents.lookup b.sourceDocumentId = some d)
    (hnone : ∀ id run, ¬ db.RunOf id run b.sourceDocumentId)
    (hsource : ∀ k' c, db.importBatches.lookup k' = some c →
      c.sourceDocumentId ≠ b.sourceDocumentId) :
    ({ db with importBatches := batches } : Database).InStep := by
  have hlookup := Table.lookup_create hcreate
  have hcases : ∀ k' c, batches.lookup k' = some c →
      (k' = k ∧ c = b) ∨ db.importBatches.lookup k' = some c := by
    intro k' c hc
    rw [hlookup] at hc
    split_ifs at hc with hk
    · cases hc
      exact .inl ⟨hk, rfl⟩
    · exact .inr hc
  refine ⟨h.kinds, h.one, fun k' k'' c c' hc hc' hsame => ?_, fun k' c hc => ?_,
    fun k' c hc hidle => ?_, fun k' c id run e hc hrun he => ?_⟩
  · rcases hcases k' c hc with ⟨rfl, rfl⟩ | hc
    · rcases hcases k'' c' hc' with ⟨rfl, -⟩ | hc'
      · rfl
      · exact absurd hsame.symm (hsource k'' c' hc')
    · rcases hcases k'' c' hc' with ⟨rfl, rfl⟩ | hc'
      · exact absurd hsame (hsource k' c hc)
      · exact h.sources k' k'' c c' hc hc' hsame
  · rcases hcases k' c hc with ⟨-, rfl⟩ | hc
    · exact ⟨d, hd⟩
    · exact h.documents k' c hc
  · rcases hcases k' c hc with ⟨-, rfl⟩ | hc
    · exact hpending
    · exact h.idle k' c hc hidle
  · rcases hcases k' c hc with ⟨-, rfl⟩ | hc
    · exact absurd hrun (hnone id run)
    · exact h.agrees k' c id run e hc hrun he

/-- What a step keeps that makes no new batch. -/
structure ImportsKept (db db' : Database) : Prop where
  inStep : db'.InStep
  older : Older db db'
  batches : Keeps ImportBatch.fixed db.importBatches db'.importBatches
  ended : ∀ k b, db.importBatches.lookup k = some b → b.status.ended = true →
    db'.importBatches.lookup k = some b

lemma ImportsKept.refl (h : db.InStep) : ImportsKept db db :=
  ⟨h, .refl db, .refl _ _, fun _ _ hb _ => hb⟩

lemma SameRows.kept (h : db.InStep) (hsame : SameRows db db') : ImportsKept db db' := by
  obtain ⟨hruns, hbatches, hdocuments⟩ := hsame
  refine ⟨h.of_documents hruns hbatches fun k d hd => ⟨d, hdocuments ▸ hd, .inl rfl⟩, ?_, ?_, ?_⟩
  · exact ⟨fun k run hrun => ⟨run, hruns ▸ hrun, rfl⟩, fun k b hb => ⟨b, hbatches ▸ hb, rfl⟩,
      fun k d hd => ⟨d, hdocuments ▸ hd⟩⟩
  · rw [hbatches]
    exact .refl _ _
  · intro k b hb _
    rw [hbatches]
    exact hb

lemma WritesImport.kept (h : db.InStep) (hw : WritesImport db db') : ImportsKept db db' := by
  rcases hw with hsame | ⟨id, run, run', hw⟩
  · exact hsame.kept h
  · exact ⟨h.write hw, hw.older, hw.batches, fun k b hb hended => (h.write_ended hw hb hended).1⟩

lemma kept_of_documents (h : db.InStep) (hruns : db'.processingRuns = db.processingRuns)
    (hbatches : db'.importBatches = db.importBatches)
    (hkept : ∀ k d, db.documents.lookup k = some d →
      ∃ d', db'.documents.lookup k = some d' ∧ DocumentKept db k d d') : ImportsKept db db' := by
  refine ⟨h.of_documents hruns hbatches hkept, ⟨fun k run hrun => ⟨run, hruns ▸ hrun, rfl⟩,
    fun k b hb => ⟨b, hbatches ▸ hb, rfl⟩, fun k d hd => ?_⟩, hbatches ▸ .refl _ _, ?_⟩
  · obtain ⟨d', hd', -⟩ := hkept k d hd
    exact ⟨d', hd'⟩
  · intro k b hb _
    rw [hbatches]
    exact hb

lemma ImportsKept.trans (hk : ImportsKept db db') (hk' : ImportsKept db' db'') :
    ImportsKept db db'' :=
  ⟨hk'.inStep, hk.older.trans hk'.older, hk.batches.trans hk'.batches, fun k b hb hended =>
    hk'.ended k b (hk.ended k b hb hended) hended⟩

lemma kept_of_run {documentId : String} {d : Document} (h : db.InStep)
    (hcreate : db.createRun id run = .ok db')
    (hkind : run.jobType = .evidenceDocumentIndex ∨ run.jobType = .structuredImport)
    (hdownload : run.partitionDownloadRequestId = none) (hqueued : run.status = .queued)
    (hdocument : run.documentId = some documentId) (hd : db.documents.lookup documentId = some d)
    (hnone : ∀ k other, ¬ db.RunOf k other documentId)
    (hbatch : ∀ k b, db.importBatches.lookup k = some b → b.sourceDocumentId = documentId →
      run.orgId = b.orgId ∧ run.jobType = .structuredImport) : ImportsKept db db' := by
  have hinStep := h.create_run hcreate hkind hdownload hqueued hdocument hd hnone hbatch
  obtain ⟨hfresh, -, runs, rfl, hlookup⟩ := createRun_ok hcreate
  refine ⟨hinStep, ⟨fun k other hother => ⟨other, ?_, rfl⟩, fun k b hb => ⟨b, hb, rfl⟩,
    fun k d hd => ⟨d, hd⟩⟩, .refl _ _, fun _ _ hb _ => hb⟩
  change runs.lookup k = some other
  rw [hlookup, if_neg]
  · exact hother
  · rintro rfl
    rw [hother] at hfresh
    cases hfresh

variable {refused : Option String}

lemma kept_createUploadedDocument {input : CreateUploadedDocumentInput} {runId : String}
    (h : db.InStep) (hok : db.createUploadedDocument input runId refused now = .ok db') :
    ImportsKept db db' := by
  obtain ⟨row, documents, hcreate, hrun⟩ := createUploadedDocument_ok hok
  have hlookup := Table.lookup_create hcreate
  have hfresh := Table.create_fresh hcreate
  have hkept : ImportsKept db { db with documents := documents } := by
    refine kept_of_documents h rfl rfl fun k d hd => ⟨d, ?_, .inl rfl⟩
    change documents.lookup k = some d
    rw [hlookup, if_neg]
    · exact hd
    · rintro rfl
      rw [hd] at hfresh
      cases hfresh
  refine hkept.trans (kept_of_run (d := row) hkept.inStep hrun (.inl rfl) rfl rfl rfl ?_ ?_ ?_)
  · change documents.lookup input.id = some row
    rw [hlookup, if_pos rfl]
  · rintro k other ⟨hother, hdocument⟩
    obtain ⟨-, -, -, documentId, d, hdocument', hd⟩ := h.kinds k other hother
    rw [hdocument] at hdocument'
    cases hdocument'
    rw [hfresh] at hd
    cases hd
  · intro k b hb hsource
    obtain ⟨d, hd⟩ := h.documents k b hb
    rw [hsource, hfresh] at hd
    cases hd

lemma kept_enqueueReserved {orgId importBatchId runId : String} (h : db.InStep)
    (hok : db.enqueueReservedStructuredImport orgId importBatchId runId now = .ok db') :
    ImportsKept db db' := by
  rcases enqueueReservedStructuredImport_ok hok with rfl | ⟨batch, hbatch, horg, hfirst, hrun⟩
  · exact .refl h
  have hnone : ∀ id run, ¬ db.RunOf id run batch.sourceDocumentId := fun id run hrun =>
    hfirst id run hrun.1 hrun.2
  have hkept : ImportsKept db { db with
      documents := db.documents.update batch.sourceDocumentId fun d =>
        { d with status := .pendingProcessing } } := by
    refine kept_of_documents h rfl rfl fun k d hd => ?_
    by_cases hk : k = batch.sourceDocumentId
    · refine ⟨{ d with status := .pendingProcessing }, ?_, .inr (.inl (hk ▸ hnone))⟩
      change (db.documents.update _ _).lookup k = _
      rw [lookup_update_document, if_pos hk, hd, Option.map_some]
    · refine ⟨d, ?_, .inl rfl⟩
      change (db.documents.update _ _).lookup k = _
      rw [lookup_update_document, if_neg hk, hd]
  obtain ⟨d, hd⟩ := hkept.inStep.documents importBatchId batch hbatch
  refine hkept.trans (kept_of_run hkept.inStep hrun (.inr rfl) rfl rfl rfl hd hnone
    fun k b hb hsource => ⟨?_, rfl⟩)
  obtain rfl := h.sources k importBatchId b batch hb hbatch hsource
  change db.importBatches.lookup k = some b at hb
  rw [hbatch] at hb
  cases hb
  exact horg.symm

lemma kept_archiveDocuments (h : db.InStep) (orgId : String) (documentIds : List String)
    (partitions : List LedgerPartitionKey) (now : ℕ) :
    ImportsKept db (db.archiveDocuments orgId documentIds partitions now) := by
  rcases db.archiveDocuments_cases orgId documentIds partitions now with heq | ⟨p, heq⟩
  · rw [heq]
    exact .refl h
  · rw [heq]
    refine kept_of_documents h rfl rfl fun k d hd => ?_
    refine ⟨if p k d then { d with status := .archived, archivedAt := some now } else d, ?_, ?_⟩
    · change (db.documents.updateMany _ _).lookup k = _
      rw [Table.lookup_updateMany, hd, Option.map_some]
    · split_ifs
      · exact .inr (.inr ⟨rfl, nofun⟩)
      · exact .inl rfl

lemma writes_publishCostCards {input : CostCardPublishInput} {leaseNow : ℕ} (h : db.InStep)
    (hok : db.publishCostCards input (refused.or (db.persistRequirements input.orgId
      input.sourceDocumentId none)) leaseNow now = .ok db') : WritesImport db db' := by
  obtain ⟨hrefused, run, batch, hrun, hdocument, -, hlease, hbatch, hsource, hdb'⟩ :=
    publishCostCards_ok hok
  obtain ⟨d, hd, hopen⟩ := persistRequirements_none (Option.or_eq_none_iff.mp hrefused).2
  have hrunning := (lease_of_matches hlease).1
  exact writes_applied h hrun hrunning hdocument rfl rfl hbatch hsource hd hopen (by rw [hdb'])
    (by rw [hdb']) (by rw [hdb'])

/-- **An operation on documents** other than a reservation. -/
lemma kept_document {config : Option String} {op : DocumentOperation} (h : db.InStep)
    (hop : op.reserves = false) : ImportsKept db (sourceStep config db (.document op)) := by
  cases op with
  | createUploadedDocument input runId refused now =>
    exact commit_induction (.refl h) fun db' hok => kept_createUploadedDocument h hok
  | reserveStructuredImport input importBatchId refused => cases hop
  | enqueueReservedStructuredImport orgId importBatchId runId now =>
    exact commit_induction (.refl h) fun db' hok => kept_enqueueReserved h hok
  | archiveDocuments orgId documentIds partitions now =>
    exact kept_archiveDocuments h orgId documentIds partitions now
  | publishCostCards input refused leaseNow now =>
    exact commit_induction (.refl h) fun db' hok => (writes_publishCostCards h hok).kept h

/-- **A reservation** makes a new document and a new batch. -/
lemma inStep_reserve {input : ReserveStructuredImportInput} {importBatchId : String} (h : db.InStep)
    (hok : db.reserveStructuredImport input importBatchId refused = .ok db') :
    db'.InStep ∧ Older db db' ∧ db.importBatches.lookup importBatchId = none ∧
      ∃ b : ImportBatch, b.orgId = input.orgId ∧ b.dataset = input.dataset ∧
        b.startDate = input.startDate ∧ b.endDate = input.endDate ∧ b.status = .pending ∧
        ∀ k, db'.importBatches.lookup k =
          if k = importBatchId then some b else db.importBatches.lookup k := by
  obtain ⟨-, -, -, -, -, -, -, -, hother, -⟩ := reserveStructuredImport_ok hok
  unfold reserveStructuredImport at hok
  split at hok
  · cases hok
  obtain ⟨documents, hdocuments, hok⟩ := bind_eq_ok.mp hok
  split_ifs at hok
  obtain ⟨batches, hbatches, hok⟩ := bind_eq_ok.mp hok
  cases hok
  rw [createOrThrow_eq_ok] at hdocuments hbatches
  have hlookup := Table.lookup_create hdocuments
  have hfresh := Table.create_fresh hdocuments
  have hfreshBatch := Table.create_fresh hbatches
  have hkept : ImportsKept db { db with documents := documents } := by
    refine kept_of_documents h rfl rfl fun k d hd => ⟨d, ?_, .inl rfl⟩
    change documents.lookup k = some d
    rw [hlookup, if_neg]
    · exact hd
    · rintro rfl
      rw [hd] at hfresh
      cases hfresh
  refine ⟨hkept.inStep.create_batch hbatches rfl ((hlookup _).trans (if_pos rfl)) ?_ hother, ?_,
    hfreshBatch, _, rfl, rfl, rfl, rfl, rfl, Table.lookup_create hbatches⟩
  · rintro id run ⟨hrun, hdocument⟩
    obtain ⟨-, -, -, documentId, d, hdocument', hd⟩ := h.kinds id run hrun
    rw [hdocument] at hdocument'
    cases hdocument'
    rw [hfresh] at hd
    cases hd
  · refine ⟨hkept.older.runs, fun k b hb => ⟨b, ?_, rfl⟩, hkept.older.documents⟩
    change batches.lookup k = some b
    rw [Table.lookup_create hbatches, if_neg]
    · exact hb
    · rintro rfl
      rw [hb] at hfreshBatch
      cases hfreshBatch

end

end Database
end SmeDataCenter
