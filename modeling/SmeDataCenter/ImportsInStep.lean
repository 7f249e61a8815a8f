import SmeDataCenter.ImportWindows

/-!
# Imports in step

A structured import is three rows: its document, its batch and its run. Whatever workers and
reservations do, the status of the batch goes with that of the run. A call writes the rows of only
one import, whose run is live; an import that has ended is not written again, except that its
document is archived.
-/

namespace SmeDataCenter

open Runs
open Table (Keeps)

/-! ### Rows of one import -/

/-- The columns of a batch that are written once. -/
def ImportBatch.fixed (b : ImportBatch) :
    String × String × ImportDataset × Option String × Option String :=
  (b.orgId, b.sourceDocumentId, b.dataset, b.startDate, b.endDate)

/-- The statuses of an import that is over. -/
def ImportBatchStatus.ended : ImportBatchStatus → Bool
  | .applied | .failed | .rejected => true
  | _ => false

/-- The operation reserves an import. -/
def DocumentOperation.reserves : DocumentOperation → Bool
  | .reserveStructuredImport .. => true
  | _ => false

/-- The document waits for a worker. -/
def DocumentStatus.waits : DocumentStatus → Bool
  | .pendingProcessing | .processing => true
  | _ => false

/-- The statuses that go together; the document of an applied import is archived in both of its
columns or in none. -/
inductive Agrees : ProcessingRunStatus → ImportBatchStatus → Document → Prop
  | queued (d : Document) : Agrees .queued .pending d
  | scheduled (d : Document) : Agrees .retryScheduled .pending d
  | validating (d : Document) : Agrees .running .validating d
  | applying (d : Document) : Agrees .running .applying d
  | applied {d : Document} (both : d.status = .archived ↔ d.archivedAt ≠ none) :
      Agrees .succeeded .applied d
  | failed (d : Document) : Agrees .failed .failed d
  | rejected (d : Document) : Agrees .failed .rejected d

variable {batch : ImportBatchStatus} {d : Document}

lemma Agrees.ended {run : ProcessingRunStatus} (h : Agrees run batch d) :
    batch.ended = !run.isLive := by
  cases h <;> rfl

lemma Agrees.claimable {run : ProcessingRunStatus} (h : Agrees run batch d)
    (hlive : run.isLive = true) : batch.claimable = true := by
  cases h <;> first | rfl | cases hlive

lemma Agrees.both {run : ProcessingRunStatus} (h : Agrees run .applied d) :
    d.status = .archived ↔ d.archivedAt ≠ none := by
  cases h with
  | applied both => exact both

lemma Agrees.archived {run : ProcessingRunStatus} {d' : Document} (h : Agrees run batch d)
    (hstatus : d'.status = .archived) (htime : d'.archivedAt ≠ none) : Agrees run batch d' := by
  cases h with
  | queued => exact .queued _
  | scheduled => exact .scheduled _
  | validating => exact .validating _
  | applying => exact .applying _
  | applied => exact .applied ⟨fun _ => htime, fun _ => hstatus⟩
  | failed => exact .failed _
  | rejected => exact .rejected _

namespace Database

/-- The run is that of the document. -/
def RunOf (db : Database) (id : String) (run : ProcessingRun) (documentId : String) : Prop :=
  db.processingRuns.lookup id = some run ∧ run.documentId = some documentId

/-- The documents, batches and runs are in step. -/
structure InStep (db : Database) : Prop where
  kinds : ∀ id run, db.processingRuns.lookup id = some run →
    (run.jobType = .evidenceDocumentIndex ∨ run.jobType = .structuredImport) ∧
      run.partitionDownloadRequestId = none ∧
      (run.status = .running → run.lockedUntil.isSome = true) ∧
      ∃ documentId document, run.documentId = some documentId ∧
        db.documents.lookup documentId = some document
  one : ∀ id id' run run' documentId, db.RunOf id run documentId → db.RunOf id' run' documentId →
    id = id'
  sources : ∀ k k' b b', db.importBatches.lookup k = some b → db.importBatches.lookup k' = some b' →
    b.sourceDocumentId = b'.sourceDocumentId → k = k'
  documents : ∀ k b, db.importBatches.lookup k = some b →
    ∃ d, db.documents.lookup b.sourceDocumentId = some d
  idle : ∀ k b, db.importBatches.lookup k = some b →
    (∀ id run, ¬ db.RunOf id run b.sourceDocumentId) → b.status = .pending
  agrees : ∀ k b id run d, db.importBatches.lookup k = some b → db.RunOf id run b.sourceDocumentId →
    db.documents.lookup b.sourceDocumentId = some d →
    run.orgId = b.orgId ∧ run.jobType = .structuredImport ∧ Agrees run.status b.status d

/-- The rows of a run are written: its own, and those of its document. -/
structure RunWrite (db db' : Database) (id : String) (run run' : ProcessingRun) : Prop where
  found : db.processingRuns.lookup id = some run
  live : run.status.isLive = true
  owner : run'.owner = run.owner
  deadline : run'.status = .running → run'.lockedUntil.isSome = true
  runs : ∀ k, db'.processingRuns.lookup k =
    if k = id then some run' else db.processingRuns.lookup k
  batches : Keeps ImportBatch.fixed db.importBatches db'.importBatches
  aside : ∀ k b, db.importBatches.lookup k = some b → run.documentId ≠ some b.sourceDocumentId →
    db'.importBatches.lookup k = some b
  documents : ∀ k, run.documentId ≠ some k → db'.documents.lookup k = db.documents.lookup k
  archived : Keeps (·.archivedAt) db.documents db'.documents
  agrees : ∀ k b b' d d', run.jobType = .structuredImport →
    run.documentId = some b.sourceDocumentId → run.orgId = b.orgId →
    db.importBatches.lookup k = some b → db'.importBatches.lookup k = some b' →
    db.documents.lookup b.sourceDocumentId = some d →
    db'.documents.lookup b.sourceDocumentId = some d' →
    Agrees run.status b.status d → Agrees run'.status b'.status d'
  waits : ∀ documentId d d', run.jobType = .structuredImport → run.documentId = some documentId →
    db.documents.lookup documentId = some d → db'.documents.lookup documentId = some d' →
    run'.status.isLive = true → d.status.waits = true → d'.status.waits = true

/-- The rows of `seen` are rows of `db`, as they were. -/
structure Older (seen db : Database) : Prop where
  runs : ∀ k run, seen.processingRuns.lookup k = some run →
    ∃ run', db.processingRuns.lookup k = some run' ∧ run'.owner = run.owner
  batches : ∀ k b, seen.importBatches.lookup k = some b →
    ∃ b', db.importBatches.lookup k = some b' ∧ b'.fixed = b.fixed
  documents : ∀ k d, seen.documents.lookup k = some d → ∃ d', db.documents.lookup k = some d'

section

variable {db db' db'' seen : Database} {id : String} {run run' : ProcessingRun}

lemma Older.refl (db : Database) : Older db db :=
  ⟨fun _ run h => ⟨run, h, rfl⟩, fun _ b h => ⟨b, h, rfl⟩, fun _ d h => ⟨d, h⟩⟩

lemma Older.trans (h : Older db db') (h' : Older db' db'') : Older db db'' := by
  refine ⟨fun k run hrun => ?_, fun k b hb => ?_, fun k d hd => ?_⟩
  · obtain ⟨run', hrun', howner⟩ := h.runs k run hrun
    obtain ⟨run'', hrun'', howner'⟩ := h'.runs k run' hrun'
    exact ⟨run'', hrun'', howner'.trans howner⟩
  · obtain ⟨b', hb', hfixed⟩ := h.batches k b hb
    obtain ⟨b'', hb'', hfixed'⟩ := h'.batches k b' hb'
    exact ⟨b'', hb'', hfixed'.trans hfixed⟩
  · obtain ⟨d', hd'⟩ := h.documents k d hd
    exact h'.documents k d' hd'

lemma owner_documentId (h : run'.owner = run.owner) : run'.documentId = run.documentId :=
  congrArg RunOwner.documentId h

variable {b : ImportBatch}

lemma fixed_source {b' : ImportBatch} (h : b'.fixed = b.fixed) :
    b'.sourceDocumentId = b.sourceDocumentId :=
  congrArg (fun f => f.2.1) h

lemma fixed_org {b' : ImportBatch} (h : b'.fixed = b.fixed) : b'.orgId = b.orgId :=
  congrArg (fun f => f.1) h

/-! ### What a write keeps -/

lemma RunWrite.older (hw : RunWrite db db' id run run') : Older db db' := by
  refine ⟨fun k other hother => ?_, fun k b hb => ?_, fun k d hd => ?_⟩
  · rw [hw.runs]
    split_ifs with hk
    · subst hk
      rw [hw.found] at hother
      cases hother
      exact ⟨run', rfl, hw.owner⟩
    · exact ⟨other, hother, rfl⟩
  · exact hw.batches.forth hb
  · obtain ⟨d', hd', -⟩ := hw.archived.forth hd
    exact ⟨d', hd'⟩

variable {k : String}

lemma RunWrite.runOf (hw : RunWrite db db' id run run') {documentId : String}
    {other : ProcessingRun} (h : db'.RunOf k other documentId) :
    ∃ old, db.RunOf k old documentId ∧ (k = id → old = run ∧ other = run') ∧
      (k ≠ id → old = other) := by
  obtain ⟨hother, hdocument⟩ := h
  rw [hw.runs] at hother
  split_ifs at hother with hk
  · cases hother
    subst hk
    refine ⟨run, ⟨hw.found, ?_⟩, fun _ => ⟨rfl, rfl⟩, fun hne => absurd rfl hne⟩
    rw [← owner_documentId hw.owner, hdocument]
  · exact ⟨other, ⟨hother, hdocument⟩, fun heq => absurd heq hk, fun _ => rfl⟩

lemma RunWrite.runOf' (hw : RunWrite db db' id run run') {documentId : String}
    {old : ProcessingRun} (h : db.RunOf k old documentId) :
    ∃ other, db'.RunOf k other documentId := by
  obtain ⟨other, hother, howner⟩ := hw.older.runs k old h.1
  exact ⟨other, hother, (owner_documentId howner).trans h.2⟩

/-- **A write keeps imports in step.** -/
lemma InStep.write (h : db.InStep) (hw : RunWrite db db' id run run') : db'.InStep := by
  constructor
  · intro k other hother
    rw [hw.runs] at hother
    split_ifs at hother with hk
    · cases hother
      obtain ⟨hkind, hdownload, -, documentId, d, hdocument, hd⟩ := h.kinds id run hw.found
      obtain ⟨d', hd'⟩ := hw.older.documents documentId d hd
      have hkind' : run'.jobType = run.jobType := congrArg RunOwner.jobType hw.owner
      refine ⟨hkind' ▸ hkind, ?_, hw.deadline, documentId, d',
        (owner_documentId hw.owner).trans hdocument, hd'⟩
      exact (congrArg RunOwner.partitionDownloadRequestId hw.owner).trans hdownload
    · obtain ⟨hkind, hdownload, hdeadline, documentId, d, hdocument, hd⟩ := h.kinds k other hother
      obtain ⟨d', hd'⟩ := hw.older.documents documentId d hd
      exact ⟨hkind, hdownload, hdeadline, documentId, d', hdocument, hd'⟩
  · intro k k' r r' documentId hr hr'
    obtain ⟨old, hold, -⟩ := hw.runOf hr
    obtain ⟨old', hold', -⟩ := hw.runOf hr'
    exact h.one k k' old old' documentId hold hold'
  · intro k k' b b' hb hb' hsame
    obtain ⟨c, hc, hfixed⟩ := hw.batches.back hb
    obtain ⟨c', hc', hfixed'⟩ := hw.batches.back hb'
    refine h.sources k k' c c' hc hc' ?_
    rw [fixed_source hfixed, fixed_source hfixed', hsame]
  · intro k b hb
    obtain ⟨c, hc, hfixed⟩ := hw.batches.back hb
    obtain ⟨d, hd⟩ := h.documents k c hc
    rw [← fixed_source hfixed]
    exact hw.older.documents _ d hd
  · intro k b hb hnone
    obtain ⟨c, hc, hfixed⟩ := hw.batches.back hb
    have hidle : ∀ k' r, ¬ db.RunOf k' r c.sourceDocumentId := by
      intro k' r hr
      obtain ⟨r', hr'⟩ := hw.runOf' hr
      rw [fixed_source hfixed] at hr'
      exact hnone k' r' hr'
    -- the run that is written is not the batch's
    have haside := hw.aside k c hc fun hrun => hidle id run ⟨hw.found, hrun⟩
    rw [hb] at haside
    cases haside
    exact h.idle k b hc hidle
  · intro k b k' r d hb hr hd
    obtain ⟨c, hc, hfixed⟩ := hw.batches.back hb
    rw [← fixed_source hfixed] at hr hd
    obtain ⟨old, hold, hsame, hother⟩ := hw.runOf hr
    obtain ⟨e, he⟩ := h.documents k c hc
    obtain ⟨horg, hkind, hagrees⟩ := h.agrees k c k' old e hc hold he
    by_cases hk : k' = id
    · obtain ⟨rfl, rfl⟩ := hsame hk
      refine ⟨?_, (congrArg RunOwner.jobType hw.owner).trans hkind,
        hw.agrees k c b e d hkind hold.2 horg hc hb he hd hagrees⟩
      rw [← fixed_org hfixed, ← horg]
      exact congrArg RunOwner.orgId hw.owner
    · obtain rfl := hother hk
      have hapart : run.documentId ≠ some c.sourceDocumentId := fun hrun =>
        hk (h.one k' id old run _ hold ⟨hw.found, hrun⟩)
      have hbatch := hw.aside k c hc hapart
      rw [hb] at hbatch
      cases hbatch
      rw [hw.documents _ hapart, he] at hd
      cases hd
      exact ⟨horg, hkind, hagrees⟩

lemma InStep.write_ended (h : db.InStep) (hw : RunWrite db db' id run run')
    (hb : db.importBatches.lookup k = some b) (hended : b.status.ended = true) :
    db'.importBatches.lookup k = some b ∧
      db'.documents.lookup b.sourceDocumentId = db.documents.lookup b.sourceDocumentId := by
  have hapart : run.documentId ≠ some b.sourceDocumentId := by
    intro hrun
    obtain ⟨d, hd⟩ := h.documents k b hb
    obtain ⟨-, -, hagrees⟩ := h.agrees k b id run d hb ⟨hw.found, hrun⟩ hd
    have hlive := hagrees.ended
    rw [hended, hw.live] at hlive
    cases hlive
  exact ⟨hw.aside k b hb hapart, hw.documents _ hapart⟩

end

end Database
end SmeDataCenter
