import SmeDataCenter.ImportAnswers

/-!
# Import windows can be released

A reservation that finds the claim on its window releases it when the import of the claim is over,
and gives up when the import is not. So each import has to get on: it has ended, or nothing was
enqueued for it and its keys lead back to it, or its run waits for a worker. A run waits with its
document; no call of a worker and no other operation takes a waiting document away from a live run,
but the archiving of a document does, whose import goes on holding the window.
-/

namespace SmeDataCenter

open Runs

variable {b : ImportBatch}

namespace Database

variable {db db' : Database} {config : Option String} {id : String} {run run' : ProcessingRun}

/-! ### Live runs wait with their documents -/

/-- The documents of the imports that have a live run wait. -/
def Waiting (db : Database) : Prop :=
  ∀ k b id run d, db.importBatches.lookup k = some b → db.RunOf id run b.sourceDocumentId →
    db.documents.lookup b.sourceDocumentId = some d → run.status.isLive = true →
    d.status.waits = true

lemma Waiting.write (h : db.InStep) (hwaiting : db.Waiting)
    (hw : RunWrite db db' id run run') : db'.Waiting := by
  intro k b k' other d hb hother hd hlive
  obtain ⟨c, hc, hfixed⟩ := hw.batches.back hb
  rw [← fixed_source hfixed] at hother hd
  obtain ⟨old, hold, hsame, hne⟩ := hw.runOf hother
  obtain ⟨e, he⟩ := h.documents k c hc
  by_cases hk : k' = id
  · obtain ⟨rfl, rfl⟩ := hsame hk
    obtain ⟨-, hkind, -⟩ := h.agrees k c k' old e hc hold he
    exact hw.waits _ e d hkind hold.2 he hd hlive (hwaiting k c k' old e hc hold he hw.live)
  · obtain rfl := hne hk
    have hapart : run.documentId ≠ some c.sourceDocumentId := fun hrun =>
      hk (h.one k' id old run _ hold ⟨hw.found, hrun⟩)
    rw [hw.documents _ hapart] at hd
    exact hwaiting k c k' old d hc hold hd hlive

lemma Waiting.writes (h : db.InStep) (hwaiting : db.Waiting) (hw : WritesImport db db') :
    db'.Waiting := by
  rcases hw with ⟨hruns, hbatches, hdocuments⟩ | ⟨id, run, run', hw⟩
  · intro k b k' other d hb hother hd
    unfold RunOf at hother
    rw [hruns] at hother
    rw [hbatches] at hb
    rw [hdocuments] at hd
    exact hwaiting k b k' other d hb hother hd
  · exact hwaiting.write h hw

variable {documentId : String}

lemma Waiting.create_document {row : Document} {documents : Table String Document} (h : db.InStep)
    (hwaiting : db.Waiting) (hcreate : db.documents.create documentId row = some documents) :
    ({ db with documents := documents } : Database).Waiting := by
  intro k b k' other d hb hother hd
  change documents.lookup b.sourceDocumentId = some d at hd
  rw [Table.lookup_create hcreate, if_neg] at hd
  · exact hwaiting k b k' other d hb hother hd
  · intro hsource
    obtain ⟨e, he⟩ := h.documents k b hb
    rw [hsource, Table.create_fresh hcreate] at he
    cases he

lemma Waiting.create_run (hwaiting : db.Waiting) (hcreate : db.createRun id run = .ok db')
    (hwaits : ∀ k b d, db.importBatches.lookup k = some b →
      run.documentId = some b.sourceDocumentId →
      db.documents.lookup b.sourceDocumentId = some d → d.status.waits = true) : db'.Waiting := by
  obtain ⟨-, -, runs, rfl, hlookup⟩ := createRun_ok hcreate
  rintro k b k' other d hb ⟨hother, hdocument⟩ hd hlive
  change runs.lookup k' = some other at hother
  rw [hlookup] at hother
  split_ifs at hother
  · cases hother
    exact hwaits k b d hb hdocument hd
  · exact hwaiting k b k' other d hb ⟨hother, hdocument⟩ hd hlive

/-- The step archives the document of an import that has a run and has not ended. -/
inductive ArchivesUnfinished (db : Database) : DocumentOperation → Prop
  | archive (orgId : String) (documentIds : List String) (partitions : List LedgerPartitionKey)
      (now : ℕ) (k id : String) (b : ImportBatch) (run : ProcessingRun) (d : Document)
      (batch : db.importBatches.lookup k = some b) (unfinished : b.status.ended = false)
      (runs : db.RunOf id run b.sourceDocumentId)
      (document : db.documents.lookup b.sourceDocumentId = some d)
      (names : b.sourceDocumentId ∈ documentIds) (org : d.orgId = orgId)
      (unarchived : d.status ≠ .archived ∧ d.archivedAt = none) :
    ArchivesUnfinished db (.archiveDocuments orgId documentIds partitions now)

variable {now : ℕ}

lemma Waiting.archive (h : db.InStep) (hwaiting : db.Waiting) {orgId : String}
    {documentIds : List String} {partitions : List LedgerPartitionKey}
    (hspares : ¬ ArchivesUnfinished db (.archiveDocuments orgId documentIds partitions now)) :
    (db.archiveDocuments orgId documentIds partitions now).Waiting := by
  unfold archiveDocuments
  dsimp only
  split_ifs
  · exact hwaiting
  intro k b k' other d' hb hother hd' hlive
  change db.importBatches.lookup k = some b at hb
  change db.RunOf k' other b.sourceDocumentId at hother
  change (db.documents.updateMany _ _).lookup b.sourceDocumentId = some d' at hd'
  rw [Table.lookup_updateMany] at hd'
  obtain ⟨d, hd, heq⟩ := Option.map_eq_some_iff.mp hd'
  split_ifs at heq with hopen
  · -- the import of the run has not ended
    obtain ⟨-, -, hagrees⟩ := h.agrees k b k' other d hb hother hd
    have hended : b.status.ended = false := by
      rw [hagrees.ended, hlive]
      rfl
    simp only [Bool.and_eq_true, decide_eq_true_eq, List.contains_iff_mem,
      Option.isNone_iff_eq_none] at hopen
    exact absurd (.archive orgId documentIds partitions now k k' b other d hb hended hother
      hd hopen.1.1.1 hopen.1.1.2 ⟨hopen.1.2, hopen.2⟩) hspares
  · rw [← heq]
    exact hwaiting k b k' other d hb hother hd hlive

/-- **An operation on documents** that archives no unfinished import. -/
lemma Waiting.document (h : db.InStep) (hwaiting : db.Waiting) {op : DocumentOperation}
    (hop : op.reserves = false) (hspares : ¬ ArchivesUnfinished db op) :
    (sourceStep config db (.document op)).Waiting := by
  cases op with
  | createUploadedDocument input runId refused now =>
    refine commit_induction hwaiting fun db' hok => ?_
    obtain ⟨row, documents, hcreate, hrun⟩ := createUploadedDocument_ok hok
    refine (hwaiting.create_document h hcreate).create_run hrun fun k b d hb hdocument _ => ?_
    obtain ⟨e, he⟩ := h.documents k b hb
    rw [← Option.some.inj hdocument, Table.create_fresh hcreate] at he
    cases he
  | reserveStructuredImport input importBatchId refused => cases hop
  | enqueueReservedStructuredImport orgId importBatchId runId now =>
    refine commit_induction hwaiting fun db' hok => ?_
    rcases enqueueReservedStructuredImport_ok hok with rfl | ⟨batch, hbatch, horg, hfirst, hrun⟩
    · exact hwaiting
    refine Waiting.create_run ?_ hrun fun k b d _ hdocument hd => ?_
    · intro k b k' other d hb hother hd
      change (db.documents.update _ _).lookup b.sourceDocumentId = some d at hd
      rw [lookup_update_document, if_neg] at hd
      · exact hwaiting k b k' other d hb hother hd
      · intro hsource
        exact hfirst k' other hother.1 (hsource ▸ hother.2)
    · change (db.documents.update _ _).lookup b.sourceDocumentId = some d at hd
      rw [lookup_update_document, if_pos (Option.some.inj hdocument).symm] at hd
      obtain ⟨e, -, rfl⟩ := Option.map_eq_some_iff.mp hd
      rfl
  | archiveDocuments orgId documentIds partitions now => exact hwaiting.archive h hspares
  | publishCostCards input refused leaseNow now =>
    exact commit_induction hwaiting fun db' hok => hwaiting.writes h (writes_publishCostCards h hok)

lemma Waiting.reserve {input : ReserveStructuredImportInput} {importBatchId : String}
    {refused : Option String} (h : db.InStep) (hwaiting : db.Waiting)
    (hok : db.reserveStructuredImport input importBatchId refused = .ok db') : db'.Waiting := by
  obtain ⟨row, documents, batch, batches, hdocuments, hbatches, hsource, -, -, rfl⟩ :=
    reserveStructuredImport_ok hok
  intro k b k' other d hb hother hd hlive
  change batches.lookup k = some b at hb
  change db.RunOf k' other b.sourceDocumentId at hother
  rw [Table.lookup_create hbatches] at hb
  split_ifs at hb
  · cases hb
    obtain ⟨-, -, -, documentId, e, hdocument, he⟩ := h.kinds k' other hother.1
    rw [hother.2] at hdocument
    cases hdocument
    rw [hsource, Table.create_fresh hdocuments] at he
    cases he
  · exact hwaiting.create_document h hdocuments k b k' other d hb hother hd hlive

/-! ### A run that waits is claimed -/

/-- The run is due from some time on, and then the claim that finds it first takes up the batch. -/
def Claimable (db : Database) (config : Option String) (id importBatchId : String)
    (run : ProcessingRun) : Prop :=
  ∃ time, ∀ now, time ≤ now → db.eligible config now run = true ∧
    ∀ workerId leaseSeconds, db.findNextRun config now = some (id, run) →
      ∃ claimed db', claimNextProcessingRun db db config workerId leaseSeconds now =
          .ok (some claimed, db') ∧ claimed.id = id ∧
        claimed.structuredImport.map (·.importBatchId) = some importBatchId

/-- The time at which a run is due. -/
def dueAt (run : ProcessingRun) : ℕ :=
  if run.status = .running then run.lockedUntil.getD 0 + 1 else run.availableAt

lemma runIsDue_dueAt (hlive : run.status.isLive = true)
    (hdeadline : run.status = .running → run.lockedUntil.isSome = true) (hnow : dueAt run ≤ now) :
    runIsDue now run = true := by
  unfold dueAt at hnow
  unfold runIsDue
  cases hstatus : run.status with
  | queued => simpa [hstatus] using hnow
  | retryScheduled => simpa [hstatus] using hnow
  | running =>
    obtain ⟨time, htime⟩ := Option.isSome_iff_exists.mp (hdeadline hstatus)
    simp only [hstatus, htime, if_true, Option.getD_some] at hnow
    simp only [htime, Option.any_some, decide_eq_true_eq]
    omega
  | succeeded => simp [hstatus, ProcessingRunStatus.isLive] at hlive
  | failed => simp [hstatus, ProcessingRunStatus.isLive] at hlive

lemma eligible_of_waits {d : Document} (hkind : run.jobType = .structuredImport)
    (hdownload : run.partitionDownloadRequestId = none)
    (hdocument : run.documentId = some documentId) (hd : db.documents.lookup documentId = some d)
    (hwaits : d.status.waits = true) (hdue : runIsDue now run = true) :
    db.eligible config now run = true := by
  have howner : db.ownerWaits config now run = true := by
    have hstatus : d.status = .pendingProcessing ∨ d.status = .processing := by
      cases hs : d.status <;> simp [hs, DocumentStatus.waits] at hwaits ⊢
    unfold ownerWaits
    simp [hkind, hdocument, hd, hstatus]
  simp [eligible, downloadOwnerWhere, hkind, hdownload, howner, hdue]

lemma claimGuard_self (heligible : db.eligible config now run = true) :
    claimGuard now run run = true := by
  simp only [eligible, Bool.and_eq_true] at heligible
  obtain ⟨⟨hdownload, -⟩, hdue⟩ := heligible
  unfold runIsDue at hdue
  cases hstatus : run.status <;> simp [hstatus] at hdue <;>
    simp [claimGuard, hdownload, hstatus, hdue]

lemma claimRun_import {batchId workerId : String} {leaseSeconds : ℕ} {d : Document}
    (hrun : db.processingRuns.lookup id = some run) (hkind : run.jobType = .structuredImport)
    (hdocument : run.documentId = some documentId) (hd : db.documents.lookup documentId = some d)
    (hwaits : d.status.waits = true) (hb : db.importBatches.lookup batchId = some b)
    (hfirst : (db.claimableBatches run documentId).head? = some (batchId, b)) :
    ∃ claimed db', claimRun db db config workerId leaseSeconds now id run = .ok (claimed, db') ∧
      claimed.id = id ∧ claimed.structuredImport.map (·.importBatchId) = some batchId := by
  have hactive : (run.documentId.bind db.documents.lookup).any (·.status = .active) = false := by
    rw [hdocument, Option.bind_some, hd, Option.any_some]
    cases hs : d.status <;> simp [hs, DocumentStatus.waits] at hwaits ⊢
  have hledger : isLedgerJob run.jobType = false := by
    rw [hkind]
    rfl
  have hreindex : ((run.documentId.bind db.documents.lookup).any (·.status = .active) &&
      config.any fun version => isEvidenceReindexJobForConfig run.jobKey version) = false := by
    rw [hactive]
    rfl
  let claimedRow := run.claimed workerId (addSeconds now leaseSeconds) now
  let documents := db.documents.update documentId fun d => { d with status := .processing }
  let batches := db.importBatches.update batchId fun b =>
    { b with status := .validating, errorCode := none, errorSummary := none }
  let db₀ : Database := { db with
    processingRuns := db.processingRuns.update id
      (·.claimed workerId (addSeconds now leaseSeconds) now) }
  have hdocumentOk : claimDocument db db₀ run false =
      .ok (documents.lookup documentId, { db₀ with documents }) := by
    unfold claimDocument
    rw [hdocument]
    dsimp only
    rw [hledger, if_neg (by simp), if_neg (by simp)]
    exact bind_eq_ok.mpr ⟨documents, updateOrThrow_eq_ok.mpr ⟨⟨d, hd⟩, rfl⟩, rfl⟩
  have hledgerOk : claimLedgerOwner { db₀ with documents } run now =
      .ok { db₀ with documents } := by
    unfold claimLedgerOwner
    rw [hkind]
    rfl
  have hpartitionOk : claimPartitionImport db { db₀ with documents } id run =
      .ok { db₀ with documents } := by
    unfold claimPartitionImport
    rw [if_neg (by simp [hkind])]
    rfl
  have hstructuredOk : claimStructuredImport db { db₀ with documents } id run =
      .ok (some ⟨batchId, b.dataset, b.startDate, b.endDate⟩,
        { db₀ with documents, importBatches := batches }) := by
    unfold claimableBatches at hfirst
    unfold claimStructuredImport
    rw [if_pos hkind, hdocument]
    dsimp only
    rw [hfirst]
    exact bind_eq_ok.mpr ⟨batches, updateOrThrow_eq_ok.mpr ⟨⟨b, hb⟩, rfl⟩, rfl⟩
  have hcurrentOk : findUniqueOrThrow db₀.processingRuns id = .ok claimedRow := by
    rw [findUniqueOrThrow_eq_ok, Table.lookup_update, if_pos rfl, hrun]
    rfl
  unfold claimRun
  dsimp only
  rw [hreindex]
  exact ⟨_, _, bind_eq_ok.mpr ⟨_, hdocumentOk, bind_eq_ok.mpr ⟨_, hledgerOk, bind_eq_ok.mpr
    ⟨_, hpartitionOk, bind_eq_ok.mpr ⟨_, hstructuredOk, bind_eq_ok.mpr ⟨_, hcurrentOk, rfl⟩⟩⟩⟩⟩,
    rfl, rfl⟩

lemma InStep.claimable (h : db.InStep) (hwaiting : db.Waiting) {k : String}
    (hb : db.importBatches.lookup k = some b) (hrun : db.RunOf id run b.sourceDocumentId)
    (hended : b.status.ended = false) : db.Claimable config id k run := by
  obtain ⟨d, hd⟩ := h.documents k b hb
  obtain ⟨-, hdownload, hdeadline, -⟩ := h.kinds id run hrun.1
  obtain ⟨horg, hkind, hagrees⟩ := h.agrees k b id run d hb hrun hd
  have hlive : run.status.isLive = true := by
    have hover := hagrees.ended
    rw [hended] at hover
    simpa using hover.symm
  have hwaits := hwaiting k b id run d hb hrun hd hlive
  refine ⟨dueAt run, fun now hnow => ?_⟩
  have heligible : db.eligible config now run = true :=
    eligible_of_waits hkind hdownload hrun.2 hd hwaits (runIsDue_dueAt hlive hdeadline hnow)
  refine ⟨heligible, fun workerId leaseSeconds hfind => ?_⟩
  -- the batch is the only one of its document
  have hfirst : (db.claimableBatches run b.sourceDocumentId).head? = some (k, b) := by
    have hmem : (k, b) ∈ db.claimableBatches run b.sourceDocumentId := by
      refine Table.mem_findMany.mpr ⟨hb, ?_⟩
      simp [horg, hagrees.claimable hlive]
    cases hlist : db.claimableBatches run b.sourceDocumentId with
    | nil =>
      rw [hlist] at hmem
      cases hmem
    | cons first rest =>
      obtain ⟨k', c⟩ := first
      have hc : (k', c) ∈ db.claimableBatches run b.sourceDocumentId := by
        rw [hlist]
        exact List.mem_cons_self
      obtain ⟨hc, hsource⟩ := Table.mem_findMany.mp hc
      simp only [Bool.and_eq_true, decide_eq_true_eq] at hsource
      obtain rfl := h.sources k' k c b hc hb hsource.1.1
      rw [hb] at hc
      cases hc
      rfl
  obtain ⟨claimed, db', hclaim, hid, hbatch⟩ : ∃ claimed db',
      claimRun db db config workerId leaseSeconds now id run = .ok (claimed, db') ∧
        claimed.id = id ∧ claimed.structuredImport.map (·.importBatchId) = some k :=
    claimRun_import hrun.1 hkind hrun.2 hd hwaits hb hfirst
  refine ⟨claimed, db', ?_, hid, hbatch⟩
  unfold claimNextProcessingRun
  rw [hfind]
  dsimp only
  rw [hrun.1]
  dsimp only
  rw [if_pos (claimGuard_self heligible), hclaim]
  rfl

end Database

open Database

variable {id : String}

namespace WindowStore

variable {s s' : WindowStore} {config : Option String}

/-! ### What holds of every claim -/

/-- Nothing was enqueued for the batch, and a request with its key and its upload is answered
with it. -/
def Resumable (s : WindowStore) (id : String) (b : ImportBatch) : Prop :=
  (∀ k run, ¬ s.db.RunOf k run b.sourceDocumentId) ∧
    ∃ keys, s.batchKeys.lookup id = some keys ∧ ∀ request : ImportRequest, keys.Carries request →
      keys.requestFingerprint = structuredImportFingerprint request →
      s.findBatchByKey request.orgId request.idempotencyKey = some (id, keys) ∧
        ∀ conflict, s.resolved request id keys conflict = .returned id .resumable

/-- The import of every claim has ended, can be resumed, or has a run that waits for a worker. -/
def Releasable (config : Option String) (s : WindowStore) : Prop :=
  ∀ key c, s.windowClaims.lookup key = some c →
    ∃ b, s.db.importBatches.lookup c.importBatchId = some b ∧
      (b.status.ended = true ∨ s.Resumable c.importBatchId b ∨
        ∃ id run, s.db.RunOf id run b.sourceDocumentId ∧
          s.db.Claimable config id c.importBatchId run)

/-- Claims have batches, batches have keys, and live runs wait. -/
structure ClaimsWait (s : WindowStore) : Prop where
  claims : ∀ key c, s.windowClaims.lookup key = some c →
    ∃ b, s.db.importBatches.lookup c.importBatchId = some b
  keyed : ∀ id b, s.db.importBatches.lookup id = some b → ∃ keys, s.batchKeys.lookup id = some keys
  waiting : s.db.Waiting

lemma AnswersKeyed.findBatchByKey (h : s.AnswersKeyed) {keys : BatchKeys}
    {request : ImportRequest} (hkeys : s.batchKeys.lookup id = some keys)
    (hcarries : keys.Carries request) :
    s.findBatchByKey request.orgId request.idempotencyKey = some (id, keys) := by
  have hmem : (id, keys) ∈ s.batchKeys.findMany fun _ keys =>
      keys.orgId = request.orgId && keys.idempotencyKey = request.idempotencyKey :=
    Table.mem_findMany.mpr ⟨hkeys, by simp [hcarries.1, hcarries.2]⟩
  cases hfound : s.findBatchByKey request.orgId request.idempotencyKey with
  | none =>
    unfold WindowStore.findBatchByKey at hfound
    rw [List.head?_eq_none_iff] at hfound
    rw [hfound] at hmem
    cases hmem
  | some found =>
    obtain ⟨id', keys'⟩ := found
    obtain ⟨hkeys', horg, hkey⟩ := findBatchByKey_some hfound
    obtain rfl : id' = id := h.oneKey id' id keys' keys hkeys' hkeys (horg.trans hcarries.1.symm)
      (hkey.trans hcarries.2.symm)
    rw [hkeys] at hkeys'
    cases hkeys'
    rfl

lemma ClaimsWait.resumable (h : s.ClaimsWait) (hanswers : s.AnswersKeyed)
    (hb : s.db.importBatches.lookup id = some b)
    (hidle : ∀ k run, ¬ s.db.RunOf k run b.sourceDocumentId) : s.Resumable id b := by
  obtain ⟨keys, hkeys⟩ := h.keyed id b hb
  refine ⟨hidle, keys, hkeys, fun request hcarries hfingerprint =>
    ⟨hanswers.findBatchByKey hkeys hcarries, fun conflict => ?_⟩⟩
  have hruns : (s.db.processingRuns.findMany fun _ run => run.documentId.isSome &&
      run.documentId = (s.db.importBatches.lookup id).map (·.sourceDocumentId) &&
        run.jobType = .structuredImport) = [] := by
    rw [List.eq_nil_iff_forall_not_mem]
    rintro ⟨k, run⟩ hmem
    obtain ⟨hrun, hfilter⟩ := Table.mem_findMany.mp hmem
    simp only [hb, Option.map_some, Bool.and_eq_true, decide_eq_true_eq] at hfilter
    exact hidle k run ⟨hrun, hfilter.1.2⟩
  unfold resolved
  rw [if_neg (not_not.mpr hfingerprint)]
  dsimp only
  rw [hruns]
  rfl

lemma ClaimsWait.releasable (h : s.ClaimsWait) (hclaims : s.ClaimsHeld)
    (hanswers : s.AnswersKeyed) : s.Releasable config := by
  intro key c hc
  obtain ⟨b, hb⟩ := h.claims key c hc
  refine ⟨b, hb, ?_⟩
  cases hended : b.status.ended with
  | true => exact .inl rfl
  | false =>
    by_cases hidle : ∀ k run, ¬ s.db.RunOf k run b.sourceDocumentId
    · exact .inr (.inl (h.resumable hanswers hb hidle))
    · push Not at hidle
      obtain ⟨id, run, hrun⟩ := hidle
      exact .inr (.inr ⟨id, run, hrun, hclaims.inStep.claimable h.waiting hb hrun hended⟩)

/-! ### Steps -/

lemma ClaimsWait.of_same (h : s.ClaimsWait) (hdb : s'.db = s.db)
    (hkeys : s'.batchKeys = s.batchKeys)
    (hclaims : ∀ key c, s'.windowClaims.lookup key = some c → s.windowClaims.lookup key = some c) :
    s'.ClaimsWait :=
  ⟨fun key c hc => hdb ▸ h.claims key c (hclaims key c hc), hdb ▸ hkeys ▸ h.keyed, hdb ▸ h.waiting⟩

lemma SameTables.waits (hsame : SameTables s s') (h : s.ClaimsWait) : s'.ClaimsWait :=
  h.of_same hsame.1 hsame.2.1 hsame.2.2

lemma ClaimsWait.createImport (h : s.ClaimsWait) (hheld : s.ClaimsHeld) {request : ImportRequest}
    {refused : Option String} (hok : s.createImport request id refused = .ok s') :
    s'.ClaimsWait := by
  obtain ⟨db, keys, hdb, -, hcreate, hclaim⟩ := createImport_ok hok
  obtain ⟨-, -, hfresh, b, -, -, -, -, -, hbatches⟩ := inStep_reserve hheld.inStep hdb
  have hkeys := Table.lookup_create hcreate
  have hcreated : ({ s.moved db with batchKeys := keys } : WindowStore).ClaimsWait := by
    refine ⟨fun key c hc => ?_, fun k b' hb' => ?_, h.waiting.reserve hheld.inStep hdb⟩
    · obtain ⟨b', hb'⟩ := h.claims key c hc
      refine ⟨b', ?_⟩
      change db.importBatches.lookup _ = some b'
      rw [hbatches, if_neg]
      · exact hb'
      · intro hid
        rw [hid, hfresh] at hb'
        cases hb'
    · change db.importBatches.lookup k = some b' at hb'
      change ∃ k', keys.lookup k = some k'
      rw [hbatches] at hb'
      rw [hkeys]
      split_ifs at hb' ⊢
      · exact ⟨_, rfl⟩
      · exact h.keyed k b' hb'
  rcases createClaim_ok hclaim with ⟨-, rfl⟩ | ⟨key, claims, -, hclaims, rfl⟩
  · exact hcreated
  · refine ⟨fun key' c hc => ?_, hcreated.keyed, hcreated.waiting⟩
    change claims.lookup key' = some c at hc
    rw [Table.lookup_create hclaims] at hc
    split_ifs at hc
    · cases hc
      exact ⟨b, (hbatches id).trans (if_pos rfl)⟩
    · exact hcreated.claims key' c hc

lemma ClaimsWait.advance (h : s.ClaimsWait) (hheld : s.ClaimsHeld) (index : ℕ) (id : String)
    (refused : Option String) : (s.advance index id refused).ClaimsWait := by
  unfold WindowStore.advance
  split
  · exact h
  rename_i r _
  split
  · split
    · exact h.of_same rfl rfl fun _ _ hc => hc
    · exact h.of_same rfl rfl fun _ _ hc => hc
  · split
    · exact h.of_same rfl rfl fun _ _ hc => hc
    · exact h.of_same rfl rfl fun _ _ hc => hc
  · exact (createsNothing_findClaim ..).1.waits h
  · exact (createsNothing_findClaimBatch ..).1.waits h
  · exact (createsNothing_findClaimDocument ..).1.waits h
  · exact (createsNothing_deleteMany ..).1.waits h
  · exact (createsNothing_deleteEnded ..).1.waits h
  · unfold WindowStore.create
    split
    · rename_i created hok
      exact (h.createImport hheld hok).of_same rfl rfl fun _ _ hc => hc
    · exact h.of_same rfl rfl fun _ _ hc => hc
    · exact h.of_same rfl rfl fun _ _ hc => hc
    · exact h.of_same rfl rfl fun _ _ hc => hc

lemma ClaimsWait.moved {db : Database} (h : s.ClaimsWait) (hkept : ImportsKept s.db db)
    (hwaiting : db.Waiting) : (s.moved db).ClaimsWait := by
  refine ⟨fun key c hc => ?_, fun id b hb => ?_, hwaiting⟩
  · obtain ⟨b, hb⟩ := h.claims key c hc
    obtain ⟨b', hb', -⟩ := hkept.batches.forth hb
    exact ⟨b', hb'⟩
  · obtain ⟨b', hb', -⟩ := hkept.batches.back hb
    exact h.keyed id b' hb'

/-- The step archives no unfinished import. -/
def Spares (s : WindowStore) (step : WindowStep) : Prop :=
  ∀ op, step = .document op → ¬ s.db.ArchivesUnfinished op

/-- **A step** that archives no unfinished import. -/
lemma ClaimsWait.step (h : s.ClaimsWait) (hheld : s.ClaimsHeld) {step : WindowStep}
    (hspares : s.Spares step) : (windowStep config s step).ClaimsWait := by
  cases step with
  | start request =>
    unfold windowStep WindowStore.start
    dsimp only
    split_ifs
    · exact h.of_same rfl rfl fun _ _ hc => hc
    · exact h.of_same rfl rfl fun _ _ hc => hc
  | advance index id refused => exact h.advance hheld index id refused
  | abandon index => exact h.of_same rfl rfl fun _ _ hc => hc
  | claim age workerId leaseSeconds now =>
    unfold windowStep
    dsimp only
    split
    · exact h
    rename_i seen hage
    have hwrites : WritesImport s.db (Database.sourceStep config s.db
        (.call (.claimNextProcessingRun seen workerId leaseSeconds now))) := by
      refine writes_call hheld.inStep fun seen' _ _ _ heq => ?_
      cases heq
      exact hheld.seen seen (List.mem_of_getElem? hage)
    exact h.moved (hwrites.kept hheld.inStep) (h.waiting.writes hheld.inStep hwrites)
  | call call =>
    unfold windowStep
    dsimp only
    split_ifs with hlease
    · exact h
    have hwrites : WritesImport s.db (Database.sourceStep config s.db (.call call)) := by
      refine writes_call hheld.inStep fun seen _ _ _ heq => ?_
      subst heq
      exact absurd rfl hlease
    exact h.moved (hwrites.kept hheld.inStep) (h.waiting.writes hheld.inStep hwrites)
  | document op =>
    cases hop : op.reserves with
    | true =>
      cases op <;> first | exact h | cases hop
    | false =>
      have hstep : windowStep config s (.document op) =
          s.moved (Database.sourceStep config s.db (.document op)) := by
        cases op <;> first | rfl | cases hop
      rw [hstep]
      exact h.moved (kept_document hheld.inStep hop)
        (h.waiting.document hheld.inStep hop (hspares op rfl))

lemma claimsWait_empty : ({} : WindowStore).ClaimsWait :=
  ⟨fun _ _ h => (nomatch h), fun _ _ h => (nomatch h), fun _ _ _ _ _ h => (nomatch h)⟩

end WindowStore

/-- **After steps that archive no unfinished import**, every window can be released. -/
theorem windows_released (config : Option String) (steps : List WindowStep)
    (hspares : Along (windowStep config) (fun s step => s.Spares step) {} steps) :
    (run (windowStep config) {} steps).Releasable config := by
  have hheld := WindowStore.claimsHeld_run config steps
  have hkept : (run (windowStep config) {} steps).ClaimsHeld ∧
      (run (windowStep config) {} steps).AnswersKeyed ∧
      (run (windowStep config) {} steps).ClaimsWait := by
    have hstep : ∀ (s : WindowStore) (step : WindowStep), s.Spares step →
        s.ClaimsHeld ∧ s.AnswersKeyed ∧ s.ClaimsWait →
          (windowStep config s step).ClaimsHeld ∧ (windowStep config s step).AnswersKeyed ∧
            (windowStep config s step).ClaimsWait := fun s step hs h =>
      ⟨h.1.step step, h.2.1.step step, h.2.2.step h.1 hs⟩
    exact run_invariant hstep hspares ⟨WindowStore.claimsHeld_empty,
      WindowStore.answersKeyed_empty, WindowStore.claimsWait_empty⟩
  exact hkept.2.2.releasable hkept.1 hkept.2.1

/-- A catalog is uploaded and enqueued. -/
def uploadedCatalog : List WindowStep :=
  [.start catalogUpload, nextStatement 0, nextStatement 0, nextStatement 0, nextStatement 0,
    .document (.enqueueReservedStructuredImport "org" "batch" "run" 1)]

theorem uploadedCatalog_released :
    (run (windowStep none) {} uploadedCatalog).Releasable none := by
  refine windows_released none uploadedCatalog ⟨?_, ?_, ?_, ?_, ?_, ?_, trivial⟩
  · exact fun _ h => nomatch h
  · exact fun _ h => nomatch h
  · exact fun _ h => nomatch h
  · exact fun _ h => nomatch h
  · exact fun _ h => nomatch h
  · rintro op h
    cases h
    exact nofun

/-- Its document is archived before a worker has claimed the run. -/
def archivedCatalog : WindowStore :=
  run (windowStep none) {}
    (uploadedCatalog ++ [.document (.archiveDocuments "org" ["document"] [] 2)])

def catalogWindow : WindowKey := ⟨"org", .dishCatalog, "2026-01-01", "2026-01-01"⟩

def catalogBatch : ImportBatch where
  orgId := "org"
  sourceDocumentId := "document"
  dataset := .dishCatalog
  startDate := some "2026-01-01"
  endDate := some "2026-01-01"

lemma archivedCatalog_run : archivedCatalog.db.processingRuns.findMany (fun _ _ => true) =
    [("run", structuredImportRun "org" "document" "batch" 1)] := by
  decide +kernel

lemma archivedCatalog_document : archivedCatalog.db.documents.lookup "document" =
    some ⟨"org", some .structured, .archived, some 2⟩ := by
  decide +kernel

lemma archivedCatalog_waits {r : ProcessingRun} (now : ℕ)
    (h : archivedCatalog.db.processingRuns.lookup id = some r) :
    archivedCatalog.db.eligible none now r = false := by
  have hmem : (id, r) ∈ archivedCatalog.db.processingRuns.findMany fun _ _ => true :=
    Table.mem_findMany.mpr ⟨h, rfl⟩
  rw [archivedCatalog_run, List.mem_singleton] at hmem
  cases hmem
  have howner : archivedCatalog.db.ownerWaits none now
      (structuredImportRun "org" "document" "batch" 1) = false := by
    unfold ownerWaits
    simp [structuredImportRun, archivedCatalog_document]
  rw [eligible, howner, Bool.and_false, Bool.false_and]

/-- **An import that is archived** before a worker has claimed it keeps its window: no worker
claims its run, and the window answers another upload that an import is in progress. -/
theorem archived_import_keeps_window :
    ¬ archivedCatalog.Releasable none ∧
      (∀ now, archivedCatalog.db.findNextRun none now = none) ∧
      (run (windowStep none) archivedCatalog
        [.start { catalogUpload with documentId := "other", idempotencyKey := "other key" },
          nextStatement 0, nextStatement 0, nextStatement 0, nextStatement 0]).answers.head? =
        some ({ catalogUpload with documentId := "other", idempotencyKey := "other key" },
          .refused "IMPORT_IN_PROGRESS") := by
  refine ⟨fun h => ?_, fun now => ?_, by decide +kernel⟩
  · have hclaim : archivedCatalog.windowClaims.lookup catalogWindow = some ⟨0, "batch"⟩ := by
      decide +kernel
    have hbatch : archivedCatalog.db.importBatches.lookup "batch" = some catalogBatch := by
      decide +kernel
    obtain ⟨b, hb, hended | ⟨hidle, -⟩ | ⟨id, r, hrun, time, hdue⟩⟩ := h _ _ hclaim
    · rw [hbatch] at hb
      cases hb
      cases hended
    · rw [hbatch] at hb
      cases hb
      have hmem : ("run", structuredImportRun "org" "document" "batch" 1) ∈
          archivedCatalog.db.processingRuns.findMany fun _ _ => true := by
        rw [archivedCatalog_run]
        exact List.mem_singleton.mpr rfl
      exact hidle _ _ ⟨(Table.mem_findMany.mp hmem).1, rfl⟩
    · have heligible := (hdue time le_rfl).1
      rw [archivedCatalog_waits time hrun.1] at heligible
      cases heligible
  · cases hfound : archivedCatalog.db.findNextRun none now with
    | none => rfl
    | some found =>
      obtain ⟨id, r⟩ := found
      obtain ⟨hrun, heligible⟩ := findNextRun_some hfound
      rw [archivedCatalog_waits now hrun] at heligible
      cases heligible

end SmeDataCenter
