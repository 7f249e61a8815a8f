import SmeDataCenter.RunMoves

/-!
# What the ledger archive keeps

The calls of workers and the operations on imports, documents and downloads leave the archive as
it is, but for the statuses and error codes they write and the revisions they count: no
generation is requested or published, and no pointer to an object moves.
-/

namespace SmeDataCenter

open Runs
open Table (Keeps)

/-- The later row of a partition has the generations and the object of the earlier one. -/
structure LedgerPdfPartition.Kept (p p' : LedgerPdfPartition) : Prop where
  requested : p'.requestedGeneration = p.requestedGeneration
  published : p'.publishedGeneration = p.publishedGeneration
  revision : p'.publishedDataRevision = p.publishedDataRevision
  object : p'.currentObjectKey = p.currentObjectKey
  changes : p.dataRevision ≤ p'.dataRevision

namespace LedgerPdfPartition.Kept

variable {p p' p'' : LedgerPdfPartition}

lemma refl (p : LedgerPdfPartition) : p.Kept p := ⟨rfl, rfl, rfl, rfl, Nat.le_refl _⟩

lemma trans (h : p.Kept p') (h' : p'.Kept p'') : p.Kept p'' :=
  ⟨h'.requested.trans h.requested, h'.published.trans h.published, h'.revision.trans h.revision,
    h'.object.trans h.object, Nat.le_trans h.changes h'.changes⟩

end LedgerPdfPartition.Kept

/-- The later row of a partition publishes the same, and its counters are not behind. -/
structure LedgerPdfPartition.Advanced (p p' : LedgerPdfPartition) : Prop where
  requested : p.requestedGeneration ≤ p'.requestedGeneration
  published : p'.publishedGeneration = p.publishedGeneration
  revision : p'.publishedDataRevision = p.publishedDataRevision
  object : p'.currentObjectKey = p.currentObjectKey
  changes : p.dataRevision ≤ p'.dataRevision

namespace LedgerPdfPartition

variable {p p' p'' : LedgerPdfPartition}

lemma Kept.advanced (h : p.Kept p') : p.Advanced p' :=
  ⟨h.requested.ge, h.published, h.revision, h.object, h.changes⟩

lemma Advanced.refl (p : LedgerPdfPartition) : p.Advanced p := (Kept.refl p).advanced

lemma Advanced.trans (h : p.Advanced p') (h' : p'.Advanced p'') : p.Advanced p'' :=
  ⟨Nat.le_trans h.requested h'.requested, h'.published.trans h.published,
    h'.revision.trans h.revision, h'.object.trans h.object, Nat.le_trans h.changes h'.changes⟩

end LedgerPdfPartition

namespace Database

/-- The archive is as it was, but for statuses, error codes and counted changes. -/
structure LedgerKept (db db' : Database) : Prop where
  partitions : ∀ key, (db.partitionRow key).Kept (db'.partitionRow key)
  items : Keeps LedgerArtifactRequestItem.target db.ledgerArtifactRequestItems
    db'.ledgerArtifactRequestItems
  requests : Keeps LedgerArtifactRequest.facts db.ledgerArtifactRequests
    db'.ledgerArtifactRequests

section

variable {config : Option String} {db db' db'' : Database}

namespace LedgerKept

lemma of_eq (hpartitions : db'.ledgerPdfPartitions = db.ledgerPdfPartitions)
    (hitems : db'.ledgerArtifactRequestItems = db.ledgerArtifactRequestItems)
    (hrequests : db'.ledgerArtifactRequests = db.ledgerArtifactRequests) : LedgerKept db db' := by
  refine ⟨fun key => ?_, ?_, ?_⟩
  · rw [partitionRow, partitionRow, hpartitions]
    exact .refl _
  · rw [hitems]
    exact .refl _ _
  · rw [hrequests]
    exact .refl _ _

lemma of_rows (h : db'.ledgerRows = db.ledgerRows) : LedgerKept db db' := by
  simp only [ledgerRows, Prod.mk.injEq] at h
  exact of_eq h.1 h.2.1 h.2.2

lemma refl (db : Database) : LedgerKept db db := of_eq rfl rfl rfl

lemma trans (h : LedgerKept db db') (h' : LedgerKept db' db'') : LedgerKept db db'' :=
  ⟨fun key => (h.partitions key).trans (h'.partitions key), h.items.trans h'.items,
    h.requests.trans h'.requests⟩

lemma of_same (h : LedgerKept db' db'')
    (hpartitions : db'.ledgerPdfPartitions = db.ledgerPdfPartitions)
    (hitems : db'.ledgerArtifactRequestItems = db.ledgerArtifactRequestItems)
    (hrequests : db'.ledgerArtifactRequests = db.ledgerArtifactRequests) : LedgerKept db db'' :=
  (of_eq hpartitions hitems hrequests).trans h

end LedgerKept

lemma partitionRow_kept_of_eq (h : db'.ledgerPdfPartitions = db.ledgerPdfPartitions)
    (key : LedgerPartitionKey) : (db.partitionRow key).Kept (db'.partitionRow key) := by
  rw [partitionRow, partitionRow, h]
  exact .refl _

lemma ledgerKept_markLedgerPartitionsChanged (keys : List LedgerPartitionKey) :
    LedgerKept db (db.markLedgerPartitionsChanged keys) := by
  obtain ⟨partitions, heq, hlookup⟩ := db.markLedgerPartitionsChanged_eq keys
  rw [heq]
  refine ⟨fun key => ?_, .refl _ _, .refl _ _⟩
  have hrow : ({ db with
      ledgerPdfPartitions := partitions } : Database).partitionRow key =
      if key ∈ keys then changedPartition (db.partitionRow key) else db.partitionRow key := by
    rw [partitionRow, hlookup]
    split_ifs
    · rfl
    · rfl
  rw [hrow]
  split_ifs
  · exact ⟨rfl, rfl, rfl, rfl, Nat.le_succ _⟩
  · exact .refl _

lemma FailWrites.ledgerKept {run : ProcessingRun} {input : FailProcessingRunInput} {now : ℕ}
    (h : FailWrites db run input now db') : LedgerKept db db' := by
  refine ⟨fun key => ?_, h.items, h.requests⟩
  rcases h.ledgerPartitions with heq | ⟨itemId, item, -, -, heq⟩
  · exact partitionRow_kept_of_eq heq key
  · rw [partitionRow, partitionRow, heq, Table.lookup_updateMany]
    cases db.ledgerPdfPartitions.lookup key with
    | none => exact .refl _
    | some p =>
      simp only [Option.map_some, Option.getD_some]
      split_ifs
      · exact ⟨rfl, rfl, rfl, rfl, Nat.le_refl _⟩
      · exact .refl _

lemma ledgerKept_perform (hdb : db.UniqueRuns) (call : Call) :
    LedgerKept db (perform config db call).2 := by
  -- a leased write that throws keeps everything
  have hleased : ∀ {result : Except WorkerError Database},
      (∀ db', result = .ok db' → LedgerKept db db') → LedgerKept db (replyTo db result).2 := by
    intro result hok
    cases result with
    | error e => exact .refl _
    | ok db' => exact hok db' rfl
  cases call with
  | claimNextProcessingRun seen workerId seconds now =>
    unfold perform
    dsimp only
    cases hclaim : claimNextProcessingRun seen db config workerId seconds now with
    | error e => exact .refl _
    | ok result =>
      obtain ⟨claimed, db'⟩ := result
      rcases claimNextProcessingRun_ok hclaim with ⟨rfl, rfl⟩ |
        ⟨found, run, r, rfl, -, -, -, -, -, -, hwrites⟩
      · exact .refl _
      · exact ⟨partitionRow_kept_of_eq hwrites.ledgerPartitions, hwrites.items, hwrites.requests⟩
  | heartbeatProcessingRun lease seconds now =>
    refine hleased fun db' hok => ?_
    obtain ⟨-, rfl⟩ := heartbeatProcessingRun_ok hok
    exact .of_eq rfl rfl rfl
  | completePartitionProcessing lease now =>
    refine hleased fun db' hok => ?_
    obtain ⟨-, rfl⟩ := completePartitionProcessing_ok hok
    exact .of_eq rfl rfl rfl
  | completeEvidenceIndexing lease documentId activation now =>
    refine hleased fun db' hok => ?_
    obtain ⟨-, -, rfl⟩ := completeEvidenceIndexing_ok hok
    exact .of_eq rfl rfl rfl
  | beginStructuredImportApply lease documentId importBatchId now =>
    refine hleased fun db' hok => ?_
    obtain ⟨-, -, rfl⟩ := beginStructuredImportApply_ok hok
    exact .of_eq rfl rfl rfl
  | completeStructuredImport lease documentId importBatchId persistence partitions now =>
    refine hleased fun db' hok => ?_
    obtain ⟨-, -, -, keys, rfl⟩ := completeStructuredImport_ok hok
    exact .of_same (ledgerKept_markLedgerPartitionsChanged keys) rfl rfl rfl
  | rejectStructuredImport lease documentId importBatchId now =>
    refine hleased fun db' hok => ?_
    obtain ⟨-, -, rfl⟩ := rejectStructuredImport_ok hok
    exact .of_eq rfl rfl rfl
  | finishJob lease input now =>
    refine hleased fun db' hok => ?_
    obtain ⟨-, rfl⟩ := finishJob_ok hok
    exact .of_eq rfl rfl rfl
  | publishSourceAtomically lease input refused transition now =>
    refine hleased fun db' hok => ?_
    obtain ⟨-, job, partitions, garbage, queue, n, -, -, -, -, rfl, -⟩ :=
      publishSourceAtomically_ok hok
    exact .of_eq rfl rfl rfl
  | failProcessingRun lease input now =>
    unfold perform
    dsimp only
    cases hfail : db.failProcessingRun lease input now with
    | mk error db' =>
      have hkept : LedgerKept db db' := by
        rcases failProcessingRun_cases hdb hfail with ⟨-, rfl⟩ | ⟨run, -, -, -, hwrites⟩ |
          ⟨-, -, downloads, queue, n, hrest⟩
        · exact .refl _
        · exact hwrites.ledgerKept
        · exact .of_eq (by rw [hrest]) (by rw [hrest]) (by rw [hrest])
      cases error with
      | none => exact hkept
      | some e => exact hkept

lemma ledgerKept_terminate (requestId : String) (row : PartitionDownloadRequest)
    (status : PartitionDownloadStatus) (code : String) (now : ℕ) :
    LedgerKept db (db.terminate requestId row status code now) := by
  obtain ⟨downloads, queue, n, heq⟩ := db.terminate_eq now requestId row status code
  rw [heq]
  exact .of_eq rfl rfl rfl

lemma ledgerKept_createRun {id : String} {run : ProcessingRun}
    (h : db.createRun id run = .ok db') : LedgerKept db db' := by
  obtain ⟨-, -, runs, rfl, -⟩ := createRun_ok h
  exact .of_eq rfl rfl rfl

lemma ledgerKept_ofWrites (new : RunOwner → Prop) : OfWrites new LedgerKept where
  refl := .refl
  trans := .trans
  beside _ hledger := .of_rows hledger
  created _ := ledgerKept_createRun
  leased _ _ _ hledger := .of_rows hledger
  terminated _ := ledgerKept_terminate
  deleted _ _ _ := .of_eq rfl rfl rfl
  changed _ := ledgerKept_markLedgerPartitionsChanged

/-! ### Requests -/

/-- What the bundle of a request points to, and until when. -/
def bundleOf (db : Database) (requestId : String) : Option ObjectKey × Option ℕ :=
  ((db.ledgerArtifactRequests.lookup requestId).bind (·.zipObjectKey),
    (db.ledgerArtifactRequests.lookup requestId).bind (·.zipExpiresAt))

/-- Generations are requested at most, and no pointer to an object moves. -/
structure LedgerAdvanced (db db' : Database) : Prop where
  partitions : ∀ key, (db.partitionRow key).Advanced (db'.partitionRow key)
  bundles : ∀ id, db'.bundleOf id = db.bundleOf id

namespace LedgerAdvanced

lemma refl (db : Database) : LedgerAdvanced db db := ⟨fun _ => .refl _, fun _ => rfl⟩

lemma trans (h : LedgerAdvanced db db') (h' : LedgerAdvanced db' db'') : LedgerAdvanced db db'' :=
  ⟨fun key => (h.partitions key).trans (h'.partitions key),
    fun id => (h'.bundles id).trans (h.bundles id)⟩

lemma of_partitions (hpartitions : ∀ key, (db.partitionRow key).Advanced (db'.partitionRow key))
    (hrequests : db'.ledgerArtifactRequests = db.ledgerArtifactRequests) :
    LedgerAdvanced db db' :=
  ⟨hpartitions, fun id => by rw [bundleOf, bundleOf, hrequests]⟩

lemma of_eq (hpartitions : db'.ledgerPdfPartitions = db.ledgerPdfPartitions)
    (hrequests : db'.ledgerArtifactRequests = db.ledgerArtifactRequests) :
    LedgerAdvanced db db' :=
  of_partitions (fun key => (partitionRow_kept_of_eq hpartitions key).advanced) hrequests

end LedgerAdvanced

lemma bundleOf_of_keeps (h : Keeps LedgerArtifactRequest.pointer db.ledgerArtifactRequests
    db'.ledgerArtifactRequests) (id : String) : db'.bundleOf id = db.bundleOf id := by
  unfold bundleOf
  cases hrow : db'.ledgerArtifactRequests.lookup id with
  | none =>
    have hkeep := h id
    rw [hrow, Option.map_none, eq_comm, Option.map_eq_none_iff] at hkeep
    rw [hkeep]
  | some request =>
    obtain ⟨old, hold, hpointer⟩ := h.back hrow
    simp only [LedgerArtifactRequest.pointer, Prod.mk.injEq] at hpointer
    rw [hold, Option.bind_some, Option.bind_some, Option.bind_some, Option.bind_some,
      hpointer.2.1, hpointer.2.2]

lemma LedgerKept.advanced (h : LedgerKept db db') : LedgerAdvanced db db' :=
  ⟨fun key => (h.partitions key).advanced, bundleOf_of_keeps (Keeps.pointer h.requests)⟩

lemma advanced_lockPartition (key : LedgerPartitionKey) :
    LedgerAdvanced db (db.lockPartition key) := by
  obtain ⟨partitions, heq, hlookup⟩ := db.lockPartition_eq key
  rw [heq]
  refine .of_partitions (fun k => ?_) rfl
  have hrow : ({ db with
      ledgerPdfPartitions := partitions } : Database).partitionRow k = db.partitionRow k := by
    rw [partitionRow, hlookup]
    split_ifs with hk
    · rw [hk]
      rfl
    · rfl
  rw [hrow]
  exact .refl _

lemma advanced_requestGeneration (key : LedgerPartitionKey) :
    LedgerAdvanced db (db.requestGeneration key) := by
  obtain ⟨partitions, heq, hlookup⟩ := db.requestGeneration_eq key
  rw [heq]
  refine .of_partitions (fun k => ?_) rfl
  rw [partitionRow, partitionRow, hlookup]
  split_ifs with hk
  · rw [hk]
    exact ⟨Nat.le_succ _, rfl, rfl, rfl, Nat.le_refl _⟩
  · exact .refl _

lemma advanced_createRequest {requestId : String} {request : LedgerArtifactRequest}
    (hnew : request.unbundled) (h : db.createRequest requestId request = .ok db') :
    LedgerAdvanced db db' := by
  obtain ⟨requests, hcreate, rfl⟩ := createRequest_ok h
  refine ⟨fun key => (partitionRow_kept_of_eq rfl key).advanced, fun id => ?_⟩
  unfold bundleOf
  dsimp only
  rw [Table.lookup_create hcreate]
  split_ifs with hid
  · rw [hid, Table.create_fresh hcreate, Option.bind_some, Option.bind_some, hnew.1, hnew.2]
    rfl
  · rfl

lemma advanced_ofRequests (new : RunOwner → Prop) (paged : String → Prop) :
    OfRequests new paged LedgerAdvanced where
  refl := .refl
  trans := .trans
  beside _ hledger := (LedgerKept.of_rows hledger).advanced
  created _ hrun := (ledgerKept_createRun hrun).advanced
  leased _ _ _ hledger := (LedgerKept.of_rows hledger).advanced
  terminated db id row status code now := (ledgerKept_terminate id row status code now).advanced
  deleted db before limit := .of_eq rfl rfl
  changed _ keys := (ledgerKept_markLedgerPartitionsChanged keys).advanced
  locked _ := advanced_lockPartition
  requested _ := advanced_requestGeneration
  request := advanced_createRequest
  item _ h := by
    obtain ⟨partition, item, items, -, -, -, -, hrun⟩ := enqueuePartition_ok h
    refine .trans ?_ (ledgerKept_createRun hrun).advanced
    exact .of_eq rfl rfl
  page _ _ _ := ⟨fun key => (partitionRow_kept_of_eq rfl key).advanced,
    bundleOf_of_keeps (.update fun _ => rfl)⟩

end

end Database
end SmeDataCenter
