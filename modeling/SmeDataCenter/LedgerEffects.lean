import SmeDataCenter.OperationEffects

/-!
# What the operations of the ledger archive write

For each operation on requests, bundles and publications of the archive, what it has found when
it goes through, and the database it leaves behind.
-/

namespace SmeDataCenter

open Runs
open Table (Keeps)

/-- A request that points to no bundle. -/
def LedgerArtifactRequest.unbundled (request : LedgerArtifactRequest) : Prop :=
  request.zipObjectKey = none ∧ request.zipExpiresAt = none

section

variable {κ : Type} [DecidableEq κ] {t t' : Table κ LedgerArtifactRequest}

lemma Table.Keeps.pointer (h : Keeps LedgerArtifactRequest.facts t t') :
    Keeps LedgerArtifactRequest.pointer t t' :=
  Table.Keeps.coarsen h (fun facts => (facts.1.2.1, facts.2.2)) fun _ => rfl

end

namespace Database

variable {db db' : Database} {now : ℕ}

/-! ### Partitions -/

/-- The row of a partition, or the one it would be created with. -/
def partitionRow (db : Database) (key : LedgerPartitionKey) : LedgerPdfPartition :=
  (db.ledgerPdfPartitions.lookup key).getD {}

lemma partitionRow_of_lookup {key : LedgerPartitionKey} {p : LedgerPdfPartition}
    (h : db.ledgerPdfPartitions.lookup key = some p) : db.partitionRow key = p := by
  rw [partitionRow, h]
  rfl

lemma lockPartition_eq (db : Database) (key : LedgerPartitionKey) :
    ∃ partitions, db.lockPartition key = { db with
        ledgerPdfPartitions := partitions } ∧
      ∀ k, partitions.lookup k =
        if k = key then some (db.partitionRow key) else db.ledgerPdfPartitions.lookup k := by
  unfold lockPartition partitionRow
  cases hrow : db.ledgerPdfPartitions.lookup key with
  | none => exact ⟨_, rfl, fun k => Table.lookup_insert' ..⟩
  | some p =>
    refine ⟨_, rfl, fun k => ?_⟩
    split_ifs with hk
    · rw [hk, hrow]
      rfl
    · rfl

lemma requestGeneration_eq (db : Database) (key : LedgerPartitionKey) :
    ∃ partitions, db.requestGeneration key = { db with
        ledgerPdfPartitions := partitions } ∧
      ∀ k, partitions.lookup k =
        if k = key then some { db.partitionRow key with
          requestedGeneration := (db.partitionRow key).requestedGeneration + 1 }
        else db.ledgerPdfPartitions.lookup k := by
  obtain ⟨partitions, hlock, hlookup⟩ := db.lockPartition_eq key
  refine ⟨_, by unfold requestGeneration; rw [hlock], fun k => ?_⟩
  rw [Table.lookup_update, hlookup, if_pos rfl, hlookup]
  by_cases hk : k = key
  · rw [if_pos hk, if_pos hk]
    rfl
  · rw [if_neg hk, if_neg hk, if_neg hk]

lemma lookup_markPartitionChanged (partitions : Table LedgerPartitionKey LedgerPdfPartition)
    (key k : LedgerPartitionKey) :
    (markPartitionChanged partitions key).lookup k =
      if k = key then some (changedPartition ((partitions.lookup key).getD {}))
      else partitions.lookup k := by
  unfold markPartitionChanged
  cases hrow : partitions.lookup key with
  | none => exact Table.lookup_insert' ..
  | some p =>
    rw [Table.lookup_update, hrow]
    rfl

lemma markLedgerPartitionsChanged_eq (db : Database) (keys : List LedgerPartitionKey) :
    ∃ partitions, db.markLedgerPartitionsChanged keys = { db with
        ledgerPdfPartitions := partitions } ∧
      ∀ k, partitions.lookup k =
        if k ∈ keys then some (changedPartition (db.partitionRow k))
        else db.ledgerPdfPartitions.lookup k := by
  refine ⟨_, rfl, fun k => ?_⟩
  have hfold : ∀ (keys : List LedgerPartitionKey) (partitions : Table _ LedgerPdfPartition),
      keys.Nodup → (keys.foldl markPartitionChanged partitions).lookup k =
        if k ∈ keys then some (changedPartition ((partitions.lookup k).getD {}))
        else partitions.lookup k := by
    intro keys
    induction keys with
    | nil => simp
    | cons key keys ih =>
      intro partitions hnodup
      obtain ⟨hkey, hkeys⟩ := List.nodup_cons.mp hnodup
      rw [List.foldl_cons, ih _ hkeys, lookup_markPartitionChanged]
      by_cases hk : k = key
      · subst hk
        rw [if_neg hkey, if_pos rfl, if_pos List.mem_cons_self]
      · simp only [List.mem_cons, hk, false_or, if_false]
  rw [hfold _ _ keys.nodup_dedup]
  simp only [List.mem_dedup, partitionRow]

/-! ### Requests -/

variable {orgId : String} {ids : RefreshIds}

variable {requestId : String}

lemma enqueuePartition_ok {actor : LedgerActor} {key : LedgerPartitionKey}
    (h : enqueuePartition orgId actor requestId ids now db key = .ok db') :
    ∃ partition item items, db.ledgerPdfPartitions.lookup key = some partition ∧
      item.partitionId = key ∧ item.generation = partition.requestedGeneration ∧
      db.ledgerArtifactRequestItems.create (ids.item key) item = some items ∧
      ({ db with
        ledgerArtifactRequestItems := items } : Database).createRun (ids.run key)
          (ledgerPdfRun orgId (ids.item key) actor key partition.requestedGeneration now) =
            .ok db' := by
  unfold enqueuePartition at h
  obtain ⟨partition, hpartition, h⟩ := bind_eq_ok.mp h
  split_ifs at h
  obtain ⟨items, hitems, h⟩ := bind_eq_ok.mp h
  exact ⟨partition, _, items, findUniqueOrThrow_eq_ok.mp hpartition, rfl, rfl,
    createOrThrow_eq_ok.mp hitems, h⟩

lemma createRequest_ok {request : LedgerArtifactRequest}
    (h : db.createRequest requestId request = .ok db') :
    ∃ requests, db.ledgerArtifactRequests.create requestId request = some requests ∧
      db' = { db with
        ledgerArtifactRequests := requests } := by
  unfold createRequest at h
  split_ifs at h
  obtain ⟨requests, hrequests, h⟩ := bind_eq_ok.mp h
  cases h
  exact ⟨requests, createOrThrow_eq_ok.mp hrequests, rfl⟩

variable {refused : Option String}

lemma beginInternalRefresh_ok {input : BeginLedgerInternalRefreshInput}
    {state : LedgerInternalRefreshState}
    (h : db.beginInternalRefresh input requestId refused = .ok (state, db')) :
    db' = db ∨ ∃ request : LedgerArtifactRequest, request.unbundled ∧
      db.createRequest requestId request = .ok db' := by
  unfold beginInternalRefresh at h
  split at h
  · cases h
  · obtain ⟨_, -, h⟩ := bind_eq_ok.mp h
    obtain ⟨_, -, h⟩ := bind_eq_ok.mp h
    cases h
    exact .inl rfl
  · obtain ⟨db₁, hcreate, h⟩ := bind_eq_ok.mp h
    obtain ⟨_, -, h⟩ := bind_eq_ok.mp h
    cases h
    exact .inr ⟨_, ⟨rfl, rfl⟩, hcreate⟩

/-- The partitions of a page, those that are new to the request with a generation more. -/
def pagePartitions (db : Database) (keys fresh : List LedgerPartitionKey) : Database :=
  keys.foldl (fun db key =>
    if fresh.contains key then db.requestGeneration key else db.lockPartition key) db

/-- The row of an internal refresh that has turned to the next page. -/
def turnedPage (nextCursor : Option String) (status : LedgerArtifactRequestStatus)
    (request : LedgerArtifactRequest) : LedgerArtifactRequest :=
  { request with internalScope := some ⟨nextCursor, nextCursor.isNone⟩, status }

lemma appendInternalRefreshPage_ok {input : AppendInternalRefreshPageInput}
    {state : LedgerInternalRefreshState}
    (h : db.appendInternalRefreshPage input ids refused now = .ok (state, db')) :
    db' = db ∨ ∃ actor fresh db₁ status, fresh ⊆ input.keys.dedup ∧ fresh.Nodup ∧
      (db.pagePartitions input.keys.dedup fresh).enqueuePartitions input.orgId actor
        input.requestId ids fresh now = .ok db₁ ∧
      db' = { db₁ with
        ledgerArtifactRequests := db₁.ledgerArtifactRequests.update input.requestId
          (turnedPage input.nextCursor status) } := by
  unfold appendInternalRefreshPage at h
  split at h
  · cases h
  split at h
  · cases h
  split at h
  · cases h
  · cases h
  rename_i request hrequest
  obtain ⟨state, -, h⟩ := bind_eq_ok.mp h
  split at h
  · cases h
    exact .inl rfl
  right
  obtain ⟨db₁, henqueue, h⟩ := bind_eq_ok.mp h
  cases h
  exact ⟨request.actor, _, db₁, _, List.filter_subset_self _, input.keys.nodup_dedup.filter _,
    henqueue, rfl⟩

lemma requestRefresh_ok {input : ReserveLedgerRefreshInput} {keys : List LedgerPartitionKey}
    {answer : Option LedgerRequestRef}
    (h : db.requestRefresh input ids keys now = .ok (answer, db')) :
    ∃ request db₁, request.unbundled ∧
      (keys.foldl requestGeneration db).createRequest ids.request request = .ok db₁ ∧
      db₁.enqueuePartitions input.orgId input.actor ids.request ids keys now = .ok db' := by
  unfold requestRefresh at h
  obtain ⟨db₁, hcreate, h⟩ := bind_eq_ok.mp h
  obtain ⟨db₂, henqueue, h⟩ := bind_eq_ok.mp h
  cases h
  exact ⟨_, db₁, ⟨rfl, rfl⟩, hcreate, henqueue⟩

/-- A refresh changes nothing, locks a partition, or requests the next generation of distinct
partitions. -/
lemma reserveRefresh_ok {input : ReserveLedgerRefreshInput} {fingerprint : String}
    {answer : Option LedgerRequestRef}
    (h : db.reserveRefresh input ids refused fingerprint now = .ok (answer, db')) :
    db' = db ∨ (∃ key, db' = db.lockPartition key) ∨
      (∃ keys, keys.Nodup ∧ db.requestRefresh input ids keys now = .ok (answer, db')) ∨
      ∃ key, (db.lockPartition key).requestRefresh input ids [key] now = .ok (answer, db') := by
  unfold reserveRefresh at h
  split at h
  · cases h
  split at h
  · cases h
  split at h
  · obtain ⟨_, -, h⟩ := bind_eq_ok.mp h
    cases h
    exact .inl rfl
  split at h
  · exact .inr (.inr (.inl ⟨_, input.keys.nodup_dedup, h⟩))
  split at h
  · rename_i key _
    obtain ⟨settled, -, h⟩ := bind_eq_ok.mp h
    split at h
    · cases h
      exact .inr (.inl ⟨key, rfl⟩)
    · exact .inr (.inr (.inr ⟨key, h⟩))
  · cases h

variable {runId : String}

lemma reserveBundle_ok {input : ReserveBundleInput} {answer : LedgerRequestRef}
    (h : db.reserveBundle input requestId runId refused now = .ok (answer, db')) :
    db' = db ∨ ∃ request db₁, request.unbundled ∧ db.createRequest requestId request = .ok db₁ ∧
      db₁.createRun runId (ledgerBundleRun input.orgId requestId now) = .ok db' := by
  unfold reserveBundle at h
  split at h
  · obtain ⟨_, -, h⟩ := bind_eq_ok.mp h
    cases h
    exact .inl rfl
  split at h
  · cases h
  obtain ⟨db₁, hcreate, h⟩ := bind_eq_ok.mp h
  obtain ⟨db₂, hrun, h⟩ := bind_eq_ok.mp h
  cases h
  exact .inr ⟨_, db₁, ⟨rfl, rfl⟩, hcreate, hrun⟩

lemma scheduleReconciliation_ok {scheduleDate reconciliationId : String}
    (h : db.scheduleReconciliation orgId scheduleDate reconciliationId runId now = .ok db') :
    ∃ reconciliations,
      db' = { db with
        ledgerPdfReconciliationRuns := reconciliations } ∨
      ∃ id, ({ db with
        ledgerPdfReconciliationRuns := reconciliations } : Database).createRun runId
          (reconciliationRun orgId id now) = .ok db' := by
  unfold scheduleReconciliation at h
  obtain ⟨⟨⟨id, run⟩, db₁⟩, hfind, h⟩ := bind_eq_ok.mp h
  have hdb₁ : ∃ reconciliations, db₁ = { db with
      ledgerPdfReconciliationRuns := reconciliations } := by
    unfold findReconciliation at hfind
    dsimp only at hfind
    split at hfind
    · cases hfind
      exact ⟨_, rfl⟩
    · obtain ⟨reconciliations, -, hfind⟩ := bind_eq_ok.mp hfind
      cases hfind
      exact ⟨_, rfl⟩
  obtain ⟨reconciliations, rfl⟩ := hdb₁
  refine ⟨reconciliations, ?_⟩
  dsimp only at h
  split at h
  · exact .inr ⟨id, h⟩
  · cases h
    exact .inl rfl

/-- The row of a run whose reconciliation has come to the end of a page. -/
def checkpointRun (completed failed : Bool) (now : ℕ) (run : ProcessingRun) : ProcessingRun :=
  { run with
    status := if completed then .succeeded else .queued, availableAt := now
    lockedBy := none, lockedUntil := none, lastHeartbeatAt := none
    finishedAt := if completed then some now else none
    errorCode := if failed then some "LEDGER_RECONCILIATION_CHECK_FAILED" else none
    errorSummary := if failed then some "One or more ledger metadata checks failed." else none }

variable {lease : Lease}

lemma checkpoint_ok {reconciliationId : String} {completed failed : Bool}
    (h : db.checkpoint orgId reconciliationId lease completed failed now = .ok db') :
    db.Leased lease now ∧ ∃ reconciliations, db' = { db with
      ledgerPdfReconciliationRuns := reconciliations
      processingRuns := db.processingRuns.update lease.runId
        (checkpointRun completed failed now) } := by
  unfold checkpoint at h
  split at h
  · rename_i hleased
    obtain ⟨reconciliations, -, h⟩ := bind_eq_ok.mp h
    cases h
    unfold observationLeased at hleased
    obtain ⟨run, hrun, hmatch⟩ := Option.any_eq_true _ _ |>.mp hleased
    simp only [Bool.and_eq_true] at hmatch
    exact ⟨⟨run, hrun, hmatch.2⟩, reconciliations, rfl⟩
  · cases h

/-! ### Publications -/

variable {token : Lease}

lemma lockLease_ok {run : ProcessingRun} (h : db.lockLease token orgId now = .ok run) :
    db.processingRuns.lookup token.runId = some run ∧ leaseMatches token now run = true := by
  unfold lockLease at h
  split at h
  · rename_i run' hrun
    cases h
    rw [Option.filter_eq_some_iff, Bool.and_eq_true] at hrun
    exact ⟨hrun.1, hrun.2.2⟩
  · cases h

lemma registerCandidate_ok {objectKey : ObjectKey}
    (h : db.registerCandidate orgId token objectKey now = .ok db') :
    db.Leased token now ∧
      db' = db.enqueueStorageGarbage objectKey "ledger_upload_candidate" now
        (some token.runId) := by
  unfold registerCandidate at h
  obtain ⟨run, hlock, h⟩ := bind_eq_ok.mp h
  cases h
  exact ⟨⟨run, lockLease_ok hlock⟩, rfl⟩

lemma succeedLeased_ok (h : db.succeedLeased token now = .ok db') :
    db.Leased token now ∧ db' = { db with
      processingRuns := db.processingRuns.update token.runId (succeed now) } := by
  unfold succeedLeased at h
  split at h
  · cases h
  rename_i run hrun
  split_ifs at h with hmatch
  cases h
  exact ⟨⟨run, hrun, hmatch⟩, rfl⟩

lemma takeCandidate_ok {candidate : Option LedgerPdfCandidate} {certificateCount : ℕ}
    (h : db.takeCandidate runId candidate certificateCount = .ok db') :
    (candidate = none ∧ db' = db) ∨ ∃ c garbage, candidate = some c ∧
      db.storageGarbage.lookup c.objectKey = some garbage ∧
      garbage.processingRunId = some runId ∧ db' = { db with
        storageGarbage := db.storageGarbage.deleteMany fun _ g => g.id = garbage.id } := by
  unfold takeCandidate at h
  split at h
  · cases h
    exact .inl ⟨rfl, rfl⟩
  rename_i c
  split at h
  · cases h
  rename_i garbage hgarbage
  split_ifs at h
  cases h
  rw [Option.filter_eq_some_iff] at hgarbage
  exact .inr ⟨c, garbage, rfl, hgarbage.1, by simpa using hgarbage.2, rfl⟩

lemma enqueueReplaced_eq (db : Database) (partition : LedgerPdfPartition)
    (candidate : Option LedgerPdfCandidate) (now : ℕ) :
    ∃ queue n, db.enqueueReplaced partition candidate now = { db with
      storageGarbage := queue
      nextGarbageId := n } := by
  unfold enqueueReplaced
  split
  · split_ifs
    · exact ⟨_, _, rfl⟩
    · exact db.enqueueStorageGarbage_eq _ _ _ _
  · exact ⟨_, _, rfl⟩

lemma publishPartition_ok {input : PublishLedgerPdfInput} {partition : LedgerPdfPartition}
    {sourcesCurrent : Bool} {productLevel : Option ℕ}
    (h : db.publishPartition input partition sourcesCurrent refused productLevel now = .ok db') :
    partition.dataRevision = input.dataRevision ∧ ∃ db₁,
      (db.enqueueReplaced partition input.candidate now).takeCandidate input.leaseToken.runId
        input.candidate input.certificateCount = .ok db₁ ∧ db' = { db₁ with
        ledgerPdfPartitions := db₁.ledgerPdfPartitions.update input.partitionId
          (publishedPartition input productLevel now) } := by
  unfold publishPartition at h
  split at h
  · cases h
  rename_i hrevision
  split at h
  · cases h
  obtain ⟨db₁, htake, h⟩ := bind_eq_ok.mp h
  split at h
  · cases h
  cases h
  exact ⟨not_not.mp hrevision, db₁, htake, rfl⟩

/-- What a publication that goes through has found: the run of the lease, the generation it is
for, and the row of its partition. -/
structure PublicationFound (db : Database) (input : PublishLedgerPdfInput) (now finishedAt : ℕ)
    (itemId : String) (partition : LedgerPdfPartition) : Prop where
  run : ∃ run, db.processingRuns.lookup input.leaseToken.runId = some run ∧
    leaseMatches input.leaseToken now run = true ∧
    leaseMatches input.leaseToken finishedAt run = true ∧
    run.ledgerArtifactRequestItemId = some itemId ∧ run.jobType = .ledgerPdfGenerate
  item : ∃ item, db.ledgerArtifactRequestItems.lookup itemId = some item ∧
    item.partitionId = input.partitionId ∧ item.generation = input.generation
  partition : db.ledgerPdfPartitions.lookup input.partitionId = some partition

/-- The row of an item that has ended. -/
def endedItem (superseded : Bool) (input : PublishLedgerPdfInput)
    (item : LedgerArtifactRequestItem) : LedgerArtifactRequestItem :=
  { item with
    status := publicationItemStatus superseded input.candidate
    dataRevision := input.dataRevision, errorCode := none }

/-- What a publication writes besides the partition and the queue. -/
def EndsGeneration (db : Database) (input : PublishLedgerPdfInput) (itemId : String)
    (superseded : Bool) (finishedAt : ℕ) (db' : Database) : Prop :=
  ∃ requests, Keeps LedgerArtifactRequest.facts db.ledgerArtifactRequests requests ∧
    db' = { db with
      processingRuns := db.processingRuns.update input.leaseToken.runId (succeed finishedAt)
      ledgerArtifactRequestItems :=
        db.ledgerArtifactRequestItems.update itemId (endedItem superseded input)
      ledgerArtifactRequests := requests }

/-- **What a publication does**: a superseded generation ends its run and its item; the one that
is requested also becomes the published one, from the revision that is current. -/
lemma publishLedgerPdf_ok {input : PublishLedgerPdfInput} {sourcesCurrent : Bool}
    {productLevel : Option ℕ} {finishedAt : ℕ} {status : LedgerPublicationStatus}
    (h : db.publishLedgerPdf input sourcesCurrent refused productLevel now finishedAt =
      .ok (status, db')) :
    ∃ itemId partition, db.PublicationFound input now finishedAt itemId partition ∧
      ((status = .superseded ∧ partition.requestedGeneration ≠ input.generation ∧
          db.EndsGeneration input itemId true finishedAt db') ∨
        (status = .published ∧ partition.requestedGeneration = input.generation ∧
          ∃ db₁, db.publishPartition input partition sourcesCurrent refused productLevel now =
              .ok db₁ ∧ db₁.EndsGeneration input itemId false finishedAt db')) := by
  unfold publishLedgerPdf at h
  obtain ⟨preliminary, -, h⟩ := bind_eq_ok.mp h
  obtain ⟨run, hlock, h⟩ := bind_eq_ok.mp h
  obtain ⟨hrun, hmatch⟩ := lockLease_ok hlock
  split at h
  · cases h
  rename_i itemId hitemId
  split at h
  · cases h
  rename_i htype
  obtain ⟨item, hitem, h⟩ := bind_eq_ok.mp h
  split at h
  · cases h
  split at h
  · cases h
  rename_i hitemOf
  obtain ⟨partition, hpartition, h⟩ := bind_eq_ok.mp h
  split at h
  · cases h
  rw [findUniqueOrThrow_eq_ok] at hitem hpartition
  obtain ⟨hpartitionOf, hgeneration⟩ := not_or.mp hitemOf
  -- both kinds of publication end the run and the item in the same way
  have hends : ∀ {db₁ db₂ : Database} (superseded : Bool),
      db₁.processingRuns = db.processingRuns →
      db₁.succeedLeased input.leaseToken finishedAt = .ok db₂ →
      (do
        let ledgerArtifactRequestItems ← updateOrThrow db₂.ledgerArtifactRequestItems itemId
          (endedItem superseded input)
        let db ← ({ db₂ with ledgerArtifactRequestItems } :
          Database).updateLedgerRefreshRequestStatus run.orgId item.requestId
        pure ((if superseded then LedgerPublicationStatus.superseded else .published), db)) =
          Except.ok (status, db') →
      status = (if superseded then .superseded else .published) ∧
        leaseMatches input.leaseToken finishedAt run = true ∧
        db₁.EndsGeneration input itemId superseded finishedAt db' := by
    intro db₁ db₂ superseded hruns hsucceed hrest
    obtain ⟨⟨run', hrun', hmatch'⟩, rfl⟩ := succeedLeased_ok hsucceed
    obtain ⟨items, hitems, hrest⟩ := bind_eq_ok.mp hrest
    obtain ⟨db₃, hstatus, hrest⟩ := bind_eq_ok.mp hrest
    cases hrest
    obtain ⟨-, rfl⟩ := updateOrThrow_eq_ok.mp hitems
    obtain ⟨requests, rfl, hrequests⟩ := updateLedgerRefreshRequestStatus_ok hstatus
    rw [hruns, hrun] at hrun'
    cases hrun'
    exact ⟨rfl, hmatch', requests, hrequests, rfl⟩
  refine ⟨itemId, partition, ?_⟩
  by_cases hsuperseded : partition.requestedGeneration = input.generation
  · simp only [hsuperseded, ne_eq, not_true_eq_false, decide_false, Bool.false_eq_true,
      if_false] at h
    obtain ⟨db₁, hpublish, h⟩ := bind_eq_ok.mp h
    obtain ⟨db₂, hsucceed, h⟩ := bind_eq_ok.mp h
    obtain ⟨-, db₀, htake, hdb₁⟩ := publishPartition_ok hpublish
    have hruns : db₁.processingRuns = db.processingRuns := by
      obtain ⟨queue, n, hreplaced⟩ := db.enqueueReplaced_eq partition input.candidate now
      rw [hreplaced] at htake
      rcases takeCandidate_ok htake with ⟨-, rfl⟩ | ⟨c, garbage, -, -, -, rfl⟩
      · rw [hdb₁]
      · rw [hdb₁]
    obtain ⟨hstatus, hmatch', hend⟩ := hends false hruns hsucceed h
    exact ⟨⟨⟨run, hrun, hmatch, hmatch', hitemId, not_not.mp htype⟩,
      ⟨item, hitem, not_not.mp hpartitionOf, not_not.mp hgeneration⟩, hpartition⟩,
      .inr ⟨hstatus, hsuperseded, db₁, hpublish, hend⟩⟩
  · simp only [hsuperseded, ne_eq, not_false_eq_true, decide_true, if_true] at h
    obtain ⟨db₁, hok, h⟩ := bind_eq_ok.mp h
    cases hok
    obtain ⟨db₂, hsucceed, h⟩ := bind_eq_ok.mp h
    obtain ⟨hstatus, hmatch', hend⟩ := hends true rfl hsucceed h
    exact ⟨⟨⟨run, hrun, hmatch, hmatch', hitemId, not_not.mp htype⟩,
      ⟨item, hitem, not_not.mp hpartitionOf, not_not.mp hgeneration⟩, hpartition⟩,
      .inl ⟨hstatus, hsuperseded, hend⟩⟩

/-! ### Bundles -/

/-- The lease is that of a bundle of the request. -/
def BundleLeased (db : Database) (lease : Lease) (requestId : String) (now : ℕ) : Prop :=
  ∃ run, db.processingRuns.lookup lease.runId = some run ∧
    run.ledgerArtifactRequestId = some requestId ∧ run.jobType = .ledgerPdfBundle ∧
    leaseMatches lease now run = true

lemma bundleLeased_of_fenced (h : db.bundleFenced lease requestId now = true) :
    db.BundleLeased lease requestId now := by
  unfold bundleFenced at h
  obtain ⟨run, hrun, hmatch⟩ := Option.any_eq_true _ _ |>.mp h
  simp only [Bool.and_eq_true, decide_eq_true_eq] at hmatch
  exact ⟨run, hrun, hmatch.1.1, hmatch.1.2, hmatch.2⟩

variable {ok : Bool}

lemma registerBundleCandidate_ok {key : ObjectKey}
    (h : db.registerBundleCandidate requestId lease key now = .ok (ok, db')) :
    (ok = false ∧ db' = db) ∨ (ok = true ∧ db.BundleLeased lease requestId now ∧ ∃ requests,
      Keeps LedgerArtifactRequest.facts db.ledgerArtifactRequests requests ∧
      db' = { db.enqueueStorageGarbage key "ledger_bundle_candidate" now (some lease.runId) with
        ledgerArtifactRequests := requests }) := by
  unfold registerBundleCandidate at h
  split at h
  · rename_i hfenced
    obtain ⟨requests, hrequests, h⟩ := bind_eq_ok.mp h
    cases h
    obtain ⟨queue, n, hqueue⟩ := db.enqueueStorageGarbage_eq key "ledger_bundle_candidate" now
      (some lease.runId)
    refine .inr ⟨rfl, bundleLeased_of_fenced hfenced, requests, ?_, rfl⟩
    rw [(updateOrThrow_eq_ok.mp hrequests).2, hqueue]
    exact .update fun _ => rfl
  · cases h
    exact .inl ⟨rfl, rfl⟩

/-- The row of a request whose bundle is complete. -/
def completedBundle (key : ObjectKey) (expiresAt : ℕ) (request : LedgerArtifactRequest) :
    LedgerArtifactRequest :=
  { request with
    status := .succeeded, zipObjectKey := some key, zipExpiresAt := some expiresAt
    errorCode := none }

lemma completeBundle_ok {key : ObjectKey} {current : Bool} {expiresAt finishedAt : ℕ}
    (h : db.completeBundle requestId lease key current expiresAt now finishedAt = .ok (ok, db')) :
    (ok = false ∧ db' = db) ∨ (ok = true ∧ db.BundleLeased lease requestId now ∧
      db' = { (({ db with
          ledgerArtifactRequests := db.ledgerArtifactRequests.update requestId
            (completedBundle key expiresAt)
          storageGarbage := db.storageGarbage.deleteMany fun k _ => k = key } :
            Database).enqueueStorageGarbage key "ledger_bundle_expired" expiresAt none) with
        processingRuns := db.processingRuns.update lease.runId (succeedBundle finishedAt) }) := by
  unfold completeBundle at h
  split at h
  · rename_i hfenced
    rw [Bool.and_eq_true, Bool.and_eq_true] at hfenced
    obtain ⟨requests, hrequests, h⟩ := bind_eq_ok.mp h
    cases h
    obtain ⟨-, rfl⟩ := updateOrThrow_eq_ok.mp hrequests
    exact .inr ⟨rfl, bundleLeased_of_fenced hfenced.1.1, rfl⟩
  · cases h
    exact .inl ⟨rfl, rfl⟩

lemma failBundle_ok {code : String} (h : db.failBundle requestId lease code now = .ok (ok, db')) :
    (ok = false ∧ db' = db) ∨ (ok = true ∧ db.BundleLeased lease requestId now ∧ ∃ requests,
      Keeps LedgerArtifactRequest.facts db.ledgerArtifactRequests requests ∧
      db' = { db with
        ledgerArtifactRequests := requests
        processingRuns := db.processingRuns.update lease.runId (failBundleRun code now) }) := by
  unfold failBundle at h
  split at h
  · rename_i hfenced
    obtain ⟨requests, hrequests, h⟩ := bind_eq_ok.mp h
    cases h
    refine .inr ⟨rfl, bundleLeased_of_fenced hfenced, requests, ?_, rfl⟩
    rw [(updateOrThrow_eq_ok.mp hrequests).2]
    exact .update fun _ => rfl
  · cases h
    exact .inl ⟨rfl, rfl⟩

lemma enqueueExpiredBundle_eq (db : Database) (expired : String × LedgerArtifactRequest)
    (now : ℕ) :
    ∃ requests queue n, db.enqueueExpiredBundle now expired = { db with
      ledgerArtifactRequests := requests
      storageGarbage := queue
      nextGarbageId := n } := by
  unfold enqueueExpiredBundle
  split
  · exact ⟨_, _, _, rfl⟩
  · exact ⟨_, _, _, rfl⟩

lemma enqueueExpiredLedgerBundles_eq (db : Database) (now : ℕ) :
    ∃ requests queue n, db.enqueueExpiredLedgerBundles now = { db with
      ledgerArtifactRequests := requests
      storageGarbage := queue
      nextGarbageId := n } := by
  have hfold : ∀ (expired : List (String × LedgerArtifactRequest)) (db : Database),
      ∃ requests queue n, expired.foldl (enqueueExpiredBundle now) db = { db with
        ledgerArtifactRequests := requests
        storageGarbage := queue
        nextGarbageId := n } := by
    intro expired
    induction expired with
    | nil => exact fun db => ⟨_, _, _, rfl⟩
    | cons e expired ih =>
      intro db
      obtain ⟨requests, queue, n, h⟩ := db.enqueueExpiredBundle_eq e now
      obtain ⟨requests', queue', n', h'⟩ := ih (enqueueExpiredBundle now db e)
      rw [List.foldl_cons, h', h]
      exact ⟨_, _, _, rfl⟩
  exact hfold _ db

end Database
end SmeDataCenter
