import SmeDataCenter.LedgerItems

/-!
# Repairs of a reconciliation

A check of a reconciliation observes a partition and its sources, asks the object store for the
object, and reserves a refresh if the partition needs one. The reservation compares what was
observed with what is there, under the lock of the organization and under the lease of the
reconciliation, which it checks again at each step: `clock i` is what the clock reads at the
`i`-th check. Whatever fails on the way rolls everything back.
-/

namespace SmeDataCenter

open Runs

/-- What the object store says of an object. -/
inductive LedgerHead where
  | found (size : ℕ) (hash : Option String)
  | notFound

/-- What is read of the sources of a partition. -/
structure ObservedSources where
  rowCount : ℕ
  sourceFingerprint : String

def ledgerNeedsRepair (partition : Option LedgerPdfPartition) (source : ObservedSources)
    (head : Option LedgerHead) : Bool :=
  match partition with
  | none => 0 < source.rowCount
  | some partition =>
    if partition.errorCode.any (· ≠ "") ||
        partition.publishedDataRevision ≠ some partition.dataRevision ||
        partition.publishedSourceFingerprint ≠ some source.sourceFingerprint then true
    else if source.rowCount = 0 then
      partition.currentObjectKey.isSome || partition.rowCount ≠ some 0
    else if partition.currentObjectKey.isNone || partition.byteSize.isNone ||
        !partition.checksumSha256.any (· ≠ "") then true
    else match head with
      | none => false
      | some .notFound => true
      | some (.found size hash) => partition.byteSize ≠ some size || hash ≠ partition.checksumSha256

/-- The check of a partition: what it is of, and what it has observed. -/
structure LedgerCheck where
  reconciliationId : String
  key : LedgerPartitionKey
  lease : Lease
  partition : Option LedgerPdfPartition
  source : ObservedSources
  head : Option LedgerHead

def LedgerCheck.needsRepair (check : LedgerCheck) : Bool :=
  ledgerNeedsRepair check.partition check.source check.head

/-- A partition that is not there is observed as one that has just been created. -/
def LedgerCheck.observation (check : LedgerCheck) : LedgerReconciliationObservation :=
  let partition := check.partition.getD {}
  { dataRevision := partition.dataRevision
    requestedGeneration := partition.requestedGeneration
    publishedGeneration := partition.publishedGeneration
    publishedDataRevision := partition.publishedDataRevision
    publishedSourceFingerprint := partition.publishedSourceFingerprint
    currentObjectKey := partition.currentObjectKey
    checksumSha256 := partition.checksumSha256
    byteSize := partition.byteSize
    errorCode := partition.errorCode
    rowCount := partition.rowCount
    sourceFingerprint := check.source.sourceFingerprint
    needsRepair := check.needsRepair
    lease := check.lease }

/-- The two hashes of a repair: of the partition for its idempotency key, and of the request for
its fingerprint. -/
structure RepairHashes where
  key : String → String → String
  request : LedgerPartitionKey → LedgerActor → String

def RepairHashes.idempotencyKey (hashes : RepairHashes) (reconciliationId : String)
    (key : LedgerPartitionKey) : String :=
  "reconcile:" ++ reconciliationId ++ ":" ++ hashes.key key.storeName key.purchaseDate

/-- What `reserveRepair` asks the archive for. -/
def LedgerCheck.input (hashes : RepairHashes) (check : LedgerCheck) :
    ReserveLedgerRefreshInput where
  orgId := check.key.orgId
  actor := .systemReconciler check.reconciliationId
  idempotencyKey := hashes.idempotencyKey check.reconciliationId check.key
  requestFingerprint := hashes.request check.key (.systemReconciler check.reconciliationId)
  keys := [check.key]
  onlyIfNeeded := true
  reconciliationObservation := some check.observation

namespace Database

/-! ### The reservation -/

def assertObservationLease (db : Database) (input : ReserveLedgerRefreshInput) (now : ℕ) :
    Except WorkerError Unit :=
  match db.observationError input now with
  | some code => .error (.thrown code)
  | none => .ok ()

/-- The item of the request is recorded as a target of the reconciliation. -/
def trackTarget (db : Database) (input : ReserveLedgerRefreshInput) (requestId : String)
    (key : LedgerPartitionKey) (before after : ℕ) : Except WorkerError Unit := do
  db.assertObservationLease input before
  if (db.itemsFor requestId key).isEmpty then throw (.thrown "P2025")
  else db.assertObservationLease input after

/-- The partition is created and locked, and nothing of it has changed since it was observed. -/
def observedPartition (db : Database) (observation : LedgerReconciliationObservation)
    (sourceFingerprint : String) (key : LedgerPartitionKey) :
    Except WorkerError LedgerPdfPartition := do
  let current ← findUniqueOrThrow db.ledgerPdfPartitions key
  if !observes observation current || sourceFingerprint ≠ observation.sourceFingerprint then
    throw (.thrown "LEDGER_OBSERVATION_STALE")
  else return current

/-- `reserveRefresh` for the observation of a check. -/
def reserveObservedRefresh (db : Database) (input : ReserveLedgerRefreshInput)
    (observation : LedgerReconciliationObservation) (ids : RefreshIds) (refused : Option String)
    (sourceFingerprint : String) (clock : ℕ → ℕ) :
    Except WorkerError (Option LedgerRequestRef × Database) :=
  match input.keys.any (·.orgId ≠ input.orgId), refused with
  | true, _ => .error (.thrown "LEDGER_ORG_MISMATCH")
  | false, some code => .error (.thrown code)
  | false, none => do
    db.assertObservationLease input (clock 0)
    let existing := db.findRequest input.orgId input.idempotencyKey
    match input.keys.dedup with
    | [key] => do
      let db := db.lockPartition key
      let current ← db.observedPartition observation sourceFingerprint key
      db.assertObservationLease input (clock 1)
      match existing, db.inflightItem input.orgId key current with
      | some (existingId, request), _ => do
        db.trackTarget input existingId key (clock 2) (clock 3)
        let answer ← matchingRequest existingId request input.requestFingerprint
        return (some answer, db)
      | none, some (_, item) => do
        db.trackTarget input item.requestId key (clock 2) (clock 3)
        let request ← findUniqueOrThrow db.ledgerArtifactRequests item.requestId
        return (some ⟨item.requestId, request.status⟩, db)
      | none, none =>
        if !observation.needsRepair then return (none, db)
        else do
          db.assertObservationLease input (clock 2)
          let (answer, db) ← db.requestRefresh input ids [key] (clock 2)
          db.trackTarget input ids.request key (clock 3) (clock 4)
          db.assertObservationLease input (clock 5)
          return (answer, db)
    | _ => .error (.thrown "LEDGER_PARTITION_KEY_INVALID")

/-- The database after a check has reserved what it needs. `sourceFingerprint` is that of the
sources as they are. -/
def reserveRepair (db : Database) (hashes : RepairHashes) (check : LedgerCheck) (ids : RefreshIds)
    (refused : Option String) (sourceFingerprint : String) (clock : ℕ → ℕ) :
    Except WorkerError (Option LedgerRequestRef × Database) :=
  db.reserveObservedRefresh (check.input hashes) check.observation ids refused sourceFingerprint
    clock

/-! ### What is reserved -/

variable {answer : Option LedgerRequestRef}

section

variable {db db' : Database} {input : ReserveLedgerRefreshInput} {key : LedgerPartitionKey}

lemma assertObservationLease_ok {now : ℕ} {u : Unit} :
    db.assertObservationLease input now = .ok u ↔ db.observationError input now = none := by
  unfold assertObservationLease
  cases db.observationError input now with
  | none => simp
  | some code => simp

lemma trackTarget_ok {requestId : String} {before after : ℕ} {u : Unit}
    (h : db.trackTarget input requestId key before after = .ok u) :
    db.observationError input before = none ∧ (db.itemsFor requestId key).isEmpty = false ∧
      db.observationError input after = none := by
  unfold trackTarget at h
  obtain ⟨_, hbefore, h⟩ := bind_eq_ok.mp h
  split at h
  · cases h
  · rename_i hitems
    exact ⟨assertObservationLease_ok.mp hbefore, by simpa using hitems,
      assertObservationLease_ok.mp h⟩

/-- No request, item or run is created, and no generation is requested. -/
structure NothingReserved (db db' : Database) : Prop where
  requests : db'.ledgerArtifactRequests = db.ledgerArtifactRequests
  items : db'.ledgerArtifactRequestItems = db.ledgerArtifactRequestItems
  runs : db'.processingRuns = db.processingRuns
  generations : ∀ k, (db'.partitionRow k).requestedGeneration =
    (db.partitionRow k).requestedGeneration

/-- One request is created, and the next generation of the partition is requested. -/
structure Reserved (db db' : Database) (requestId : String) (key : LedgerPartitionKey) :
    Prop where
  fresh : db.ledgerArtifactRequests.lookup requestId = none
  created : ∃ request, ∀ id, db'.ledgerArtifactRequests.lookup id =
    if id = requestId then some request else db.ledgerArtifactRequests.lookup id
  generations : ∀ k, (db'.partitionRow k).requestedGeneration =
    (db.partitionRow k).requestedGeneration + if k = key then 1 else 0

lemma NothingReserved.refl (db : Database) : NothingReserved db db :=
  ⟨rfl, rfl, rfl, fun _ => rfl⟩

lemma nothingReserved_lockPartition (key : LedgerPartitionKey) :
    NothingReserved db (db.lockPartition key) := by
  obtain ⟨partitions, heq, -⟩ := db.lockPartition_eq key
  refine ⟨by rw [heq], by rw [heq], by rw [heq], fun k => ?_⟩
  rw [lockPartition_kept]

lemma requestRefresh_one {ids : RefreshIds} {now : ℕ}
    (h : db.requestRefresh input ids [key] now = .ok (answer, db')) :
    Reserved db db' ids.request key ∧
      (∃ request, db'.ledgerArtifactRequests.lookup ids.request = some request ∧
        request.orgId = input.orgId ∧ request.idempotencyKey = input.idempotencyKey) ∧
      ∀ id run, db.processingRuns.lookup id = some run →
        db'.processingRuns.lookup id = some run := by
  unfold requestRefresh at h
  obtain ⟨db₁, hcreate, h⟩ := bind_eq_ok.mp h
  obtain ⟨db₂, henqueue, h⟩ := bind_eq_ok.mp h
  cases h
  obtain ⟨requests, hrequests, rfl⟩ := createRequest_ok hcreate
  obtain ⟨db₃, hone, hnil⟩ := bind_eq_ok.mp henqueue
  cases hnil
  obtain ⟨partition, item, items, -, -, -, -, hrun⟩ := enqueuePartition_ok hone
  obtain ⟨hfresh, -, runs, rfl, hruns⟩ := createRun_ok hrun
  have hgeneration : ([key].foldl requestGeneration db) = db.requestGeneration key := rfl
  obtain ⟨partitions, heq, -⟩ := db.requestGeneration_eq key
  have hlookup := Table.lookup_create hrequests
  have hnew := Table.create_fresh hrequests
  rw [hgeneration, heq] at hlookup hnew
  refine ⟨⟨hnew, ⟨_, hlookup⟩, fun k => ?_⟩,
    ⟨_, (hlookup ids.request).trans (if_pos rfl), rfl, rfl⟩, fun id run hold => ?_⟩
  · have hrow : ∀ k, ((db.requestGeneration key).partitionRow k).requestedGeneration =
        (db.partitionRow k).requestedGeneration + if k = key then 1 else 0 := by
      intro k
      rw [requestGeneration_row]
      split_ifs
      · rfl
      · rfl
    exact hrow k
  · have hsame : (db.requestGeneration key).processingRuns = db.processingRuns := by rw [heq]
    rw [hgeneration] at hfresh hruns
    dsimp only at hfresh hruns ⊢
    rw [hsame] at hfresh hruns
    rw [hruns]
    split_ifs with hid
    · rw [hid, hfresh] at hold
      cases hold
    · exact hold

/-- What a reservation has found when it goes through: the lease is held, and nothing has changed
since the observation. If it reserves anything, there is no request of the check yet, nothing is
under way for the generation that is current, a repair is needed, and the lease is held to the
end. -/
lemma reserveObservedRefresh_ok {observation : LedgerReconciliationObservation} {ids : RefreshIds}
    {refused : Option String} {fingerprint : String} {clock : ℕ → ℕ}
    (h : db.reserveObservedRefresh input observation ids refused fingerprint clock =
      .ok (answer, db')) :
    db.observationError input (clock 0) = none ∧ ∃ key, input.keys.dedup = [key] ∧
      observes observation (db.partitionRow key) = true ∧
      fingerprint = observation.sourceFingerprint ∧
      (db.lockPartition key).observationError input (clock 1) = none ∧
      (db' = db.lockPartition key ∨
        (db.findRequest input.orgId input.idempotencyKey = none ∧
          (db.lockPartition key).inflightItem input.orgId key (db.partitionRow key) = none ∧
          observation.needsRepair = true ∧
          (db.lockPartition key).observationError input (clock 2) = none ∧
          (db.lockPartition key).requestRefresh input ids [key] (clock 2) = .ok (answer, db') ∧
          ∀ i ∈ [3, 4, 5], db'.observationError input (clock i) = none)) := by
  unfold reserveObservedRefresh at h
  split at h
  · cases h
  · cases h
  obtain ⟨_, hfirst, h⟩ := bind_eq_ok.mp h
  refine ⟨assertObservationLease_ok.mp hfirst, ?_⟩
  dsimp only at h
  split at h
  swap
  · cases h
  rename_i key hkeys
  obtain ⟨current, hcurrent, h⟩ := bind_eq_ok.mp h
  obtain ⟨_, hsecond, h⟩ := bind_eq_ok.mp h
  unfold observedPartition at hcurrent
  obtain ⟨row, hrow, hcurrent⟩ := bind_eq_ok.mp hcurrent
  split at hcurrent
  · cases hcurrent
  rename_i hsame
  cases hcurrent
  have hcurrent : current = db.partitionRow key := by
    rw [← lockPartition_kept key key, partitionRow_of_lookup (findUniqueOrThrow_eq_ok.mp hrow)]
  subst hcurrent
  simp only [Bool.or_eq_true, Bool.not_eq_true', decide_eq_true_eq, not_or, Bool.not_eq_false,
    not_not] at hsame
  refine ⟨key, hkeys, hsame.1, hsame.2, assertObservationLease_ok.mp hsecond, ?_⟩
  split at h
  · obtain ⟨_, -, h⟩ := bind_eq_ok.mp h
    obtain ⟨_, -, h⟩ := bind_eq_ok.mp h
    cases h
    exact .inl rfl
  · obtain ⟨_, -, h⟩ := bind_eq_ok.mp h
    obtain ⟨_, -, h⟩ := bind_eq_ok.mp h
    cases h
    exact .inl rfl
  rename_i hexisting hinflight
  split at h
  · cases h
    exact .inl rfl
  rename_i hneeds
  obtain ⟨_, hthird, h⟩ := bind_eq_ok.mp h
  obtain ⟨⟨reply, db₁⟩, hrequest, h⟩ := bind_eq_ok.mp h
  obtain ⟨_, htrack, h⟩ := bind_eq_ok.mp h
  obtain ⟨_, hlast, h⟩ := bind_eq_ok.mp h
  cases h
  obtain ⟨hbefore, -, hafter⟩ := trackTarget_ok htrack
  refine .inr ⟨hexisting, hinflight, by simpa using hneeds, assertObservationLease_ok.mp hthird,
    hrequest, ?_⟩
  rintro i hi
  simp only [List.mem_cons, List.not_mem_nil, or_false] at hi
  rcases hi with rfl | rfl | rfl
  · exact hbefore
  · exact hafter
  · exact assertObservationLease_ok.mp hlast

lemma observationError_lockPartition (key : LedgerPartitionKey) (now : ℕ) :
    (db.lockPartition key).observationError input now = db.observationError input now := by
  obtain ⟨partitions, heq, -⟩ := db.lockPartition_eq key
  rw [heq]
  rfl

section

variable {observation : LedgerReconciliationObservation} {ids : RefreshIds} {fingerprint : String}
  {current : LedgerPdfPartition} {now : ℕ}

lemma reserveRefresh_observed {x : Option (Option LedgerRequestRef)}
    (horg : (input.keys.any (·.orgId ≠ input.orgId)) = false) (hkeys : input.keys.dedup = [key])
    (hobservation : input.reconciliationObservation = some observation)
    (hneeded : input.onlyIfNeeded = true) (hnow : db.observationError input now = none)
    (hsettled : (db.lockPartition key).settledRefresh input
      (db.findRequest input.orgId input.idempotencyKey) fingerprint key = .ok x) :
    (∀ answer, x = some answer → db.reserveRefresh input ids none fingerprint now =
        .ok (answer, db.lockPartition key)) ∧
      (x = none → db.reserveRefresh input ids none fingerprint now =
        (db.lockPartition key).requestRefresh input ids [key] now) := by
  unfold reserveRefresh
  rw [horg, hnow, hobservation, hneeded, hkeys]
  cases hfound : db.findRequest input.orgId input.idempotencyKey
  all_goals
    rw [hfound] at hsettled
    refine ⟨fun answer hanswer => ?_, fun hnone => ?_⟩
    · subst hanswer
      change (_ >>= _) = _
      rw [hsettled]
      rfl
    · subst hnone
      change (_ >>= _) = _
      rw [hsettled]
      rfl

lemma settledRefresh_existing {existingId : String} {request : LedgerArtifactRequest}
    {answer : LedgerRequestRef} (hrow : findUniqueOrThrow db.ledgerPdfPartitions key = .ok current)
    (hobservation : input.reconciliationObservation = some observation)
    (hobserves : observes observation current = true)
    (hfingerprint : fingerprint = observation.sourceFingerprint)
    (hitems : (db.itemsFor existingId key).isEmpty = false)
    (hmatch : matchingRequest existingId request input.requestFingerprint = .ok answer) :
    db.settledRefresh input (some (existingId, request)) fingerprint key =
      .ok (some (some answer)) := by
  unfold settledRefresh
  rw [hrow, hobservation]
  simp [bind, Except.bind, Except.map, pure, Except.pure, hobserves, hfingerprint, hitems, hmatch]

lemma settledRefresh_new (hrow : findUniqueOrThrow db.ledgerPdfPartitions key = .ok current)
    (hobservation : input.reconciliationObservation = some observation)
    (hobserves : observes observation current = true)
    (hfingerprint : fingerprint = observation.sourceFingerprint) :
    (∀ id item request, db.inflightItem input.orgId key current = some (id, item) →
        findUniqueOrThrow db.ledgerArtifactRequests item.requestId = .ok request →
        db.settledRefresh input none fingerprint key =
          .ok (some (some ⟨item.requestId, request.status⟩))) ∧
      (db.inflightItem input.orgId key current = none →
        db.settledRefresh input none fingerprint key =
          .ok (if !observation.needsRepair then some none else none)) := by
  unfold settledRefresh
  rw [hrow, hobservation]
  constructor
  · intro id item request hinflight hrequest
    simp [bind, Except.bind, pure, Except.pure, hobserves, hfingerprint, hinflight, hrequest]
  · intro hinflight
    simp [bind, Except.bind, pure, Except.pure, hobserves, hfingerprint, hinflight]

end

/-- A reservation that goes through with the lease checked at each step goes through with the
lease checked once, at one of these moments. -/
theorem reserveObservedRefresh_refines {observation : LedgerReconciliationObservation}
    {ids : RefreshIds} {refused : Option String} {fingerprint : String} {clock : ℕ → ℕ}
    (hobservation : input.reconciliationObservation = some observation)
    (hneeded : input.onlyIfNeeded = true)
    (h : db.reserveObservedRefresh input observation ids refused fingerprint clock =
      .ok (answer, db')) :
    ∃ now, db.reserveRefresh input ids refused fingerprint now = .ok (answer, db') := by
  unfold reserveObservedRefresh at h
  split at h
  · cases h
  · cases h
  rename_i horg
  obtain ⟨_, hfirst, h⟩ := bind_eq_ok.mp h
  dsimp only at h
  split at h
  swap
  · cases h
  rename_i key hkeys
  obtain ⟨current, hcurrent, h⟩ := bind_eq_ok.mp h
  obtain ⟨_, hsecond, h⟩ := bind_eq_ok.mp h
  unfold observedPartition at hcurrent
  obtain ⟨row, hrow, hcurrent⟩ := bind_eq_ok.mp hcurrent
  split at hcurrent
  · cases hcurrent
  rename_i hsame
  cases hcurrent
  simp only [Bool.or_eq_true, Bool.not_eq_true', decide_eq_true_eq, not_or, Bool.not_eq_false,
    not_not] at hsame
  obtain ⟨hobserves, hfingerprint⟩ := hsame
  have hnow := assertObservationLease_ok.mp hfirst
  split at h
  · -- the request of the check is there
    rename_i existingId request hexisting
    obtain ⟨_, htrack, h⟩ := bind_eq_ok.mp h
    obtain ⟨answer, hmatch, h⟩ := bind_eq_ok.mp h
    cases h
    obtain ⟨-, hitems, -⟩ := trackTarget_ok htrack
    refine ⟨clock 0, (reserveRefresh_observed horg hkeys hobservation hneeded hnow ?_).1 _ rfl⟩
    rw [hexisting]
    exact settledRefresh_existing hrow hobservation hobserves hfingerprint hitems hmatch
  · -- something is under way
    rename_i id item hexisting hinflight
    obtain ⟨_, -, h⟩ := bind_eq_ok.mp h
    obtain ⟨request, hrequest, h⟩ := bind_eq_ok.mp h
    cases h
    refine ⟨clock 0, (reserveRefresh_observed horg hkeys hobservation hneeded hnow ?_).1 _ rfl⟩
    rw [hexisting]
    exact (settledRefresh_new hrow hobservation hobserves hfingerprint).1 id item request
      hinflight hrequest
  rename_i hexisting hinflight
  have hsettled := (settledRefresh_new hrow hobservation hobserves hfingerprint).2 hinflight
  rw [← hexisting] at hsettled
  split at h
  · -- no repair is needed
    rename_i hneeds
    cases h
    rw [if_pos hneeds] at hsettled
    exact ⟨clock 0, (reserveRefresh_observed horg hkeys hobservation hneeded hnow hsettled).1 _ rfl⟩
  rename_i hneeds
  obtain ⟨_, hthird, h⟩ := bind_eq_ok.mp h
  obtain ⟨⟨reply, db₁⟩, hrequest, h⟩ := bind_eq_ok.mp h
  obtain ⟨_, htrack, h⟩ := bind_eq_ok.mp h
  obtain ⟨_, hlast, h⟩ := bind_eq_ok.mp h
  cases h
  rw [if_neg hneeds] at hsettled
  have hlater : db.observationError input (clock 2) = none := by
    rw [← observationError_lockPartition key]
    exact assertObservationLease_ok.mp hthird
  refine ⟨clock 2, ?_⟩
  rw [(reserveRefresh_observed horg hkeys hobservation hneeded hlater hsettled).2 rfl]
  exact hrequest

/-! ### The checks of a reconciliation -/

variable {hashes : RepairHashes} {check : LedgerCheck} {ids : RefreshIds} {refused : Option String}
  {fingerprint : String} {clock : ℕ → ℕ} {now : ℕ}

/-- The lease under which a check is made is held. -/
def leasedBy (db : Database) (check : LedgerCheck) (now : ℕ) : Bool :=
  db.observationLeased check.key.orgId check.reconciliationId check.lease now

lemma observationError_check :
    db.observationError (check.input hashes) now = none ↔ db.leasedBy check now = true := by
  unfold observationError leasedBy LedgerCheck.input
  simp only [Bool.not_true, Bool.false_eq_true, if_false, LedgerCheck.observation]
  split_ifs with hleased
  · simp [hleased]
  · simp [hleased]

lemma leasedBy_of_run {run : ProcessingRun}
    (hrun : db.processingRuns.lookup check.lease.runId = some run)
    (hrun' : db'.processingRuns.lookup check.lease.runId = some run) :
    db'.leasedBy check now = db.leasedBy check now := by
  unfold leasedBy observationLeased
  rw [hrun, hrun']

lemma leasedBy_lockPartition (key : LedgerPartitionKey) :
    (db.lockPartition key).leasedBy check now = db.leasedBy check now := by
  obtain ⟨partitions, heq, -⟩ := db.lockPartition_eq key
  rw [heq]
  rfl

/-- The partition and its sources are as the check has observed them. -/
def current (db : Database) (check : LedgerCheck) (fingerprint : String) : Bool :=
  observes check.observation (db.partitionRow check.key) &&
    fingerprint = check.source.sourceFingerprint

/-- A generation is under way for the revision of the partition that is current. -/
def inflight (db : Database) (check : LedgerCheck) : Bool :=
  (db.inflightItem check.key.orgId check.key (db.partitionRow check.key)).isSome

/-- The request that a check of the reconciliation has made for the partition. -/
def repairRequest (db : Database) (hashes : RepairHashes) (reconciliationId : String)
    (key : LedgerPartitionKey) : Option (String × LedgerArtifactRequest) :=
  db.findRequest key.orgId (hashes.idempotencyKey reconciliationId key)

variable (db hashes check ids refused fingerprint clock) in
/-- **A check reserves nothing, or what is needed**: one request and one generation, for an
observation that is current and needs a repair, when nothing has been requested for it and
nothing is under way, and under a lease that is held at every step. -/
theorem reserveRepair_cases :
    NothingReserved db (db.after (db.reserveRepair hashes check ids refused fingerprint clock)) ∨
      (Reserved db (db.after (db.reserveRepair hashes check ids refused fingerprint clock))
          ids.request check.key ∧
        ((db.after (db.reserveRepair hashes check ids refused fingerprint clock)).repairRequest
          hashes check.reconciliationId check.key).isSome = true ∧
        db.repairRequest hashes check.reconciliationId check.key = none ∧
        db.current check fingerprint = true ∧ db.inflight check = false ∧
        check.needsRepair = true ∧ ∀ i < 6, db.leasedBy check (clock i) = true) := by
  cases h : db.reserveRepair hashes check ids refused fingerprint clock with
  | error e => exact .inl (.refl db)
  | ok r =>
    obtain ⟨answer, db'⟩ := r
    change NothingReserved db db' ∨ (Reserved db db' _ _ ∧ _)
    obtain ⟨hfirst, key, hkeys, hobserves, hfingerprint, hsecond, hcases⟩ :=
      reserveObservedRefresh_ok h
    obtain rfl : check.key = key := by
      have hdedup : [check.key].dedup = [key] := hkeys
      simpa using hdedup
    rcases hcases with rfl | ⟨hnone, hinflight, hneeds, hthird, hrequest, hlast⟩
    · exact .inl (nothingReserved_lockPartition _)
    right
    obtain ⟨hreserved, ⟨request, hlookup, horg, hkey⟩, hruns⟩ := requestRefresh_one hrequest
    obtain ⟨partitions, heq, -⟩ := db.lockPartition_eq check.key
    have hleased := observationError_check.mp hfirst
    -- the run of the lease is not touched
    obtain ⟨run, hrun, -⟩ := Option.any_eq_true _ _ |>.mp hleased
    have hrun' : db'.processingRuns.lookup check.lease.runId = some run := by
      refine hruns _ _ ?_
      rw [heq]
      exact hrun
    refine ⟨⟨?_, ?_, ?_⟩, ?_, hnone, ?_, ?_, hneeds, ?_⟩
    · have hfresh := hreserved.fresh
      rwa [heq] at hfresh
    · obtain ⟨created, hcreated⟩ := hreserved.created
      rw [heq] at hcreated
      exact ⟨created, hcreated⟩
    · intro k
      rw [hreserved.generations, lockPartition_kept]
    · have hmem : (ids.request, request) ∈ db'.ledgerArtifactRequests.findMany fun _ r =>
          r.orgId = check.key.orgId &&
            r.idempotencyKey = hashes.idempotencyKey check.reconciliationId check.key := by
        refine Table.mem_findMany.mpr ⟨hlookup, ?_⟩
        simp [horg, hkey, LedgerCheck.input]
      unfold repairRequest findRequest
      rw [List.isSome_head?]
      exact List.ne_nil_of_mem hmem
    · unfold current
      rw [hobserves]
      simpa [LedgerCheck.observation] using hfingerprint
    · unfold inflight
      rw [heq] at hinflight
      have hsame : db.inflightItem check.key.orgId check.key (db.partitionRow check.key) = none :=
        hinflight
      rw [hsame]
      rfl
    · intro i hi
      obtain rfl | rfl | rfl | rfl | rfl | rfl :
        i = 0 ∨ i = 1 ∨ i = 2 ∨ i = 3 ∨ i = 4 ∨ i = 5 := by omega
      · exact hleased
      · rw [← leasedBy_lockPartition check.key]
        exact observationError_check.mp hsecond
      · rw [← leasedBy_lockPartition check.key]
        exact observationError_check.mp hthird
      · rw [← leasedBy_of_run hrun hrun']
        exact observationError_check.mp (hlast 3 (by simp))
      · rw [← leasedBy_of_run hrun hrun']
        exact observationError_check.mp (hlast 4 (by simp))
      · rw [← leasedBy_of_run hrun hrun']
        exact observationError_check.mp (hlast 5 (by simp))

end

/-! ### Runs of the system -/

/-- A step of the system: an operation, or the reservation of a check. -/
inductive RepairStep where
  | operation (op : Operation)
  | reserve (check : LedgerCheck) (ids : RefreshIds) (refused : Option String)
      (sourceFingerprint : String) (clock : ℕ → ℕ)

/-- The step is a check of the partition for the reconciliation. -/
def RepairStep.isOf (reconciliationId : String) (key : LedgerPartitionKey) : RepairStep → Bool
  | .operation _ => false
  | .reserve check _ _ _ _ => check.reconciliationId = reconciliationId && check.key = key

def repairStep (config : Option String) (hashes : RepairHashes) (db : Database) :
    RepairStep → Database
  | .operation op => db.step config op
  | .reserve check ids refused sourceFingerprint clock =>
    db.after (db.reserveRepair hashes check ids refused sourceFingerprint clock)

/-- How many requests are there that were not there before. -/
def newRequests (db db' : Database) : ℕ :=
  (db'.ledgerArtifactRequests.findMany fun id _ =>
    (db.ledgerArtifactRequests.lookup id).isNone).length

/-- The requests and the generations of the partition that the checks of a reconciliation reserve
along a run. -/
def repairs (config : Option String) (hashes : RepairHashes) (reconciliationId : String)
    (key : LedgerPartitionKey) : Database → List RepairStep → ℕ × ℕ
  | _, [] => (0, 0)
  | db, step :: steps =>
    let db' := repairStep config hashes db step
    let rest := repairs config hashes reconciliationId key db' steps
    if step.isOf reconciliationId key then
      (newRequests db db' + rest.1,
        (db'.partitionRow key).requestedGeneration - (db.partitionRow key).requestedGeneration +
          rest.2)
    else rest

section

variable {config : Option String} {hashes : RepairHashes} {db db' : Database}
  {reconciliationId : String} {key : LedgerPartitionKey}

lemma newRequests_of_nothing (h : NothingReserved db db') : newRequests db db' = 0 := by
  unfold newRequests
  rw [h.requests, List.length_eq_zero_iff, List.eq_nil_iff_forall_not_mem]
  rintro ⟨id, request⟩ hmem
  obtain ⟨hrequest, hnone⟩ := Table.mem_findMany.mp hmem
  rw [hrequest] at hnone
  cases hnone

lemma newRequests_of_reserved {requestId : String} (h : Reserved db db' requestId key) :
    newRequests db db' = 1 := by
  obtain ⟨request, hcreated⟩ := h.created
  have hle : newRequests db db' ≤ 1 := by
    refine Table.length_findMany_le_one fun k k' row row' hk hk' hp hp' => ?_
    have hall : ∀ k row, db'.ledgerArtifactRequests.lookup k = some row →
        (db.ledgerArtifactRequests.lookup k).isNone = true → k = requestId := by
      intro k row hk hnone
      by_contra hne
      rw [hcreated, if_neg hne] at hk
      rw [hk] at hnone
      cases hnone
    rw [hall k row hk hp, hall k' row' hk' hp']
  have hmem : (requestId, request) ∈ db'.ledgerArtifactRequests.findMany fun id _ =>
      (db.ledgerArtifactRequests.lookup id).isNone := by
    refine Table.mem_findMany.mpr ⟨(hcreated requestId).trans (if_pos rfl), ?_⟩
    rw [h.fresh]
    rfl
  have hpos : 0 < newRequests db db' := List.length_pos_of_mem hmem
  omega

/-- What a check reserves is what one operation on the archive does, and otherwise it changes
nothing. -/
lemma repairStep_eq (step : RepairStep) : repairStep config hashes db step = db ∨
    ∃ op, repairStep config hashes db step = db.step config op := by
  cases step with
  | operation op => exact .inr ⟨op, rfl⟩
  | reserve check ids refused fingerprint clock =>
    rw [repairStep]
    cases h : db.reserveRepair hashes check ids refused fingerprint clock with
    | error e => exact .inl rfl
    | ok r =>
      obtain ⟨answer, db'⟩ := r
      obtain ⟨now, hok⟩ := reserveObservedRefresh_refines rfl rfl h
      refine .inr ⟨.ledgerRequests (.reserveRefresh (check.input hashes) ids refused fingerprint
        now), ?_⟩
      rewrite [Database.step, ledgerRequestStep, hok]
      rfl

lemma Generations.repairStep (h : Generations db) (step : RepairStep) :
    Generations (Database.repairStep config hashes db step) := by
  rcases repairStep_eq step with heq | ⟨op, heq⟩
  · rw [heq]
    exact h
  · rw [heq]
    exact (h.step op).1

lemma isSome_repairRequest : (db.repairRequest hashes reconciliationId key).isSome = true ↔
    ∃ id request, db.ledgerArtifactRequests.lookup id = some request ∧
      request.orgId = key.orgId ∧
      request.idempotencyKey = hashes.idempotencyKey reconciliationId key := by
  unfold repairRequest findRequest
  rw [List.isSome_head?]
  constructor
  · intro hne
    obtain ⟨⟨id, request⟩, hmem⟩ := List.exists_mem_of_ne_nil _ hne
    obtain ⟨hrequest, hsame⟩ := Table.mem_findMany.mp hmem
    simp only [Bool.and_eq_true, decide_eq_true_eq] at hsame
    exact ⟨id, request, hrequest, hsame.1, hsame.2⟩
  · rintro ⟨id, request, hrequest, horg, hkey⟩
    have hmem : (id, request) ∈ db.ledgerArtifactRequests.findMany fun _ r =>
        r.orgId = key.orgId &&
          r.idempotencyKey = hashes.idempotencyKey reconciliationId key :=
      Table.mem_findMany.mpr ⟨hrequest, by simp [horg, hkey]⟩
    exact List.ne_nil_of_mem hmem

lemma repairRequest_repairStep (h : Generations db) (step : RepairStep)
    (hrequest : (db.repairRequest hashes reconciliationId key).isSome = true) :
    ((repairStep config hashes db step).repairRequest hashes reconciliationId key).isSome =
      true := by
  rcases repairStep_eq step with heq | ⟨op, heq⟩
  · rw [heq]
    exact hrequest
  · rw [heq, isSome_repairRequest]
    obtain ⟨id, request, hlookup, horg, hkey⟩ := isSome_repairRequest.mp hrequest
    obtain ⟨request', hlookup', hentry, -⟩ :=
      (entriesMove_step h.runs.unique op : EntriesMove _ db (db.step config op)).requests id request
        hlookup
    simp only [LedgerArtifactRequest.entry, Prod.mk.injEq] at hentry
    exact ⟨id, request', hlookup', hentry.1.trans horg, hentry.2.2.2.1.trans hkey⟩

/-- A step adds nothing to what follows, or makes the one request that is not there yet. -/
lemma repairs_cons (db : Database) (step : RepairStep) (steps : List RepairStep) :
    let rest := repairs config hashes reconciliationId key (repairStep config hashes db step) steps
    repairs config hashes reconciliationId key db (step :: steps) = rest ∨
      repairs config hashes reconciliationId key db (step :: steps) = (1 + rest.1, 1 + rest.2) ∧
        db.repairRequest hashes reconciliationId key = none ∧
        ((repairStep config hashes db step).repairRequest hashes reconciliationId key).isSome =
          true := by
  rw [repairs]
  cases step with
  | operation op => exact .inl rfl
  | reserve check ids refused fingerprint clock =>
    by_cases hof : (RepairStep.reserve check ids refused fingerprint clock).isOf
        reconciliationId key = true
    swap
    · exact .inl (if_neg hof)
    rw [if_pos hof]
    simp only [RepairStep.isOf, Bool.and_eq_true, decide_eq_true_eq] at hof
    obtain ⟨rfl, rfl⟩ := hof
    rcases reserveRepair_cases db hashes check ids refused fingerprint clock with
      hnothing | ⟨hreserved, hmade, hnone, -⟩
    · have hsame : NothingReserved db (repairStep config hashes db
          (.reserve check ids refused fingerprint clock)) := hnothing
      rw [newRequests_of_nothing hsame, hsame.generations]
      simp
    · have hone : Reserved db (repairStep config hashes db
          (.reserve check ids refused fingerprint clock)) ids.request check.key := hreserved
      rw [newRequests_of_reserved hone, hone.generations, if_pos rfl]
      refine .inr ⟨?_, hnone, hmade⟩
      simp

lemma repairs_after (h : Generations db) (steps : List RepairStep)
    (hrequest : (db.repairRequest hashes reconciliationId key).isSome = true) :
    repairs config hashes reconciliationId key db steps = (0, 0) := by
  induction steps generalizing db with
  | nil => rfl
  | cons step steps ih =>
    rcases repairs_cons db step steps with hsame | ⟨-, hnone, -⟩
    · rw [hsame]
      exact ih (h.repairStep step) (repairRequest_repairStep h step hrequest)
    · rw [hnone] at hrequest
      cases hrequest

lemma repairs_le_one (h : Generations db) (steps : List RepairStep) :
    (repairs config hashes reconciliationId key db steps).1 ≤ 1 ∧
      (repairs config hashes reconciliationId key db steps).2 =
        (repairs config hashes reconciliationId key db steps).1 := by
  induction steps generalizing db with
  | nil => exact ⟨Nat.zero_le 1, rfl⟩
  | cons step steps ih =>
    rcases repairs_cons db step steps with hsame | ⟨hone, -, hthere⟩
    · rw [hsame]
      exact ih (h.repairStep step)
    · rw [hone, repairs_after (h.repairStep step) steps hthere]
      exact ⟨le_rfl, rfl⟩

end

/-- **Repairs are idempotent, and only for real need**: along every run, a reconciliation makes at
most one request for a partition, and requests a generation with each; in every state, a check
reserves nothing when the observation is stale, the lease is lost at any step, a generation is
under way or no repair is needed, and otherwise nothing or one request with one generation of its
own partition. -/
theorem repairs_idempotent (config : Option String) (hashes : RepairHashes) :
    (∀ reconciliationId key steps,
      (repairs config hashes reconciliationId key {} steps).1 ≤ 1 ∧
        (repairs config hashes reconciliationId key {} steps).2 =
          (repairs config hashes reconciliationId key {} steps).1) ∧
    ∀ (db : Database) (check : LedgerCheck) (ids : RefreshIds) (refused : Option String)
      (fingerprint : String) (clock : ℕ → ℕ),
      let db' := db.after (db.reserveRepair hashes check ids refused fingerprint clock)
      (db.current check fingerprint = false ∨ (∃ i < 6, db.leasedBy check (clock i) = false) ∨
          db.inflight check = true ∨ check.needsRepair = false → NothingReserved db db') ∧
        (NothingReserved db db' ∨ Reserved db db' ids.request check.key) := by
  refine ⟨fun reconciliationId key steps => repairs_le_one .empty steps, ?_⟩
  intro db check ids refused fingerprint clock
  rcases reserveRepair_cases db hashes check ids refused fingerprint clock with
    hnothing | ⟨hreserved, -, -, hcurrent, hinflight, hneeds, hleased⟩
  · exact ⟨fun _ => hnothing, .inl hnothing⟩
  · refine ⟨fun hwhy => ?_, .inr hreserved⟩
    rcases hwhy with hstale | ⟨i, hi, hlost⟩ | hunder | hhealthy
    · rw [hcurrent] at hstale
      cases hstale
    · rw [hleased i hi] at hlost
      cases hlost
    · rw [hinflight] at hunder
      cases hunder
    · rw [hneeds] at hhealthy
      cases hhealthy

end Database
end SmeDataCenter
