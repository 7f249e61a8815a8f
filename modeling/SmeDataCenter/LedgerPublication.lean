import SmeDataCenter.LedgerRequests
import SmeDataCenter.PartitionDownloads

/-!
# Publication of ledger objects

How a worker makes an object the current one of its owner: it registers the key of the object as
garbage of its run, uploads the object, and in one transaction under its lease moves the key
from the queue to the pointer of the partition, or of the bundle. A PDF whose generation is no
longer the one requested changes nothing but its own item. `sourcesCurrent` and `current` say
what the checks of the sources find, and `refused` is what writing the read requirement throws.
-/

namespace SmeDataCenter

structure LedgerPdfCandidate where
  objectKey : ObjectKey
  byteSize : ℕ
  checksumSha256 : String
  pageCount : ℕ

structure PublishLedgerPdfInput where
  partitionId : LedgerPartitionKey
  generation : ℕ
  dataRevision : ℕ
  sourceFingerprint : String
  leaseToken : Lease
  candidate : Option LedgerPdfCandidate
  /-- The confidentiality levels of the sources. -/
  sources : List ℕ
  rowCount : ℕ
  certificateCount : ℕ

inductive LedgerPublicationStatus where
  | published
  | superseded
  deriving DecidableEq

def ledgerPdfIsValid (candidate : LedgerPdfCandidate) (certificateCount : ℕ) : Bool :=
  0 < candidate.byteSize && candidate.byteSize ≤ 200 * 1024 * 1024 &&
    isHexDigest candidate.checksumSha256 && 1 + certificateCount ≤ candidate.pageCount

/-- The row of a partition that is published. -/
def publishedPartition (input : PublishLedgerPdfInput) (productLevel : Option ℕ) (now : ℕ)
    (partition : LedgerPdfPartition) : LedgerPdfPartition :=
  { partition with
    publishedGeneration := some input.generation
    publishedDataRevision := some input.dataRevision
    publishedSourceFingerprint := some input.sourceFingerprint
    currentObjectKey := input.candidate.map (·.objectKey)
    checksumSha256 := input.candidate.map (·.checksumSha256)
    byteSize := input.candidate.map (·.byteSize)
    rowCount := some input.rowCount
    certificateCount := some input.certificateCount
    confidentialityLevel := productLevel.getD (input.sources.foldl max 0)
    templateVersion := some "food-purchase-ledger-cn-v2"
    generatedAt := some now
    errorCode := none }

namespace Database

/-! ### Ledger PDFs -/

/-- The run of a lease that is active. -/
def lockLease (db : Database) (token : Lease) (orgId : String) (now : ℕ) :
    Except WorkerError ProcessingRun :=
  match (db.processingRuns.lookup token.runId).filter fun run =>
      run.orgId = orgId && leaseMatches token now run with
  | some run => .ok run
  | none => .error .leaseLost

def registerCandidate (db : Database) (orgId : String) (token : Lease) (objectKey : ObjectKey)
    (now : ℕ) : Except WorkerError Database := do
  let _ ← db.lockLease token orgId now
  return db.enqueueStorageGarbage objectKey "ledger_upload_candidate" now (some token.runId)

/-- The object that a publication takes the place of is queued. -/
def enqueueReplaced (db : Database) (partition : LedgerPdfPartition)
    (candidate : Option LedgerPdfCandidate) (now : ℕ) : Database :=
  match partition.currentObjectKey with
  | some key =>
    if some key = candidate.map (·.objectKey) then db
    else db.enqueueStorageGarbage key "ledger_pdf_replaced" now none
  | none => db

/-- The candidate leaves the queue, where its run has registered it. -/
def takeCandidate (db : Database) (runId : String) (candidate : Option LedgerPdfCandidate)
    (certificateCount : ℕ) : Except WorkerError Database :=
  match candidate with
  | none => .ok db
  | some candidate =>
    match (db.storageGarbage.lookup candidate.objectKey).filter fun g =>
        g.processingRunId = some runId with
    | none => .error (.thrown "LEDGER_CANDIDATE_NOT_REGISTERED")
    | some garbage =>
      if ledgerPdfIsValid candidate certificateCount then
        .ok { db with storageGarbage := db.storageGarbage.deleteMany fun _ g => g.id = garbage.id }
      else .error (.thrown "LEDGER_PDF_INVALID")

/-- The part of a publication that is left out when its generation is superseded. -/
def publishPartition (db : Database) (input : PublishLedgerPdfInput)
    (partition : LedgerPdfPartition) (sourcesCurrent : Bool) (refused : Option String)
    (productLevel : Option ℕ) (now : ℕ) : Except WorkerError Database :=
  if partition.dataRevision ≠ input.dataRevision then .error (.thrown "LEDGER_SOURCE_CHANGED")
  else if !sourcesCurrent then .error (.thrown "LEDGER_SOURCE_CHANGED")
  else do
    let db ← (db.enqueueReplaced partition input.candidate now).takeCandidate
      input.leaseToken.runId input.candidate input.certificateCount
    match refused with
    | some code => throw (.thrown code)
    | none =>
      return { db with
        ledgerPdfPartitions := db.ledgerPdfPartitions.update input.partitionId
          (publishedPartition input productLevel now) }

/-- The run of a lease that is still active succeeds. -/
def succeedLeased (db : Database) (token : Lease) (finishedAt : ℕ) :
    Except WorkerError Database :=
  match db.processingRuns.lookup token.runId with
  | none => .error .leaseLost
  | some run =>
    if leaseMatches token finishedAt run then
      .ok { db with
        processingRuns := db.processingRuns.update token.runId (succeed finishedAt) }
    else .error .leaseLost

/-- How an item ends. -/
def publicationItemStatus (superseded : Bool) (candidate : Option LedgerPdfCandidate) :
    LedgerArtifactItemStatus :=
  if superseded then .superseded else if candidate.isSome then .succeeded else .empty

def publishLedgerPdf (db : Database) (input : PublishLedgerPdfInput) (sourcesCurrent : Bool)
    (refused : Option String) (productLevel : Option ℕ) (now finishedAt : ℕ) :
    Except WorkerError (LedgerPublicationStatus × Database) := do
  let preliminary ← findUniqueOrThrow db.processingRuns input.leaseToken.runId
  let run ← db.lockLease input.leaseToken preliminary.orgId now
  match run.ledgerArtifactRequestItemId with
  | none => throw (.thrown "LEDGER_GENERATION_JOB_INVALID")
  | some itemId =>
    if run.jobType ≠ .ledgerPdfGenerate then throw (.thrown "LEDGER_GENERATION_JOB_INVALID")
    else do
    let item ← findUniqueOrThrow db.ledgerArtifactRequestItems itemId
    if item.orgId ≠ run.orgId then throw (.thrown "P2025")
    else if item.partitionId ≠ input.partitionId ∨ item.generation ≠ input.generation then
      throw (.thrown "LEDGER_GENERATION_JOB_INVALID")
    else do
    let partition ← findUniqueOrThrow db.ledgerPdfPartitions input.partitionId
    if input.partitionId.orgId ≠ run.orgId then throw (.thrown "P2025")
    else do
    -- a dirty revision alone has no replacement job: the retry reads a fresh snapshot
    let superseded : Bool := partition.requestedGeneration ≠ input.generation
    let db ← if superseded then .ok db
      else db.publishPartition input partition sourcesCurrent refused productLevel now
    -- the run is locked, but time still passes inside the transaction
    let db ← db.succeedLeased input.leaseToken finishedAt
    let ledgerArtifactRequestItems ← updateOrThrow db.ledgerArtifactRequestItems itemId fun i =>
      { i with
        status := publicationItemStatus superseded input.candidate
        dataRevision := input.dataRevision, errorCode := none }
    let db := { db with ledgerArtifactRequestItems }
    let db ← db.updateLedgerRefreshRequestStatus run.orgId item.requestId
    return (if superseded then .superseded else .published, db)

/-! ### Bundles -/

/-- The lease of the run of a bundle is active. -/
def bundleFenced (db : Database) (lease : Lease) (requestId : String) (now : ℕ) : Bool :=
  (db.processingRuns.lookup lease.runId).any fun run =>
    run.ledgerArtifactRequestId = some requestId && run.jobType = .ledgerPdfBundle &&
      leaseMatches lease now run

/-- False when the lease is lost. -/
def registerBundleCandidate (db : Database) (requestId : String) (lease : Lease)
    (key : ObjectKey) (now : ℕ) : Except WorkerError (Bool × Database) :=
  if db.bundleFenced lease requestId now then do
    let db := db.enqueueStorageGarbage key "ledger_bundle_candidate" now (some lease.runId)
    let ledgerArtifactRequests ← updateOrThrow db.ledgerArtifactRequests requestId fun r =>
      { r with status := .running }
    return (true, { db with ledgerArtifactRequests })
  else .ok (false, db)

/-- The row of a run whose bundle is complete. -/
def succeedBundle (finishedAt : ℕ) (run : ProcessingRun) : ProcessingRun :=
  { run with
    status := .succeeded, finishedAt := some finishedAt, lockedBy := none, lockedUntil := none }

/-- The row of a run whose bundle has failed. -/
def failBundleRun (code : String) (now : ℕ) (run : ProcessingRun) : ProcessingRun :=
  { run with
    status := .failed, errorCode := some code, finishedAt := some now, lockedBy := none
    lockedUntil := none }

/-- False when the lease is lost, or the entries are no longer the current ones. -/
def completeBundle (db : Database) (requestId : String) (lease : Lease) (key : ObjectKey)
    (current : Bool) (expiresAt now finishedAt : ℕ) : Except WorkerError (Bool × Database) :=
  if db.bundleFenced lease requestId now && current &&
      (db.processingRuns.lookup lease.runId).any (leaseMatches lease finishedAt) then do
    let ledgerArtifactRequests ← updateOrThrow db.ledgerArtifactRequests requestId fun r =>
      { r with
        status := .succeeded, zipObjectKey := some key, zipExpiresAt := some expiresAt
        errorCode := none }
    let db := { db with
      ledgerArtifactRequests
      storageGarbage := db.storageGarbage.deleteMany fun k _ => k = key }
    let db := db.enqueueStorageGarbage key "ledger_bundle_expired" expiresAt none
    return (true, { db with
      processingRuns := db.processingRuns.update lease.runId (succeedBundle finishedAt) })
  else .ok (false, db)

def failBundle (db : Database) (requestId : String) (lease : Lease) (code : String) (now : ℕ) :
    Except WorkerError (Bool × Database) :=
  if db.bundleFenced lease requestId now then do
    let ledgerArtifactRequests ← updateOrThrow db.ledgerArtifactRequests requestId fun r =>
      { r with status := .failed, errorCode := some code }
    return (true, { db with
      ledgerArtifactRequests
      processingRuns := db.processingRuns.update lease.runId (failBundleRun code now) })
  else .ok (false, db)

/-- The bundles that have expired, the earliest first. -/
def expiredBundles (db : Database) (now : ℕ) : List (String × LedgerArtifactRequest) :=
  ((db.ledgerArtifactRequests.findMany fun _ r =>
    r.kind = .download && r.zipExpiresAt.any (· ≤ now) && r.zipObjectKey.isSome).insertionSort
      fun a b => a.2.zipExpiresAt.getD 0 < b.2.zipExpiresAt.getD 0 ∨
        (a.2.zipExpiresAt.getD 0 = b.2.zipExpiresAt.getD 0 ∧ stringLe a.1 b.1)).take 200

/-- The bundle of a request is queued, and its pointer is cleared. -/
def enqueueExpiredBundle (now : ℕ) (db : Database) (expired : String × LedgerArtifactRequest) :
    Database :=
  match expired.2.zipObjectKey with
  | none => db
  | some key =>
    let db := db.enqueueStorageGarbage key "ledger_bundle_expired" now none
    { db with
      ledgerArtifactRequests := db.ledgerArtifactRequests.updateMany
        (fun id r => id = expired.1 && r.zipObjectKey = some key && r.zipExpiresAt.any (· ≤ now))
        fun r => { r with zipObjectKey := none, zipExpiresAt := none } }

def enqueueExpiredLedgerBundles (db : Database) (now : ℕ) : Database :=
  (db.expiredBundles now).foldl (enqueueExpiredBundle now) db

end Database
end SmeDataCenter
