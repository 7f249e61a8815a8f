import SmeDataCenter.ProcessingFailure

/-!
# Partition downloads

A request for a bundle of partitions comes with the run that builds the bundle. The key of a
bundle is registered as garbage of its run before the upload, and the publication moves it to the
request, with a garbage row for the time the download expires. `refused` is what the authority of
the requester throws, and `current` says whether the partitions of the manifest are still as they
were captured.
-/

namespace SmeDataCenter

/-- A lease for a download request. -/
structure PartitionDownloadLease extends Lease where
  orgId : String
  requestId : String

structure PrepareDownloadInput where
  orgId : String
  requesterId : String
  idempotencyKey : String
  fingerprint : String
  /-- The readable partitions of the scope, and what they weigh. -/
  partitionIds : List String
  totalBytes : ℕ

structure PartitionDownloadLimits where
  maxPartitions : ℕ
  maxBytes : ℕ
  maxActivePerOrg : ℕ
  maxActivePerRequester : ℕ
  retentionSeconds : ℕ

structure PartitionDownloadArtifact where
  objectKey : ObjectKey
  byteSize : ℕ
  checksumSha256 : String
  expiresAt : ℕ

/-- `/^[a-f0-9]{64}$/` -/
def isHexDigest (checksum : String) : Bool :=
  checksum.length = 64 && checksum.toList.all fun c => c.isDigit || ('a' ≤ c && c ≤ 'f')

/-- The key begins with `partition-downloads/`, the organization, the request and the attempt. -/
def isDownloadKey (lease : PartitionDownloadLease) : ObjectKey → Bool
  | .download orgId requestId attemptNumber _ =>
    orgId = lease.orgId && requestId = lease.requestId && attemptNumber = lease.attemptNumber
  | _ => false

/-- The row of a download that is published. -/
def publishedDownload (artifact : PartitionDownloadArtifact) (row : PartitionDownloadRequest) :
    PartitionDownloadRequest :=
  { row with
    status := .succeeded, completedPartitionCount := row.partitionCount
    objectKey := some artifact.objectKey
    byteSize := some artifact.byteSize, checksumSha256 := some artifact.checksumSha256
    expiresAt := artifact.expiresAt, errorCode := none }

/-- The run of a download request. -/
def partitionBundleRun (orgId requestId : String) (now : ℕ) : ProcessingRun where
  orgId := orgId
  partitionDownloadRequestId := some requestId
  jobKey := "structured_partition_bundle:" ++ requestId
  jobType := .structuredPartitionBundle
  availableAt := now
  createdAt := now

namespace Database

def expireRow (db : Database) (requestId : String) (row : PartitionDownloadRequest)
    (clock now : ℕ) : Database :=
  if row.status ≠ .expired ∧ row.expiresAt ≤ clock then
    db.terminate requestId row .expired "PARTITION_DOWNLOAD_EXPIRED" now
  else db

/-- The request under an idempotency key. -/
def existingDownload (db : Database) (input : PrepareDownloadInput) :
    Option (String × PartitionDownloadRequest) :=
  (db.partitionDownloadRequests.findMany fun _ r => r.orgId = input.orgId &&
    r.requesterId = input.requesterId && r.idempotencyKey = input.idempotencyKey).head?

/-- Is this a request of the organization, and of the requester if one is given, that is active
and not expired? -/
def isActiveDownload (orgId : String) (requesterId : Option String) (now : ℕ)
    (r : PartitionDownloadRequest) : Bool :=
  r.orgId = orgId && requesterId.all (r.requesterId = ·) && r.status.isActive && now < r.expiresAt

def activeDownloads (db : Database) (orgId : String) (requesterId : Option String) (now : ℕ) : ℕ :=
  (db.partitionDownloadRequests.findMany fun _ r => isActiveDownload orgId requesterId now r).length

/-- The row of a new request: one without partitions is done at once. -/
def preparedDownload (limits : PartitionDownloadLimits) (input : PrepareDownloadInput) (now : ℕ) :
    PartitionDownloadRequest where
  orgId := input.orgId
  requesterId := input.requesterId
  idempotencyKey := input.idempotencyKey
  requestFingerprint := input.fingerprint
  manifest := input.partitionIds
  status := if input.partitionIds.length = 0 then .succeeded else .queued
  partitionCount := input.partitionIds.length
  expiresAt := addSeconds now limits.retentionSeconds

/-- A new request with its run. -/
def createDownload (db : Database) (limits : PartitionDownloadLimits)
    (input : PrepareDownloadInput) (requestId runId : String) (now : ℕ) :
    Except WorkerError Database := do
  let partitionDownloadRequests ← createOrThrow db.partitionDownloadRequests requestId
    (preparedDownload limits input now)
  let db := { db with partitionDownloadRequests }
  if input.partitionIds.length = 0 then return db
  else db.createRun runId (partitionBundleRun input.orgId requestId now)

/-- The request under an idempotency key, or a new one with its run. -/
def prepareDownload (db : Database) (limits : PartitionDownloadLimits)
    (input : PrepareDownloadInput) (requestId runId : String) (refused : Option String) (now : ℕ) :
    Except WorkerError Database :=
  match refused, db.existingDownload input with
  | some code, _ => .error (.thrown code)
  | none, some (existingId, existing) =>
    if existing.requestFingerprint ≠ input.fingerprint then
      .error (.thrown "IDEMPOTENCY_CONFLICT")
    else .ok (db.expireRow existingId existing now now)
  | none, none =>
    if limits.maxPartitions < input.partitionIds.length || limits.maxBytes < input.totalBytes then
      .error (.thrown "PARTITION_DOWNLOAD_LIMIT_EXCEEDED")
    else if input.partitionIds.length ≠ 0 &&
        (limits.maxActivePerOrg ≤ db.activeDownloads input.orgId none now ||
          limits.maxActivePerRequester ≤
            db.activeDownloads input.orgId (some input.requesterId) now) then
      .error (.thrown "PARTITION_DOWNLOAD_ACTIVE_LIMIT_EXCEEDED")
    else db.createDownload limits input requestId runId now

/-- The request and the run of an active lease. -/
def downloadLeased (db : Database) (lease : PartitionDownloadLease) (now : ℕ) :
    Option (PartitionDownloadRequest × ProcessingRun) := do
  let row ← (db.partitionDownloadRequests.lookup lease.requestId).filter (·.orgId = lease.orgId)
  let run ← (db.processingRuns.lookup lease.runId).filter fun run =>
    downloadOwner lease.orgId lease.requestId run && leaseMatches lease.toLease now run
  if row.status.isActive then some (row, run) else none

/-- Do something to a request under its lease; an expired request is ended instead. False when
the lease is lost, which is looked at again in the end. -/
def fencedDownload (db : Database) (lease : PartitionDownloadLease) (now finishedAt : ℕ)
    (fn : PartitionDownloadRequest → Except WorkerError (Bool × Database)) :
    Except WorkerError (Bool × Database) :=
  match db.downloadLeased lease now with
  | none => .ok (false, db)
  | some (row, run) =>
    if row.expiresAt ≤ now then .ok (false, db.expireRow lease.requestId row now now)
    else do
      let result ← fn row
      return if run.lockedUntil.any (finishedAt < ·) then result else (false, db)

/-- A request whose partitions have changed is ended. -/
def checkContent (db : Database) (lease : PartitionDownloadLease)
    (row : PartitionDownloadRequest) (current : Bool) (now : ℕ) : Option Database :=
  if current then none
  else some (db.terminate lease.requestId row .failed "PARTITION_DOWNLOAD_STALE" now)

def markDownloadRunning (db : Database) (lease : PartitionDownloadLease) (current : Bool)
    (now finishedAt : ℕ) : Except WorkerError (Bool × Database) :=
  db.fencedDownload lease now finishedAt fun row =>
    match db.checkContent lease row current now with
    | some db => .ok (false, db)
    | none => .ok (true, { db with
        partitionDownloadRequests := db.partitionDownloadRequests.update lease.requestId fun r =>
          { r with status := .running } })

/-- `Number.isSafeInteger` of an integer. -/
def isSafeInteger (n : ℤ) : Bool := n.natAbs ≤ 2 ^ 53 - 1

def recordDownloadProgress (db : Database) (lease : PartitionDownloadLease)
    (completedPartitionCount : ℤ) (now finishedAt : ℕ) : Except WorkerError (Bool × Database) :=
  db.fencedDownload lease now finishedAt fun row =>
    if !isSafeInteger completedPartitionCount ||
        completedPartitionCount < row.completedPartitionCount ||
        (row.partitionCount : ℤ) < completedPartitionCount then
      .error (.thrown "INVALID_PARTITION_DOWNLOAD_PROGRESS")
    else .ok (true, { db with
      partitionDownloadRequests := db.partitionDownloadRequests.update lease.requestId fun r =>
        { r with completedPartitionCount := completedPartitionCount.toNat } })

def failDownload (db : Database) (lease : PartitionDownloadLease) (errorCode : String)
    (now finishedAt : ℕ) : Except WorkerError (Bool × Database) :=
  db.fencedDownload lease now finishedAt fun row =>
    .ok (true, db.terminate lease.requestId row .failed (safeDownloadErrorCode errorCode) now)

def registerDownloadCandidate (db : Database) (lease : PartitionDownloadLease)
    (objectKey : ObjectKey) (now finishedAt : ℕ) : Except WorkerError (Bool × Database) :=
  db.fencedDownload lease now finishedAt fun _ =>
    if isDownloadKey lease objectKey then
      .ok (true, db.enqueueStorageGarbage objectKey "partition_download_candidate" now
        (some lease.runId))
    else .error (.thrown "INVALID_PARTITION_DOWNLOAD_OBJECT_KEY")

def publishDownload (db : Database) (lease : PartitionDownloadLease)
    (artifact : PartitionDownloadArtifact) (current : Bool) (now finishedAt : ℕ) :
    Except WorkerError (Bool × Database) :=
  db.fencedDownload lease now finishedAt fun row =>
    match db.checkContent lease row current now with
    | some db => .ok (false, db)
    | none =>
      if !isDownloadKey lease artifact.objectKey then
        .error (.thrown "INVALID_PARTITION_DOWNLOAD_OBJECT_KEY")
      else match (db.storageGarbage.lookup artifact.objectKey).filter fun g =>
          g.processingRunId = some lease.runId with
      | none => .error (.thrown "PARTITION_DOWNLOAD_CANDIDATE_REQUIRED")
      | some garbage =>
        if !isHexDigest artifact.checksumSha256 || artifact.expiresAt ≤ now ||
            row.expiresAt < artifact.expiresAt then
          .error (.thrown "INVALID_PARTITION_DOWNLOAD_ARTIFACT")
        else
          let db := { db with
            processingRuns := db.processingRuns.update lease.runId (succeed finishedAt)
            partitionDownloadRequests := db.partitionDownloadRequests.update lease.requestId
              (publishedDownload artifact)
            storageGarbage := db.storageGarbage.deleteMany fun _ g => g.id = garbage.id }
          .ok (true, db.enqueueStorageGarbage artifact.objectKey "partition_download_expired"
            artifact.expiresAt none)

/-- End a request whose time has passed; `clock` is the time of the sweep. -/
def expireDownload (db : Database) (orgId requestId : String) (clock now : ℕ) : Database :=
  match (db.partitionDownloadRequests.lookup requestId).filter (·.orgId = orgId) with
  | none => db
  | some row => db.expireRow requestId row clock now

/-- The garbage rows of the runs of a request are due at once. -/
def releaseDownloadCandidates (db : Database) (orgId requestId : String) (now : ℕ) : Database :=
  { db with
    storageGarbage := db.storageGarbage.updateMany
      (fun _ g => (g.processingRunId.bind db.processingRuns.lookup).any
        (downloadOwner orgId requestId)) fun g =>
      { g with availableAt := now, lastErrorCode := none } }

/-- End one request whose partitions are gone, whatever its status. -/
def invalidateDownload (orgId : String) (now : ℕ) (db : Database) (requestId : String) :
    Database :=
  match (db.partitionDownloadRequests.lookup requestId).filter (·.orgId = orgId) with
  | none => db
  | some row =>
    (db.releaseDownloadCandidates orgId requestId now).terminate requestId row .failed
      "PARTITION_DOWNLOAD_STALE" now

/-- `invalidatePartitionDownloadsForPartitions` -/
def invalidateDownloads (db : Database) (orgId : String) (partitionIds : List String) (now : ℕ) :
    Database :=
  let candidates := db.partitionDownloadRequests.findMany fun _ r =>
    r.orgId = orgId && r.manifest.any partitionIds.contains
  ((candidates.map (·.1)).insertionSort (· ≤ ·)).foldl (invalidateDownload orgId now) db

end Database
end SmeDataCenter
