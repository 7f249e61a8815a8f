import SmeDataCenter.AuthorizationMutations
import SmeDataCenter.CalendarDates
import SmeDataCenter.WorkerCalls

/-!
# Order scope transitions

An in-store source has an order scope, and a partition that was published under another scope is
not replaced by accident: an administrator prepares a preview of the partitions that a source will
move to its scope, and confirms it with the reservation of the upload. The publication compares
the preview with the partitions once more.
-/

namespace SmeDataCenter
namespace OrderScopes

/-- What a preview says of a partition. -/
structure SnapshotRow where
  id : String
  storeKey : String
  storeName : String
  businessDate : String
  version : ℕ
  orderScope : OrderScope
  checksumSha256 : String
  deriving DecidableEq

structure OrderScopeSelection where
  orgId : String
  enterpriseKey : String
  startDate : String
  endDate : String
  storeNames : List String

structure OrderScopeTransitionPreview extends OrderScopeSelection where
  actorId : String
  enterpriseName : String
  orderScope : OrderScope
  sourceChecksumSha256 : String
  snapshot : List SnapshotRow
  confirmationDigest : String
  expiresAt : ℕ
  /-- The job that the preview was confirmed for. -/
  jobId : Option String := none

structure PrepareOrderScopeTransition where
  orgId : String
  actorId : String
  enterpriseName : String
  startDate : String
  endDate : String
  storeNames : List String
  orderScope : OrderScope
  sourceChecksumSha256 : String

structure OrderScopeTransitionConfirmation where
  previewId : String
  confirmationDigest : String

/-- What the tables of authorization and integration say at the time of a call. -/
structure ScopeChecks where
  /-- `requireCurrentUploadAdmin`, by organization and employee. -/
  uploadAdmin : String → String → Bool
  /-- The integration of an enterprise requires a declared scope. -/
  orderScopeRequired : String → String → Bool
  /-- The enterprise is registered, and the stores by exactly these names, none retired. -/
  storesRegistered : String → String → List String → Bool
  /-- What a historical supplement is refused with. -/
  historical : Option String
  /-- What the read requirements of the partitions are refused with. -/
  readRequirement : Option String

structure OrderScopeStore where
  db : Database := {}
  previews : Table String OrderScopeTransitionPreview := ∅

def previewLifetime : ℕ := 30 * 60000

def conflict : WorkerError := .thrown "ORDER_SCOPE_CONFLICT"

/-! ### The snapshot -/

/-- The partition is one of the selection. -/
def OrderScopeSelection.selects (selection : OrderScopeSelection) (identity : PartitionIdentity)
    (row : StructuredPartition) : Bool :=
  identity.orgId = selection.orgId && identity.enterpriseKey = selection.enterpriseKey &&
    identity.dataset = .inStoreOrders && selection.storeNames.contains row.storeName &&
    stringLe selection.startDate identity.businessDate &&
    stringLe identity.businessDate selection.endDate

def snapshotRow (identity : PartitionIdentity) (row : StructuredPartition) : SnapshotRow where
  id := row.id
  storeKey := identity.storeKey
  storeName := row.storeName
  businessDate := identity.businessDate
  version := row.version
  orderScope := row.orderScope.getD .legacyUnknown
  checksumSha256 := row.checksumSha256

/-- By date, then by store. -/
def snapshotLe (a b : SnapshotRow) : Bool :=
  if a.businessDate = b.businessDate then stringLe a.storeKey b.storeKey
  else stringLe a.businessDate b.businessDate

/-- The partitions of a selection as they are. -/
def orderScopeSnapshot (db : Database) (selection : OrderScopeSelection) :
    Except WorkerError (List SnapshotRow) :=
  let rows := db.structuredPartitions.findMany selection.selects
  if 2000 < rows.length then .error (.thrown "ORDER_SCOPE_PREVIEW_LIMIT")
  else .ok ((rows.map fun row => snapshotRow row.1 row.2).insertionSort fun a b => snapshotLe a b)

/-- The candidate is inside what was confirmed. -/
def OrderScopeTransitionPreview.admits (preview : OrderScopeTransitionPreview)
    (candidate : PartitionCandidate) : Bool :=
  candidate.orgId = preview.orgId && candidate.enterpriseKey = preview.enterpriseKey &&
    candidate.dataset = .inStoreOrders && candidate.orderScope = some preview.orderScope &&
    preview.storeNames.contains candidate.storeName &&
    stringLe preview.startDate candidate.businessDate &&
    stringLe candidate.businessDate preview.endDate

/-- `verifyOrderScopeSnapshot`: nothing changed since the preview, and a complete source covers
every partition of it. -/
def verifyOrderScopeSnapshot (db : Database) (preview : OrderScopeTransitionPreview)
    (candidates : Option (List PartitionCandidate)) : Except WorkerError Unit := do
  let current ← orderScopeSnapshot db preview.toOrderScopeSelection
  if current ≠ preview.snapshot then .error conflict
  else match candidates with
    | none => .ok ()
    | some candidates =>
      if !candidates.all preview.admits || current.any (fun row => !candidates.any fun candidate =>
          candidate.storeKey = row.storeKey && candidate.businessDate = row.businessDate) then
        .error conflict
      else .ok ()

/-! ### Preview -/

section

-- what is hashed of a preview
variable (digest : String → OrderScopeTransitionPreview → String)
-- Unicode normalization
variable (nfc : String → String)

/-- `normalizeEnterpriseIdentity`: the key and the name. -/
def enterpriseIdentity (enterpriseName : String) : Except WorkerError (String × String) :=
  match AuthorizationWrites.normalizeEnterpriseIdentity nfc enterpriseName with
  | .error _ => .error (.thrown "PARTITION_STORE_IDENTITY_MISSING")
  | .ok identity => .ok identity

def businessDateValid (date : String) : Bool := (readIsoDate date.toList).isSome

def prepareOrderScopeTransition (s : OrderScopeStore) (input : PrepareOrderScopeTransition)
    (checks : ScopeChecks) (id : String) (now : ℕ) : Except WorkerError OrderScopeStore := do
  let (enterpriseKey, enterpriseName) ← enterpriseIdentity nfc input.enterpriseName
  let storeNames := sortStrings (distinct input.storeNames)
  let selection : OrderScopeSelection :=
    ⟨input.orgId, enterpriseKey, input.startDate, input.endDate, storeNames⟩
  if !checks.uploadAdmin input.orgId input.actorId then .error (.thrown "UPLOAD_ADMIN_REQUIRED")
  else if !checks.storesRegistered input.orgId enterpriseKey storeNames then .error conflict
  else if !businessDateValid input.startDate || !businessDateValid input.endDate then
    .error (.thrown "INVALID_BUSINESS_DATE")
  else
    let snapshot ← orderScopeSnapshot s.db selection
    if snapshot.isEmpty || snapshot.all (·.orderScope = input.orderScope) then .error conflict
    else
      let unsigned : OrderScopeTransitionPreview :=
        { selection with
          actorId := input.actorId, enterpriseName, orderScope := input.orderScope
          sourceChecksumSha256 := input.sourceChecksumSha256, snapshot, confirmationDigest := ""
          expiresAt := now + previewLifetime }
      let previews := s.previews.deleteMany fun _ preview =>
        preview.orgId = input.orgId && preview.expiresAt < now && preview.jobId.isNone
      if 100 ≤ (previews.findMany fun _ preview =>
          preview.orgId = input.orgId && now < preview.expiresAt && preview.jobId.isNone).length then
        .error (.thrown "ORDER_SCOPE_PREVIEW_LIMIT")
      else match previews.create id { unsigned with confirmationDigest := digest id unsigned } with
        | none => .error (.thrown "P2002")
        | some previews => .ok { s with previews }

end

/-! ### Reservation -/

/-- `requireOrderScopeDeclaration`: the scope may be left open. -/
def scopeDeclared (checks : ScopeChecks) (orgId enterpriseKey : String)
    (dataset : PartitionDataset) (scope : Option OrderScope) : Bool :=
  dataset ≠ .inStoreOrders || !checks.orderScopeRequired orgId enterpriseKey ||
    scope.any (· ≠ .legacyUnknown)

/-- The confirmation is of this preview, by its administrator, for this source, in time. -/
def confirms (preview : OrderScopeTransitionPreview) (input : ReserveUploadInput)
    (confirmation : OrderScopeTransitionConfirmation) (now : ℕ) : Bool :=
  preview.orgId = input.orgId && preview.actorId = input.uploaderId && preview.jobId.isNone &&
    now < preview.expiresAt && input.dataset = .inStoreOrders &&
    preview.enterpriseKey = input.enterpriseKey && some preview.orderScope = input.orderScope &&
    preview.sourceChecksumSha256 = input.sourceChecksumSha256 &&
    preview.startDate = input.sourceStartDate && preview.endDate = input.sourceEndDate &&
    preview.confirmationDigest = confirmation.confirmationDigest

def confirmedOrderScopePreview (s : OrderScopeStore) (input : ReserveUploadInput)
    (checks : ScopeChecks) (now : ℕ) (confirmation : OrderScopeTransitionConfirmation) :
    Except WorkerError OrderScopeTransitionPreview :=
  match (s.previews.lookup confirmation.previewId).filter fun preview =>
      confirms preview input confirmation now with
  | none => .error conflict
  | some preview => do
    if !checks.storesRegistered input.orgId input.enterpriseKey preview.storeNames then
      .error conflict
    else
      verifyOrderScopeSnapshot s.db preview none
      return preview

/-- A confirmed preview is bound to the new job; no other preview is. -/
def bindPreview (s : OrderScopeStore) (previewId jobId : String) :
    Except WorkerError OrderScopeStore :=
  if !(s.previews.findMany fun _ preview => preview.jobId = some jobId).isEmpty then
    .error (.thrown "P2025")
  else .ok { s with
    previews := s.previews.updateMany (fun id preview => id = previewId && preview.jobId.isNone)
      fun preview => { preview with jobId := some jobId } }

/-- The request was made before, or is refused for what it says. -/
def answered (db : Database) (input : ReserveUploadInput) : Bool :=
  !validateOrderScopeDataset input.dataset input.orderScope || 3 < input.confidentialityLevel ||
    !(db.partitionImportJobs.findMany fun _ job =>
      job.orgId = input.orgId && job.idempotencyKey = input.idempotencyKey).isEmpty

/-- The new job of a reservation. -/
def createJob (s : OrderScopeStore) (input : ReserveUploadInput) (checks : ScopeChecks) :
    Except WorkerError OrderScopeStore :=
  match checks.historical with
  | some code => .error (.thrown code)
  | none => do
    let db ← s.db.reserveUpload input none
    return { s with db }

def reserveUpload (s : OrderScopeStore) (input : ReserveUploadInput)
    (confirmation : Option OrderScopeTransitionConfirmation) (checks : ScopeChecks) (now : ℕ) :
    Except WorkerError OrderScopeStore :=
  if answered s.db input then do
    let db ← s.db.reserveUpload input none
    return { s with db }
  else if !checks.uploadAdmin input.orgId input.uploaderId then
    .error (.thrown "UPLOAD_ADMIN_REQUIRED")
  else if !scopeDeclared checks input.orgId input.enterpriseKey input.dataset input.orderScope then
    .error (.thrown "ORDER_SCOPE_REQUIRED")
  else match confirmation with
    | none => createJob s input checks
    | some confirmation => do
      let _ ← confirmedOrderScopePreview s input checks now confirmation
      let s ← createJob s input checks
      bindPreview s confirmation.previewId input.id

/-! ### Publication -/

/-- The preview that is bound to a job, with its id. -/
def OrderScopeStore.previewOf (s : OrderScopeStore) (jobId : String) :
    Option (String × OrderScopeTransitionPreview) :=
  (s.previews.findMany fun _ preview => preview.jobId = some jobId).head?

/-- The preview is of the job as it is. -/
def previewFits (preview : OrderScopeTransitionPreview) (job : PartitionImportJob)
    (orgId : String) : Bool :=
  preview.orgId = orgId && preview.actorId = job.uploaderId &&
    preview.enterpriseKey = job.enterpriseKey && some preview.orderScope = job.orderScope &&
    preview.sourceChecksumSha256 = job.sourceChecksumSha256

/-- What the code of an error is. -/
def thrownCode : Except WorkerError Unit → Option String
  | .ok () => none
  | .error (.thrown code) => some code
  | .error .leaseLost => some "LEASE_LOST"

/-- What a publication of the job is refused with. -/
def publishRefusal (s : OrderScopeStore) (job : PartitionImportJob) (input : PublishSourceInput)
    (checks : ScopeChecks) : Option String :=
  if job.dataset = .inStoreOrders && !checks.uploadAdmin input.orgId job.uploaderId then
    some "UPLOAD_ADMIN_REQUIRED"
  else if !scopeDeclared checks input.orgId job.enterpriseKey job.dataset job.orderScope then
    some "ORDER_SCOPE_REQUIRED"
  else
    let transition : Except WorkerError Unit := match s.previewOf input.jobId with
      | none => .ok ()
      | some (_, preview) =>
        if !previewFits preview job input.orgId then .error conflict
        else verifyOrderScopeSnapshot s.db preview (some input.candidates)
    thrownCode transition <|> checks.historical <|> checks.readRequirement

def publishSourceAtomically (s : OrderScopeStore) (input : PublishSourceInput) (lease : Lease)
    (checks : ScopeChecks) (now : ℕ) : Except WorkerError OrderScopeStore := do
  let refused := (s.db.partitionImportJobs.lookup input.jobId).bind fun job =>
    publishRefusal s job input checks
  let db ← s.db.publishSourceAtomically input lease refused (s.previewOf input.jobId).isSome now
  return { s with db }

/-! ### Retention -/

/-- The jobs that ended before a time. -/
def terminalJobs (db : Database) (before limit : ℕ) : List String :=
  (((db.partitionImportJobs.findMany fun _ job =>
    job.status.isTerminal && job.finishedAt.any (· < before)).insertionSort fun a b =>
      a.2.finishedAt.getD 0 ≤ b.2.finishedAt.getD 0).take limit).map (·.1)

/-- The previews of jobs that are about to be deleted are; the jobs were read in `seen`. -/
def deletePreviews (s : OrderScopeStore) (seen : Database) (before limit : ℕ) : OrderScopeStore :=
  { s with
    previews := s.previews.deleteMany fun _ preview =>
      preview.jobId.any (terminalJobs seen before limit).contains }

/-! ### Steps -/

inductive ScopeStep where
  | prepare (input : PrepareOrderScopeTransition) (checks : ScopeChecks) (id : String) (now : ℕ)
  | reserve (input : ReserveUploadInput) (confirmation : Option OrderScopeTransitionConfirmation)
      (checks : ScopeChecks) (now : ℕ)
  | publish (input : PublishSourceInput) (lease : Lease) (checks : ScopeChecks) (now : ℕ)
  | deletePreviews (seen : Database) (before limit : ℕ)
  /-- Anything else that is done to the tables: uploads, leases, ends of jobs, retention. -/
  | elsewhere (db : Database)

/-- A refused transaction leaves the tables as they were. Only a publication writes partitions. -/
def step (digest : String → OrderScopeTransitionPreview → String) (nfc : String → String)
    (s : OrderScopeStore) : ScopeStep → OrderScopeStore
  | .prepare input checks id now =>
    Runs.commit s (prepareOrderScopeTransition digest nfc s input checks id now)
  | .reserve input confirmation checks now =>
    Runs.commit s (reserveUpload s input confirmation checks now)
  | .publish input lease checks now =>
    Runs.commit s (publishSourceAtomically s input lease checks now)
  | .deletePreviews seen before limit => OrderScopes.deletePreviews s seen before limit
  | .elsewhere db =>
    { s with db := { db with structuredPartitions := s.db.structuredPartitions } }

end OrderScopes
end SmeDataCenter
