import SmeDataCenter.ArchivedDocuments

/-!
# Reservations of import windows

An import of a window or of a snapshot holds a claim on its window from its reservation on. A
reservation looks up its keys and the claim in statements of their own, releases the claim of a
batch that is over, and creates its own batch in a transaction; when a unique key refuses the
transaction, it looks again. Any number of reservations are under way beside the workers.
-/

namespace SmeDataCenter

open Runs

/-! ### Datasets and requests -/

inductive MetadataPolicy where
  | window
  | snapshot
  | derivedReceipt
  | none
  deriving DecidableEq

def ImportDataset.metadataPolicy : ImportDataset → MetadataPolicy
  | .dishes | .business | .inStoreOrders | .takeawayOrders | .vip => .window
  | .dishCatalog => .snapshot
  | .deliveryLedger => .derivedReceipt
  | .supplierCatalog | .costCards => .none

/-- `accessMode === "row_query"` -/
def ImportDataset.isRowQuery : ImportDataset → Bool
  | .vip | .dishCatalog | .deliveryLedger | .supplierCatalog => true
  | _ => false

/-- Does an import of the dataset hold a claim on its window? -/
def ImportDataset.claimsWindow (dataset : ImportDataset) : Bool :=
  dataset.metadataPolicy = .window || dataset.metadataPolicy = .snapshot

/-- An upload, as the route reads it. -/
structure ImportRequest where
  orgId : String
  documentId : String
  dataset : ImportDataset
  enterpriseName : String
  historicalSupplementReason : Option String := none
  startDate : Option String := none
  endDate : Option String := none
  snapshotDate : Option String := none
  naturalKey : Option String := none
  confidentialityLevel : ℕ := 0
  fileHash : String
  idempotencyKey : String
  deriving DecidableEq

/-- What the fingerprint of a request is the digest of. -/
structure ImportFingerprint where
  dataset : ImportDataset
  enterpriseName : String
  historicalSupplementReason : Option String
  snapshotDate : Option String
  startDate : Option String
  endDate : Option String
  naturalKey : Option String
  confidentialityLevel : Option ℕ
  fileHash : String
  deriving DecidableEq

/-- `structuredImportFingerprint`; two requests have one digest when they have one of these. -/
def structuredImportFingerprint (request : ImportRequest) : ImportFingerprint :=
  let policy := request.dataset.metadataPolicy
  let dated := policy = .window ∨ policy = .derivedReceipt
  { dataset := request.dataset, enterpriseName := request.enterpriseName
    historicalSupplementReason := request.historicalSupplementReason
    snapshotDate := if policy = .snapshot then request.snapshotDate else none
    startDate := if dated then request.startDate else none
    endDate := if dated then request.endDate else none
    naturalKey := if policy = .derivedReceipt then request.naturalKey else none
    confidentialityLevel :=
      if request.dataset = .costCards then none else some request.confidentialityLevel
    fileHash := request.fileHash }

/-! ### Tables -/

/-- The columns of a batch that only reservations look at. -/
structure BatchKeys where
  orgId : String
  dataset : ImportDataset
  idempotencyKey : String
  naturalKey : Option String
  requestFingerprint : ImportFingerprint

structure WindowKey where
  orgId : String
  dataset : ImportDataset
  startDate : String
  endDate : String
  deriving DecidableEq

/-- `ImportWindowClaim` -/
structure WindowClaim where
  id : ℕ
  importBatchId : String
  deriving DecidableEq

/-- The window of a batch. -/
def ImportBatch.window (batch : ImportBatch) : Option WindowKey :=
  if batch.dataset.claimsWindow then
    batch.startDate.bind fun startDate => batch.endDate.map fun endDate =>
      ⟨batch.orgId, batch.dataset, startDate, endDate⟩
  else none

def ImportRequest.window (request : ImportRequest) : Option WindowKey :=
  if request.dataset.claimsWindow then
    request.startDate.bind fun startDate => request.endDate.map fun endDate =>
      ⟨request.orgId, request.dataset, startDate, endDate⟩
  else none

/-- The keys of the batch of a request. -/
def ImportRequest.keys (request : ImportRequest) : BatchKeys where
  orgId := request.orgId
  dataset := request.dataset
  idempotencyKey := request.idempotencyKey
  naturalKey := request.naturalKey
  requestFingerprint := structuredImportFingerprint request

/-! ### Reservations under way -/

/-- The statement that a reservation makes next. -/
inductive ReservationStage where
  | findKey
  | findNaturalKey
  | findClaim
  /-- The claim was there; its batch is read. -/
  | findClaimBatch (claim : WindowClaim)
  /-- The batch was applied; its document is read. -/
  | findClaimDocument (claim : WindowClaim) (documentId : String)
  /-- `deleteMany` of the claim of an archived import. -/
  | deleteArchived (claim : WindowClaim)
  /-- `delete` of the claim of an import that was rejected or failed. -/
  | deleteEnded (claim : WindowClaim)
  | create

structure Reservation where
  request : ImportRequest
  /-- A unique key has refused the transaction. -/
  raced : Bool := false
  stage : ReservationStage := .findKey

inductive ReservationState where
  | created
  | resumable
  | existing
  deriving DecidableEq

inductive ReservationAnswer where
  | returned (importBatchId : String) (state : ReservationState)
  | refused (code : String)
  deriving DecidableEq

/-- The tables, the reservations under way, and what was answered. `past` are the databases that
there have been, the latest first. -/
structure WindowStore where
  db : Database := {}
  past : List Database := [{}]
  batchKeys : Table String BatchKeys := ∅
  windowClaims : Table WindowKey WindowClaim := ∅
  nextClaimId : ℕ := 0
  reservations : List Reservation := []
  answers : List (ImportRequest × ReservationAnswer) := []

namespace WindowStore

def moved (s : WindowStore) (db : Database) : WindowStore := { s with db, past := db :: s.past }

/-- The reservation goes on with another statement. -/
def goOn (s : WindowStore) (index : ℕ) (r : Reservation) : WindowStore :=
  { s with reservations := s.reservations.set index r }

def answer (s : WindowStore) (index : ℕ) (request : ImportRequest) (answer : ReservationAnswer) :
    WindowStore :=
  { s with
    reservations := s.reservations.eraseIdx index, answers := (request, answer) :: s.answers }

/-! ### `resolveExistingReservation` -/

def findBatchByKey (s : WindowStore) (orgId idempotencyKey : String) :
    Option (String × BatchKeys) :=
  (s.batchKeys.findMany fun _ keys =>
    keys.orgId = orgId && keys.idempotencyKey = idempotencyKey).head?

def findBatchByNaturalKey (s : WindowStore) (orgId : String) (dataset : ImportDataset)
    (naturalKey : String) : Option (String × BatchKeys) :=
  (s.batchKeys.findMany fun _ keys => keys.orgId = orgId && keys.dataset = dataset &&
    keys.naturalKey = some naturalKey).head?

/-- The batch that was found answers the request, if it was made for the same upload. -/
def resolved (s : WindowStore) (request : ImportRequest) (importBatchId : String)
    (keys : BatchKeys) (conflict : String) : ReservationAnswer :=
  if keys.requestFingerprint ≠ structuredImportFingerprint request then .refused conflict
  else
    let documentId := (s.db.importBatches.lookup importBatchId).map (·.sourceDocumentId)
    let runs := s.db.processingRuns.findMany fun _ run =>
      run.documentId.isSome && run.documentId = documentId && run.jobType = .structuredImport
    .returned importBatchId (if runs.isEmpty then .resumable else .existing)

/-- Nothing answers the request: it creates its batch, or it has lost a race. -/
def unresolved (s : WindowStore) (index : ℕ) (r : Reservation) : WindowStore :=
  if r.raced then s.answer index r.request (.refused "P2002")
  else s.goOn index { r with stage := .create }

/-- The claim of the request's window. -/
def findClaim (s : WindowStore) (index : ℕ) (r : Reservation) : WindowStore :=
  if r.request.dataset.claimsWindow then
    match r.request.window with
    | none => s.answer index r.request (.refused "INVALID_DATE_WINDOW")
    | some key =>
      match s.windowClaims.lookup key with
      | none => s.unresolved index r
      | some claim => s.goOn index { r with stage := .findClaimBatch claim }
  else s.unresolved index r

/-- The batch of a claim that was there. -/
def findClaimBatch (s : WindowStore) (index : ℕ) (r : Reservation) (claim : WindowClaim) :
    WindowStore :=
  match s.db.importBatches.lookup claim.importBatchId with
  | none => s.unresolved index r
  | some batch =>
    if batch.status = .applied then
      s.goOn index { r with stage := .findClaimDocument claim batch.sourceDocumentId }
    else if batch.status = .rejected ∨ batch.status = .failed then
      s.goOn index { r with stage := .deleteEnded claim }
    else s.answer index r.request (.refused "IMPORT_IN_PROGRESS")

/-- The document of an applied batch. -/
def findClaimDocument (s : WindowStore) (index : ℕ) (r : Reservation) (claim : WindowClaim)
    (documentId : String) : WindowStore :=
  if (s.db.documents.lookup documentId).any (·.status = .archived) then
    s.goOn index { r with stage := .deleteArchived claim }
  else s.answer index r.request (.refused "ACTIVE_IMPORT_EXISTS")

/-- The claim, if it still is the batch's. -/
def deleteArchived (s : WindowStore) (index : ℕ) (r : Reservation) (claim : WindowClaim) :
    WindowStore :=
  let windowClaims := s.windowClaims.deleteMany fun _ c =>
    c.id = claim.id && c.importBatchId = claim.importBatchId
  ({ s with windowClaims } : WindowStore).unresolved index r

/-- The claim, which has to be there. -/
def deleteEnded (s : WindowStore) (index : ℕ) (r : Reservation) (claim : WindowClaim) :
    WindowStore :=
  if (s.windowClaims.findMany fun _ c => c.id = claim.id).isEmpty then
    s.answer index r.request (.refused "P2025")
  else
    let windowClaims := s.windowClaims.deleteMany fun _ c => c.id = claim.id
    ({ s with windowClaims } : WindowStore).unresolved index r

/-! ### The transaction -/

/-- A unique key of the batch is taken. -/
def keyTaken (s : WindowStore) (request : ImportRequest) : Bool :=
  (s.findBatchByKey request.orgId request.idempotencyKey).isSome ||
    request.naturalKey.any fun naturalKey =>
      (s.findBatchByNaturalKey request.orgId request.dataset naturalKey).isSome

/-- The claim of a new batch on its window. -/
def createClaim (s : WindowStore) (request : ImportRequest) (importBatchId : String) :
    Except WorkerError WindowStore :=
  if request.dataset.claimsWindow then
    match request.window with
    | none => .error (.thrown "INVALID_DATE_WINDOW")
    | some key => do
      let windowClaims ← createOrThrow s.windowClaims key ⟨s.nextClaimId, importBatchId⟩
      return { s with windowClaims, nextClaimId := s.nextClaimId + 1 }
  else .ok s

/-- The document, the batch and its claim are created, or none of them. -/
def createImport (s : WindowStore) (request : ImportRequest) (importBatchId : String)
    (refused : Option String) : Except WorkerError WindowStore := do
  let input : ReserveStructuredImportInput :=
    { documentId := request.documentId, orgId := request.orgId, dataset := request.dataset
      startDate := request.startDate, endDate := request.endDate }
  let db ← s.db.reserveStructuredImport input importBatchId refused
  if s.keyTaken request then throw (.thrown "P2002")
  else do
    let batchKeys ← createOrThrow s.batchKeys importBatchId request.keys
    ({ s.moved db with batchKeys } : WindowStore).createClaim request importBatchId

/-- A request that loses a race looks again; another error is thrown on. -/
def create (s : WindowStore) (index : ℕ) (r : Reservation) (importBatchId : String)
    (refused : Option String) : WindowStore :=
  match s.createImport r.request importBatchId refused with
  | .ok created => created.answer index r.request (.returned importBatchId .created)
  | .error (.thrown "P2002") => s.goOn index { r with raced := true, stage := .findKey }
  | .error (.thrown code) => s.answer index r.request (.refused code)
  | .error .leaseLost => s.answer index r.request (.refused "PROCESSING_LEASE_LOST")

/-! ### Steps -/

/-- A request comes in; datasets of partitions are refused at once. -/
def start (s : WindowStore) (request : ImportRequest) : WindowStore :=
  if !request.dataset.isRowQuery && request.dataset ≠ .costCards then
    { s with
      answers := (request, .refused "DATASET_REQUIRES_PARTITION_EXTRACT") :: s.answers }
  else { s with reservations := s.reservations ++ [{ request }] }

/-- The next statement of a reservation. A new batch gets the given id, and `refused` is what
the transaction throws for the organization, its authorization and the upload, if it does. -/
def advance (s : WindowStore) (index : ℕ) (importBatchId : String) (refused : Option String) :
    WindowStore :=
  match s.reservations[index]? with
  | none => s
  | some r =>
    match r.stage with
    | .findKey =>
      match s.findBatchByKey r.request.orgId r.request.idempotencyKey with
      | some (id, keys) =>
        s.answer index r.request (s.resolved r.request id keys "IDEMPOTENCY_KEY_CONFLICT")
      | none => s.goOn index { r with stage := .findNaturalKey }
    | .findNaturalKey =>
      match r.request.naturalKey.bind fun naturalKey =>
          if r.request.dataset = .deliveryLedger then
            s.findBatchByNaturalKey r.request.orgId r.request.dataset naturalKey
          else none with
      | some (id, keys) =>
        s.answer index r.request (s.resolved r.request id keys "RECEIPT_ID_CONFLICT")
      | none => s.goOn index { r with stage := .findClaim }
    | .findClaim => s.findClaim index r
    | .findClaimBatch claim => s.findClaimBatch index r claim
    | .findClaimDocument claim documentId => s.findClaimDocument index r claim documentId
    | .deleteArchived claim => s.deleteArchived index r claim
    | .deleteEnded claim => s.deleteEnded index r claim
    | .create => s.create index r importBatchId refused

end WindowStore

inductive WindowStep where
  | start (request : ImportRequest)
  | advance (index : ℕ) (importBatchId : String) (refused : Option String)
  /-- A reservation is given up: its process ends, or a statement of it fails. -/
  | abandon (index : ℕ)
  /-- A claim reads a database that there has been. -/
  | claim (age : ℕ) (workerId : String) (leaseSeconds now : ℕ)
  /-- Another call of a worker. -/
  | call (call : Call)
  /-- Another operation on documents than a reservation. -/
  | document (op : DocumentOperation)

/-- One step. `config` is the retrieval configuration version of the workers. -/
def windowStep (config : Option String) (s : WindowStore) : WindowStep → WindowStore
  | .start request => s.start request
  | .advance index importBatchId refused => s.advance index importBatchId refused
  | .abandon index => { s with reservations := s.reservations.eraseIdx index }
  | .claim age workerId leaseSeconds now =>
    match s.past[age]? with
    | none => s
    | some seen => s.moved (Database.sourceStep config s.db
        (.call (.claimNextProcessingRun seen workerId leaseSeconds now)))
  | .call call =>
    if call.lease.isNone then s else s.moved (Database.sourceStep config s.db (.call call))
  | .document (.reserveStructuredImport ..) => s
  | .document op => s.moved (Database.sourceStep config s.db (.document op))

end SmeDataCenter
