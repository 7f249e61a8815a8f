import SmeDataCenter.CalendarDates
import SmeDataCenter.KeysetPages
import SmeDataCenter.ReconciliationPages
import SmeDataCenter.Selections
import SmeDataCenter.TextCodes

/-!
# Internal refreshes

An internal refresh goes through all partitions of an organization, or through the failed items
of another request. Whoever asks for it drives it: begins the request, or finds it under its
idempotency key, and then reads a page outside of any transaction and appends it to the request,
from the cursor that the request is at. Drivers of one request run side by side, fail, and start
again; a page that is appended at a cursor the request has left behind does nothing.

The fingerprint of a request is kept as the text it is the hash of.
-/

namespace SmeDataCenter
namespace InternalRefresh

open Runs LedgerArchive
open Reconciliation (storeBytes)
open Selections (sortBy)
open TextCodes

/-! ### Requests -/

inductive LedgerInternalDates where
  | dates (dates : Option (List String))
  | range (startDate endDate : String)

structure LedgerInternalSelection where
  storeNames : Option (List String)
  dates : LedgerInternalDates

/-- What is refreshed: partitions, or the failed items of a request. -/
inductive RefreshSelection where
  | partitions (selection : LedgerInternalSelection)
  | retry (retryOfRequestId : String)

structure RequestInternalInput where
  orgId : String
  selection : RefreshSelection
  actor : LedgerActor
  idempotencyKey : String

def unitLength (text : String) : ℕ := (text.toList.flatMap codeUnits).length

def normalizeLedgerInternalSelection (selection : LedgerInternalSelection) :
    Except String LedgerInternalSelection :=
  let storeNames := selection.storeNames.map fun names => sortBy storeBytes names.dedup
  if storeNames.any fun names => names.isEmpty ||
      names.any fun name => name = "" || 512 < unitLength name then
    .error "LEDGER_PARTITION_KEY_INVALID"
  else match selection.dates with
  | .dates days =>
    let days := days.map fun days => sortBy id days.dedup
    if days.any fun days => days.isEmpty || days.any fun day => !isLedgerDate day then
      .error "LEDGER_SCOPE_INVALID"
    else .ok ⟨storeNames, .dates days⟩
  | .range startDate endDate =>
    if !isLedgerDate startDate || !isLedgerDate endDate || endDate < startDate then
      .error "LEDGER_SCOPE_INVALID"
    else .ok ⟨storeNames, .range startDate endDate⟩

def RefreshSelection.normalize : RefreshSelection → Except String RefreshSelection
  | .partitions selection => (normalizeLedgerInternalSelection selection).map .partitions
  | .retry requestId => .ok (.retry requestId)

def LedgerActor.isValid : LedgerActor → Bool
  | .employee employeeId => employeeId ≠ "" && unitLength employeeId ≤ 32
  | .operator label => label ≠ "" && unitLength label ≤ 255
  | .systemReconciler reconciliationRunId =>
    reconciliationRunId ≠ "" && unitLength reconciliationRunId ≤ 32

def validateSubmission (input : RequestInternalInput) : Except String Unit :=
  if input.orgId = "" ∨ 64 < unitLength input.orgId ∨ input.idempotencyKey = "" ∨
      255 < unitLength input.idempotencyKey then .error "LEDGER_REQUEST_INVALID"
  else if !LedgerActor.isValid input.actor then .error "LEDGER_ACTOR_INVALID"
  else .ok ()

/-! ### Texts -/

def actorText : LedgerActor → String
  | .employee employeeId => encodeTexts ["employee", employeeId]
  | .operator label => encodeTexts ["operator", label]
  | .systemReconciler reconciliationRunId =>
    encodeTexts ["system_reconciler", reconciliationRunId]

/-- A list that may be null. -/
def listText (texts : Option (List String)) : String :=
  encodeTexts (texts.map encodeTexts).toList

def RefreshSelection.text : RefreshSelection → String
  | .partitions ⟨storeNames, .dates days⟩ =>
    encodeTexts ["dates", listText storeNames, listText days]
  | .partitions ⟨storeNames, .range startDate endDate⟩ =>
    encodeTexts ["range", listText storeNames, startDate, endDate]
  | .retry requestId => encodeTexts ["retry", requestId]

def fingerprint (input : RequestInternalInput) : String :=
  encodeTexts ["internal_refresh", input.orgId, actorText input.actor, input.selection.text]

def RequestInternalInput.begin (input : RequestInternalInput) :
    BeginLedgerInternalRefreshInput where
  orgId := input.orgId
  actor := input.actor
  idempotencyKey := input.idempotencyKey
  requestFingerprint := fingerprint input

/-- What the cursors of an enumeration are bound to. -/
def RequestInternalInput.binding (input : RequestInternalInput) : String :=
  match input.selection with
  | .partitions _ => encodeTexts [input.orgId]
  | .retry requestId => encodeTexts [input.orgId, requestId]

def encodeCursor (binding : String) (position : List String) : String :=
  encodeTexts [binding, encodeTexts position]

def decodePosition (binding : String) (length : ℕ) : Option (List String) → Option (List String)
  | some [found, position] =>
    (decodeTexts position).filter fun position => found = binding && position.length = length
  | _ => none

/-- The position that a cursor stands for; an empty cursor is none. -/
def decodeCursor (binding : String) (length : ℕ) (cursor : Option String) :
    Except String (Option (List String)) :=
  if cursor.all (· = "") then .ok none
  else match decodePosition binding length (cursor.bind decodeTexts) with
  | some position => .ok (some position)
  | none => .error "LEDGER_CURSOR_INVALID"

/-! ### Pages -/

/-- A row of an enumeration: the partition it is about, its position, and whether it is one of
those that are refreshed. -/
structure ListedRow where
  key : LedgerPartitionKey
  position : List String
  selected : Bool

/-- Rows are in the order of the bytes of their positions. -/
def place (position : List String) : List (List ℕ) := position.map storeBytes

def LedgerInternalDates.includes (purchaseDate : String) : LedgerInternalDates → Bool
  | .dates days => days.all (·.contains purchaseDate)
  | .range startDate endDate => startDate ≤ purchaseDate && purchaseDate ≤ endDate

def LedgerInternalSelection.includes (selection : LedgerInternalSelection)
    (key : LedgerPartitionKey) : Bool :=
  selection.storeNames.all (·.contains key.storeName) &&
    selection.dates.includes key.purchaseDate

def RefreshSelection.positionLength : RefreshSelection → ℕ
  | .partitions _ => 2
  | .retry _ => 1

/-- What a driver is at. -/
inductive Stage where
  /-- Is there a request to retry? -/
  | checking
  | prepared
  | reading (requestId : String) (cursor : Option String)
  | holding (requestId : String) (cursor : Option String) (keys : List LedgerPartitionKey)
      (nextCursor : Option String)

/-- The request that is driven. -/
def Stage.requestId : Stage → Option String
  | .checking | .prepared => none
  | .reading requestId _ | .holding requestId _ _ _ => some requestId

structure Driver where
  input : RequestInternalInput
  stage : Stage

/-- The database, the partitions of the rows that count (of every organization), and the drivers
under way. -/
structure System where
  db : Database := {}
  facts : List LedgerPartitionKey := []
  drivers : Table ℕ Driver := ∅

namespace System

/-- The facts together with the index. -/
def partitionKeys (s : System) (orgId : String) : List LedgerPartitionKey :=
  ((s.facts ++ (s.db.ledgerPdfPartitions.findMany fun _ _ => true).map (·.1)).filter
    fun key => key.orgId = orgId).dedup

def rows (s : System) (input : RequestInternalInput) : List ListedRow :=
  match input.selection with
  | .partitions selection => (s.partitionKeys input.orgId).map fun key =>
    ⟨key, [key.storeName, key.purchaseDate], selection.includes key⟩
  | .retry requestId =>
    (s.db.ledgerArtifactRequestItems.findMany fun _ item =>
      item.orgId = input.orgId && item.requestId = requestId).map fun (id, item) =>
        ⟨item.partitionId, [id], item.status = .failed⟩

/-- A refresh of the organization. -/
def isRefresh (s : System) (orgId requestId : String) : Bool :=
  (s.db.ledgerArtifactRequests.lookup requestId).any fun request =>
    request.orgId = orgId && request.kind = .refresh

/-- What a page is refused for. -/
def pageError (s : System) (input : RequestInternalInput) (keys : List LedgerPartitionKey) :
    Option String :=
  match input.selection with
  | .partitions _ =>
    if keys.any fun key => !isLedgerDate key.purchaseDate then some "LEDGER_SCOPE_INVALID"
    else none
  | .retry requestId =>
    if s.isRefresh input.orgId requestId then none else some "LEDGER_REQUEST_NOT_FOUND"

/-- A page of `previewAllPartitions` or of `previewFailedRequest`. -/
def previewPage (s : System) (input : RequestInternalInput) (cursor : Option String) :
    Except String (List LedgerPartitionKey × Option String) := do
  let position ← decodeCursor input.binding input.selection.positionLength cursor
  let (rows, last) := KeysetPages.page (fun row => place row.position) (s.rows input)
    (position.map place) ledgerPageSize
  let keys := (rows.filter (·.selected)).map (·.key)
  match s.pageError input keys with
  | some code => throw code
  | none => return (keys, last.map fun row => encodeCursor input.binding row.position)

/-! ### Steps -/

def put (s : System) (n : ℕ) (driver : Driver) : System :=
  { s with drivers := s.drivers.insert n driver }

/-- The driver is done, or cut off. -/
def drop (s : System) (n : ℕ) : System :=
  { s with drivers := s.drivers.deleteMany fun k _ => k = n }

/-- `findIdempotentRequest` -/
def findIdempotentRequest (s : System) (input : RequestInternalInput) : Except String Bool :=
  match s.db.findRequest input.orgId input.idempotencyKey with
  | none => .ok false
  | some (_, existing) =>
    if existing.requestFingerprint ≠ fingerprint input then .error "LEDGER_IDEMPOTENCY_CONFLICT"
    else .ok true

/-- The driver of a request; a retry that is new still has to find what it retries. -/
def prepare (s : System) (input : RequestInternalInput) : Except String Driver := do
  validateSubmission input
  let selection ← input.selection.normalize
  let input := { input with selection }
  match selection with
  | .partitions _ => return ⟨input, .prepared⟩
  | .retry _ =>
    let found ← s.findIdempotentRequest input
    return ⟨input, if found then .prepared else .checking⟩

def start (s : System) (n : ℕ) (input : RequestInternalInput) : System :=
  match s.drivers.lookup n, s.prepare input with
  | none, .ok driver => s.put n driver
  | _, _ => s

/-- The request to retry is there, and has failed items. -/
def isRetryable (s : System) (input : RequestInternalInput) : Bool :=
  match input.selection with
  | .partitions _ => true
  | .retry requestId => s.isRefresh input.orgId requestId && (s.rows input).any (·.selected)

def checkParent (s : System) (n : ℕ) (driver : Driver) : System :=
  match driver.stage with
  | .checking => if s.isRetryable driver.input then s.put n { driver with stage := .prepared }
    else s.drop n
  | _ => s

/-- The driver goes on from the state of the request, until it is complete. -/
def proceed (s : System) (n : ℕ) (driver : Driver) :
    Except WorkerError LedgerInternalRefreshState → System
  | .error _ => s.drop n
  | .ok state =>
    if state.complete then s.drop n
    else s.put n { driver with stage := .reading state.requestId state.cursor }

def begin (s : System) (n : ℕ) (requestId : String) (refused : Option String)
    (driver : Driver) : System :=
  match driver.stage with
  | .prepared =>
    let result := s.db.beginInternalRefresh driver.input.begin requestId refused
    ({ s with db := s.db.after result } : System).proceed n driver (result.map (·.1))
  | _ => s

def readPage (s : System) (n : ℕ) (refused : Option String) (driver : Driver) : System :=
  match driver.stage, refused with
  | .reading _ _, some _ => s.drop n
  | .reading requestId cursor, none =>
    match s.previewPage driver.input cursor with
    | .error _ => s.drop n
    | .ok (keys, nextCursor) =>
      s.put n { driver with stage := .holding requestId cursor keys nextCursor }
  | _, _ => s

def append (s : System) (n : ℕ) (ids : RefreshIds) (refused : Option String) (now : ℕ)
    (driver : Driver) : System :=
  match driver.stage with
  | .holding requestId cursor keys nextCursor =>
    let result := s.db.appendInternalRefreshPage
      { orgId := driver.input.orgId, requestId, expectedCursor := cursor, nextCursor, keys } ids
      refused now
    ({ s with db := s.db.after result } : System).proceed n driver (result.map (·.1))
  | _ => s

end System

/-- What happens in the system. `refused` is what the lengths of the keys, the organization or
the database throw. -/
inductive Event where
  /-- Any other operation on the database; pages are appended by drivers only. -/
  | operation (op : Operation)
  /-- The rows that count have become others. -/
  | setFacts (facts : List LedgerPartitionKey)
  | start (n : ℕ) (input : RequestInternalInput)
  | checkParent (n : ℕ)
  | begin (n : ℕ) (requestId : String) (refused : Option String)
  | readPage (n : ℕ) (refused : Option String)
  | append (n : ℕ) (ids : RefreshIds) (refused : Option String) (now : ℕ)
  /-- The driver is aborted, or its process is gone. -/
  | crash (n : ℕ)

/-- What a driver does next. -/
def System.drive (s : System) (n : ℕ) (f : Driver → System) : System :=
  match s.drivers.lookup n with
  | none => s
  | some driver => f driver

def step (config : Option String) (s : System) : Event → System
  | .operation op => if op.pageOf.isSome then s else { s with db := s.db.step config op }
  | .setFacts facts => { s with facts }
  | .start n input => s.start n input
  | .checkParent n => s.drive n (s.checkParent n)
  | .begin n requestId refused => s.drive n (s.begin n requestId refused)
  | .readPage n refused => s.drive n (s.readPage n refused)
  | .append n ids refused now => s.drive n (s.append n ids refused now)
  | .crash n => s.drop n

def run (config : Option String) (events : List Event) : System :=
  events.foldl (step config) {}

end InternalRefresh
end SmeDataCenter
