import SmeDataCenter.DownloadScope
import SmeDataCenter.DownloadStates

/-!
# Concurrent preparations

`prepare` is one transaction, but not one step: it locks the row of the organization, looks for
the request under the idempotency key, counts the active requests of the organization, then those
of the requester, and only then creates one, while other calls do the same and everything else
happens to the requests. The lock of the organization is all that orders the calls. A call that
is rolled back lets go of the lock and is tried again; so is one whose reply is lost after the
commit.
-/

namespace SmeDataCenter

open Runs

/-- Where a call of `prepare` is. From `locked` to `admitted` it holds the lock. -/
inductive PrepareStage where
  | called
  | locked
  /-- There is no request under the key. -/
  | absent (input : PrepareDownloadInput)
  /-- The organization has room, as counted at a time. -/
  | counted (input : PrepareDownloadInput) (countedAt : ℕ)
  | admitted (input : PrepareDownloadInput)
  | returned (requestId : String)
  | refused (error : WorkerError)

def PrepareStage.holdsLock : PrepareStage → Bool
  | .locked | .absent _ | .counted .. | .admitted _ => true
  | .called | .returned _ | .refused _ => false

structure Preparation where
  call : PrepareCall
  stage : PrepareStage

/-- The input of the transaction, with the readable partitions it has found. -/
def PrepareCall.input (call : PrepareCall) (fingerprint : String) (partitionIds : List String)
    (totalBytes : ℕ) : PrepareDownloadInput where
  orgId := call.orgId
  requesterId := call.requesterId
  idempotencyKey := call.idempotencyKey
  fingerprint := fingerprint
  partitionIds := partitionIds
  totalBytes := totalBytes

/-- The database, the time and the calls. -/
structure PrepareSystem where
  db : Database := {}
  clock : ℕ := 0
  calls : Table ℕ Preparation := ∅

inductive PrepareAction where
  | arrive (id : ℕ) (call : PrepareCall)
  | lock (id : ℕ)
  /-- `refused` is what the authority of the requester throws. -/
  | look (id : ℕ) (refused : Option String) (partitionIds : List String) (totalBytes : ℕ)
  | countOrg (id : ℕ)
  | countRequester (id : ℕ)
  | create (id : ℕ) (requestId runId : String)
  | rollBack (id : ℕ)
  | loseReply (id : ℕ)
  /-- Another operation on downloads. -/
  | other (op : Operation)
  | tick (milliseconds : ℕ)

/-- What the calls share: how texts are normalized and hashed, and the limits. -/
structure PrepareServices where
  normalize : String → String
  hash : String → String
  limits : PartitionDownloadLimits
  config : Option String

namespace PrepareSystem

/-- Does no call hold the lock of the organization? -/
def lockFree (s : PrepareSystem) (orgId : String) : Bool :=
  (s.calls.findMany fun _ p => p.call.orgId = orgId && p.stage.holdsLock).isEmpty

/-- The next stage of a call and the database after it, if the call can go on. -/
abbrev Advance := PrepareSystem → Preparation → Option (PrepareStage × Database)

def advance (s : PrepareSystem) (id : ℕ) (f : Advance) : PrepareSystem :=
  match s.calls.lookup id with
  | none => s
  | some p =>
    match f s p with
    | none => s
    | some (stage, db) => { s with db, calls := s.calls.insert id { p with stage } }

def lockOrganization : Advance := fun s p =>
  match p.stage with
  | .called => if s.lockFree p.call.orgId then some (.locked, s.db) else none
  | _ => none

variable (services : PrepareServices)

/-- The authority of the requester, the request under the key, and the size of a new one. -/
def look (refused : Option String) (partitionIds : List String) (totalBytes : ℕ) : Advance :=
  fun s p =>
  match p.stage, p.call.fingerprint services.normalize services.hash with
  | .locked, .ok fingerprint =>
    let input := p.call.input fingerprint partitionIds totalBytes
    match refused, s.db.existingDownload input with
    | some code, _ => some (.refused (.thrown code), s.db)
    | none, some (existingId, existing) =>
      if existing.requestFingerprint ≠ fingerprint then
        some (.refused (.thrown "IDEMPOTENCY_CONFLICT"), s.db)
      else some (.returned existingId, s.db.expireRow existingId existing s.clock s.clock)
    | none, none =>
      if services.limits.maxPartitions < partitionIds.length ||
          services.limits.maxBytes < totalBytes then
        some (.refused (.thrown "PARTITION_DOWNLOAD_LIMIT_EXCEEDED"), s.db)
      else if partitionIds.length ≠ 0 then some (.absent input, s.db)
      else some (.admitted input, s.db)
  | _, _ => none

def countOrg : Advance := fun s p =>
  match p.stage with
  | .absent input =>
    if services.limits.maxActivePerOrg ≤ s.db.activeDownloads input.orgId none s.clock then
      some (.refused (.thrown "PARTITION_DOWNLOAD_ACTIVE_LIMIT_EXCEEDED"), s.db)
    else some (.counted input s.clock, s.db)
  | _ => none

/-- Both counts are of the requests that are active at the time of the first. -/
def countRequester : Advance := fun s p =>
  match p.stage with
  | .counted input countedAt =>
    if services.limits.maxActivePerRequester ≤
        s.db.activeDownloads input.orgId (some input.requesterId) countedAt then
      some (.refused (.thrown "PARTITION_DOWNLOAD_ACTIVE_LIMIT_EXCEEDED"), s.db)
    else some (.admitted input, s.db)
  | _ => none

def create (requestId runId : String) : Advance := fun s p =>
  match p.stage with
  | .admitted input =>
    match s.db.createDownload services.limits input requestId runId s.clock with
    | .ok db => some (.returned requestId, db)
    | .error error => some (.refused error, s.db)
  | _ => none

def rollBack : Advance := fun s p => if p.stage.holdsLock then some (.called, s.db) else none

def loseReply : Advance := fun s p =>
  match p.stage with
  | .returned _ => some (.called, s.db)
  | _ => none

/-- A call begins: its scope and its key are checked before the transaction. -/
def arrive (s : PrepareSystem) (id : ℕ) (call : PrepareCall) : PrepareSystem :=
  if id ∈ s.calls then s
  else
    let stage := match call.fingerprint services.normalize services.hash with
      | .ok _ => PrepareStage.called
      | .error error => .refused error
    { s with calls := s.calls.insert id { call, stage } }

def step (s : PrepareSystem) : PrepareAction → PrepareSystem
  | .arrive id call => s.arrive services id call
  | .lock id => s.advance id lockOrganization
  | .look id refused partitionIds totalBytes =>
    s.advance id (look services refused partitionIds totalBytes)
  | .countOrg id => s.advance id (countOrg services)
  | .countRequester id => s.advance id (countRequester services)
  | .create id requestId runId => s.advance id (create services requestId runId)
  | .rollBack id => s.advance id rollBack
  | .loseReply id => s.advance id loseReply
  | .other op =>
    if op.ofDownloads && !op.mayCreate then { s with db := s.db.step services.config op } else s
  | .tick milliseconds => { s with clock := s.clock + milliseconds }

end PrepareSystem
end SmeDataCenter
