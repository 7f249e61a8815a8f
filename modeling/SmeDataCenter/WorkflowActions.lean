import SmeDataCenter.BusinessAuthorization
import SmeDataCenter.Runs
import SmeDataCenter.Table
import SmeDataCenter.WorkflowActionIdentity

/-!
# Actions of one workflow

The action and deduplication tables of a workflow and the operations on them. An intent claims
the keys of its action; a receipt records what became of the action and releases the keys when
it failed; a takeover leaves every action in flight unknown. An operation is one transaction:
it returns the new state, or an error and no state. What a check finds in other tables (the
binding of the run, the authorization of an action, the evidence of a receipt) is an answer the
call carries.
-/

namespace SmeDataCenter
namespace WorkflowActions

inductive WorkflowError where
  | permissionDenied
  | versionConflict
  | actionUnknown
  | installationMismatch
  | busy
  | sourceUnavailable
  /-- The input, or a stored record, does not pass its schema. -/
  | invalid
  /-- A unique index refuses the row. -/
  | duplicate
  deriving DecidableEq

inductive ActionState where
  | intent
  | unknown
  | confirmed
  | failed
  deriving DecidableEq

inductive ReceiptState where
  | confirmed
  | failed
  | unknown
  deriving DecidableEq

def ReceiptState.text : ReceiptState → String
  | .confirmed => "confirmed"
  | .failed => "failed"
  | .unknown => "unknown"

/-- The state of an action once the receipt is recorded. -/
def ReceiptState.action : ReceiptState → ActionState
  | .confirmed => .confirmed
  | .failed => .failed
  | .unknown => .unknown

inductive Evidence where
  | serviceStatus
  | launcherTransfer
  | providerReadback
  | smedcReadback
  | manualResolution
  | requestRejected
  | transportUnknown
  deriving DecidableEq

def Evidence.text : Evidence → String
  | .serviceStatus => "service_status"
  | .launcherTransfer => "launcher_transfer"
  | .providerReadback => "provider_readback"
  | .smedcReadback => "smedc_readback"
  | .manualResolution => "manual_resolution"
  | .requestRejected => "request_rejected"
  | .transportUnknown => "transport_unknown"

/-- A date and time: its text, and the instant the text denotes. -/
structure Timestamp where
  text : String
  millis : ℤ

inductive ProviderOutcome where
  | published
  | sent
  | notExecuted
  deriving DecidableEq

def ProviderOutcome.text : ProviderOutcome → String
  | .published => "published"
  | .sent => "sent"
  | .notExecuted => "not_executed"

structure ProviderReadback where
  identityHash : String
  artifactHash : String
  correlationMarker : String
  providerReceiptId : String
  observedAt : Timestamp
  outcome : ProviderOutcome

structure WorkflowActionReceipt where
  actionId : String
  state : ReceiptState
  evidence : Evidence
  receiptId : Option String
  jobId : Option String
  resultHash : Option String
  reason : Option String
  verifiedAt : Timestamp
  providerReadback : Option ProviderReadback

def ProviderReadback.json (proof : ProviderReadback) : Json :=
  .ofFields [("identityHash", some (.str proof.identityHash)),
    ("artifactHash", some (.str proof.artifactHash)),
    ("correlationMarker", some (.str proof.correlationMarker)),
    ("providerReceiptId", some (.str proof.providerReceiptId)),
    ("observedAt", some (.str proof.observedAt.text)),
    ("outcome", some (.str proof.outcome.text))]

def WorkflowActionReceipt.json (receipt : WorkflowActionReceipt) : Json :=
  .ofFields [("actionId", some (.str receipt.actionId)),
    ("state", some (.str receipt.state.text)), ("evidence", some (.str receipt.evidence.text)),
    ("receiptId", receipt.receiptId.map .str), ("jobId", receipt.jobId.map .str),
    ("resultHash", receipt.resultHash.map .str), ("reason", receipt.reason.map .str),
    ("verifiedAt", some (.str receipt.verifiedAt.text)),
    ("providerReadback", receipt.providerReadback.map (·.json))]

/-- `workflowActionReceiptSchema`. -/
def WorkflowActionReceipt.wellFormed (receipt : WorkflowActionReceipt) : Bool :=
  (receipt.state ≠ .confirmed ||
    (receipt.evidence ≠ .requestRejected && receipt.evidence ≠ .transportUnknown &&
      (receipt.receiptId.isSome || receipt.jobId.isSome))) &&
  (receipt.evidence ≠ .manualResolution ||
    decide (0 < (trim (receipt.reason.getD "")).length)) &&
  (receipt.evidence ≠ .transportUnknown || receipt.state = .unknown)

structure WorkflowAction where
  runId : String
  idempotencyKey : String
  identity : WorkflowActionIdentity
  artifactHash : Option String
  correlationMarker : Option String
  state : ActionState
  receipt : Option WorkflowActionReceipt
  createdAt : ℤ
  confirmedAt : Option ℤ

structure WorkflowRun where
  employeeId : String
  installationId : String
  assignmentEpoch : ℕ
  finished : Bool

/-- The installation a workflow is assigned to, and the lease of its running run. -/
structure Assignment where
  installationId : Option String
  epoch : ℕ
  /-- The run that holds the lease, and when the lease expires. -/
  lease : Option (String × ℤ)

/-- The tables of one workflow. `deduplication` maps a key to the action that holds it. -/
structure WorkflowState where
  assignment : Assignment
  runs : Table String WorkflowRun
  actions : Table String WorkflowAction
  deduplication : Table String String

/-- What the checks on other tables answer during a call. -/
structure Checks where
  /-- `requireBinding` passes. -/
  bound : Bool
  /-- `authorizeAction` passes. -/
  authorized : WorkflowActionIdentity → Bool
  /-- The readiness checks a mail needs are recent. -/
  mailReady : Bool
  /-- `getInstallation` passes. -/
  installed : Bool
  /-- Why the service job, launcher transfer or stored reviews behind a receipt do not bear it
  out, if they do not. -/
  unproven : WorkflowAction → WorkflowActionReceipt → Option WorkflowError
  /-- `requireReady` passes, and the confirmed preview of a takeover still matches. -/
  previewMatches : Bool

structure WorkflowActionIntent where
  actionId : String
  identity : WorkflowActionIdentity
  artifactHash : Option String
  correlationMarker : Option String

/-- What `claimAction` returns for one intent. -/
inductive ClaimResult where
  | permitted (actionId : String) (identityHash : String)
  | refused (actionId : String) (state : ActionState) (conflictActionIds : List String)
      (claimedItems requestedItems : ℕ) (identityHash : String)
      (receipt : Option WorkflowActionReceipt)

section

variable (sha256 : String → String)

/-! ### Claiming -/

/-- May a failed action be claimed again? Only on evidence that it was not executed. -/
def reclaimable (sameId : WorkflowAction) (keys : List String) : Except WorkflowError Unit := do
  if sameId.state ≠ .failed || sameId.idempotencyKey ≠ hash sha256 (.strings keys) then
    throw .versionConflict
  match sameId.receipt with
  | none => throw .invalid
  | some receipt =>
    if receipt.state ≠ .failed || !([Evidence.requestRejected, .manualResolution,
        .providerReadback].contains receipt.evidence) then
      throw .actionUnknown

/-- The row of a failed action that is claimed again. -/
def WorkflowAction.reclaim (action : WorkflowAction) (runId : String)
    (intent : WorkflowActionIntent) (now : ℤ) : WorkflowAction :=
  { action with
    runId, state := .intent, identity := intent.identity
    artifactHash := intent.artifactHash, correlationMarker := intent.correlationMarker
    receipt := none, createdAt := now }

/-- The row of an action claimed for the first time. -/
def WorkflowActionIntent.row (intent : WorkflowActionIntent) (runId idempotencyKey : String)
    (now : ℤ) : WorkflowAction :=
  { runId, idempotencyKey, identity := intent.identity
    artifactHash := intent.artifactHash, correlationMarker := intent.correlationMarker
    state := .intent, receipt := none, createdAt := now, confirmedAt := none }

/-- The action table once the intent has its row. -/
def intentRow (s : WorkflowState) (runId : String) (intent : WorkflowActionIntent)
    (keys : List String) (now : ℤ) : Except WorkflowError (Table String WorkflowAction) :=
  match s.actions.lookup intent.actionId with
  | some sameId => do
    reclaimable sha256 sameId keys
    return s.actions.update intent.actionId fun action => action.reclaim runId intent now
  | none =>
    -- the unique index on the idempotency key
    if (s.actions.findMany fun _ action =>
        decide (action.idempotencyKey = hash sha256 (.strings keys))) ≠ [] then
      throw .duplicate
    else
      return s.actions.insert intent.actionId
        (intent.row runId (hash sha256 (.strings keys)) now)

def claimAction (s : WorkflowState) (runId : String) (intent : WorkflowActionIntent) (now : ℤ) :
    Except WorkflowError (WorkflowState × ClaimResult) :=
  let keys := deduplicationKeys sha256 intent.identity ⟨runId, intent.actionId⟩
  match s.deduplication.findMany fun key _ => keys.contains key with
  | (key, actionId) :: rows =>
    -- a partial batch cannot authorize the unclaimed remainder
    match s.actions.lookup actionId with
    | none => throw .invalid
    | some existing => return (s, .refused actionId existing.state
        (distinct (((key, actionId) :: rows).map (·.2))) (rows.length + 1) keys.length
        (hash sha256 existing.identity.json) existing.receipt)
  | [] => do
    let actions ← intentRow sha256 s runId intent keys now
    match s.deduplication.createMany (keys.map fun key => (key, intent.actionId)) with
    | none => throw .duplicate
    | some deduplication =>
      return ({ s with actions, deduplication },
        .permitted intent.actionId (hash sha256 intent.identity.json))

/-- The intents of a call, claimed in order. -/
def claimActions (s : WorkflowState) (runId : String) (now : ℤ) :
    List WorkflowActionIntent → Except WorkflowError (WorkflowState × List ClaimResult)
  | [] => return (s, [])
  | intent :: intents => do
    let (s, result) ← claimAction sha256 s runId intent now
    let (s, results) ← claimActions s runId now intents
    return (s, result :: results)

/-! ### Receipts -/

/-- Who calls, for which run, through which installation. -/
structure Binding where
  actorId : String
  installationId : String
  runId : String
  assignmentEpoch : ℕ

/-- A call that records receipts: `record_receipts`, or `resolve_unknown` with one receipt. -/
structure ReceiptCall where
  binding : Binding
  resolveUnknown : Bool
  now : ℤ
  checks : Checks

def isMail : WorkflowActionIdentity → Bool
  | .email .. => true
  | _ => false

def isExternal : WorkflowActionIdentity → Bool
  | .email .. | .reviewPublish .. => true
  | _ => false

/-- A provider readback names this action and agrees with what the receipt says. -/
def readbackMatches (action : WorkflowAction) (receipt : WorkflowActionReceipt) (now : ℤ)
    (proof : ProviderReadback) : Bool :=
  isExternal action.identity &&
  proof.identityHash = hash sha256 action.identity.json &&
  some proof.artifactHash = action.artifactHash &&
  some proof.correlationMarker = action.correlationMarker &&
  some proof.providerReceiptId = receipt.receiptId &&
  action.createdAt - 60000 ≤ proof.observedAt.millis && proof.observedAt.millis ≤ now + 60000 &&
  (match receipt.state with
    | .confirmed => proof.outcome = if isMail action.identity then .sent else .published
    | .failed => proof.outcome = .notExecuted
    | .unknown => false)

/-- Why the evidence of a receipt is not accepted, if it is not. -/
def evidenceRefusal (call : ReceiptCall) (action : WorkflowAction)
    (receipt : WorkflowActionReceipt) : Option WorkflowError :=
  match receipt.evidence with
  | .serviceStatus | .smedcReadback =>
    if receipt.state ≠ .confirmed then some .actionUnknown
    else call.checks.unproven action receipt
  | .launcherTransfer =>
    (call.checks.unproven action receipt).or
      (if receipt.state ≠ .confirmed then some .actionUnknown else none)
  | .providerReadback =>
    if receipt.providerReadback.any (readbackMatches sha256 action receipt call.now) then none
    else some .actionUnknown
  | .manualResolution | .requestRejected | .transportUnknown => none

/-- Why a receipt is not recorded on its action, if it is not. -/
def receiptRefusal (call : ReceiptCall) (action : WorkflowAction)
    (receipt : WorkflowActionReceipt) : Option WorkflowError :=
  if call.resolveUnknown && action.state ≠ .unknown && action.state ≠ .intent then
    some .actionUnknown
  else if action.state = .unknown && receipt.evidence = .requestRejected then
    some .actionUnknown
  else (evidenceRefusal sha256 call action receipt).or
    (if receipt.state = .failed && !([Evidence.requestRejected, .manualResolution,
        .providerReadback].contains receipt.evidence) then
      some .actionUnknown
    else if receipt.evidence = .requestRejected && receipt.state ≠ .failed then
      some .actionUnknown
    else if call.now + 60000 < receipt.verifiedAt.millis then some .actionUnknown
    else none)

/-- The row of an action once a receipt is recorded on it. -/
def WorkflowAction.record (action : WorkflowAction) (receipt : WorkflowActionReceipt) (now : ℤ) :
    WorkflowAction :=
  { action with
    state := receipt.state.action, receipt := some receipt
    confirmedAt := if receipt.state = .confirmed then some now else none }

/-- The state once a receipt is recorded: a failed action gives its keys back. -/
def applyReceipt (s : WorkflowState) (receipt : WorkflowActionReceipt) (now : ℤ) :
    WorkflowState :=
  { s with
    actions := s.actions.update receipt.actionId fun action => action.record receipt now
    deduplication := if receipt.state = .failed then
      s.deduplication.deleteMany fun _ actionId => decide (actionId = receipt.actionId)
      else s.deduplication }

def WorkflowState.assigned (s : WorkflowState) (binding : Binding) : Bool :=
  s.assignment.installationId = some binding.installationId &&
  s.assignment.epoch = binding.assignmentEpoch

def recordReceipt (call : ReceiptCall) (s : WorkflowState) (receipt : WorkflowActionReceipt) :
    Except WorkflowError WorkflowState :=
  match s.actions.lookup receipt.actionId with
  | none => throw .actionUnknown
  | some action =>
    if action.runId ≠ call.binding.runId &&
        !(call.resolveUnknown && s.assigned call.binding && action.state = .unknown) then
      throw .actionUnknown
    else if action.state = .confirmed then
      if receipt.state ≠ .confirmed || action.receipt.map (hash sha256 ·.json) ≠
          some (hash sha256 receipt.json) then
        throw .actionUnknown
      else return s
    else match receiptRefusal sha256 call action receipt with
      | some refusal => throw refusal
      | none => return applyReceipt s receipt call.now

/-- The receipts of a call, recorded in order. -/
def recordReceipts (call : ReceiptCall) (s : WorkflowState) :
    List WorkflowActionReceipt → Except WorkflowError WorkflowState
  | [] => return s
  | receipt :: receipts => do recordReceipts call (← recordReceipt sha256 call s receipt) receipts

/-! ### Operations -/

inductive Operation where
  | intent (binding : Binding) (actions : List WorkflowActionIntent) (now : ℤ) (checks : Checks)
  | recordReceipts (binding : Binding) (receipts : List WorkflowActionReceipt) (now : ℤ)
      (checks : Checks)
  | resolveUnknown (binding : Binding) (receipt : WorkflowActionReceipt) (now : ℤ)
      (checks : Checks)
  | takeover (actorId installationId : String) (now : ℤ) (checks : Checks)
  /-- Any other workflow operation: runs start and finish, leases are taken and lost, the
  assignment changes, and the tables of actions stay. -/
  | elsewhere (assignment : Assignment) (runs : Table String WorkflowRun)

/-- `actionOperation`, `intent`. -/
def intentOperation (s : WorkflowState) (binding : Binding)
    (intents : List WorkflowActionIntent) (now : ℤ) (checks : Checks) :
    Except WorkflowError (WorkflowState × List ClaimResult) :=
  if ¬ (intents.map (·.actionId)).Nodup then throw .invalid
  else if !checks.bound then throw .installationMismatch
  else if intents.any fun intent => !checks.authorized intent.identity then
    throw .permissionDenied
  else if (intents.any fun intent => isMail intent.identity) && !checks.mailReady then
    throw .sourceUnavailable
  else claimActions sha256 s binding.runId now intents

/-- The run is still the caller's, through the installation and in the epoch it names. -/
def WorkflowRun.original (run : WorkflowRun) (binding : Binding) : Bool :=
  run.employeeId = binding.actorId && run.installationId = binding.installationId &&
  run.assignmentEpoch = binding.assignmentEpoch

/-- `actionOperation`, `record_receipts` and `resolve_unknown`. -/
def receiptOperation (s : WorkflowState) (call : ReceiptCall)
    (receipts : List WorkflowActionReceipt) : Except WorkflowError WorkflowState :=
  match s.runs.lookup call.binding.runId with
  | none => throw .installationMismatch
  | some run =>
    if !receipts.all (·.wellFormed) then throw .invalid
    else if !run.original call.binding && !s.assigned call.binding then
      throw .installationMismatch
    else if s.assigned call.binding && !call.checks.installed then throw .installationMismatch
    else recordReceipts sha256 call s receipts

/-- A receipt that may resolve an unknown action. -/
def resolves (receipt : WorkflowActionReceipt) : Bool :=
  receipt.state ≠ .unknown && receipt.evidence ≠ .requestRejected &&
    receipt.evidence ≠ .transportUnknown

/-- The confirmed takeover of a workflow by another installation. -/
def takeoverOperation (s : WorkflowState) (actorId installationId : String) (now : ℤ)
    (checks : Checks) : Except WorkflowError WorkflowState :=
  if !checks.previewMatches then throw .versionConflict
  else if s.assignment.lease.any fun lease => decide (now < lease.2) then throw .busy
  else return { s with
    assignment := ⟨some installationId, s.assignment.epoch + 1, none⟩
    runs := s.runs.updateMany (fun _ run => !run.finished) fun run =>
      { run with installationId, employeeId := actorId, assignmentEpoch := s.assignment.epoch + 1 }
    actions := s.actions.updateMany (fun _ action => action.state = .intent) fun action =>
      { action with state := .unknown } }

def Operation.execute (s : WorkflowState) : Operation → Except WorkflowError WorkflowState
  | .intent binding actions now checks => do
    let (s, _) ← intentOperation sha256 s binding actions now checks
    return s
  | .recordReceipts binding receipts now checks =>
    receiptOperation sha256 s ⟨binding, false, now, checks⟩ receipts
  | .resolveUnknown binding receipt now checks =>
    if !resolves receipt then throw .invalid
    else receiptOperation sha256 s ⟨binding, true, now, checks⟩ [receipt]
  | .takeover actorId installationId now checks => takeoverOperation s actorId installationId now checks
  | .elsewhere assignment runs => return { s with assignment, runs }

/-- A failed transaction leaves the tables as they were. -/
def step (s : WorkflowState) (op : Operation) : WorkflowState :=
  Runs.commit s (op.execute sha256 s)

/-- A workflow before its first action. -/
def WorkflowState.initial : WorkflowState := ⟨⟨none, 0, none⟩, ∅, ∅, ∅⟩

end

end WorkflowActions
end SmeDataCenter
