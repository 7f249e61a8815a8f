import SmeDataCenter.Fallible
import SmeDataCenter.Runs
import SmeDataCenter.Table
import SmeDataCenter.WorkflowLivePolicy

/-!
# Runs, installations and control of one workflow

The row of a workflow, its runs and its installations. An installation is assigned to the
workflow by a takeover; it starts runs, holds the lease of one, records what it did and finishes
it; an administrator changes the configuration, the authorizations and the control state. Each
operation is a transaction on the locked row: it computes the new state, or an error. What a
check finds in other tables (stores, authorizations, partitions, actions) is an answer that the
call carries.
-/

namespace SmeDataCenter
namespace WorkflowRuns

inductive RunError where
  | permissionDenied
  | installationMismatch
  | controlRevoked
  | busy
  | configurationRequired
  | versionConflict
  | versionIncompatible
  | sourceUnavailable
  | sourceMappingConflict
  | actionUnknown
  /-- A unique index refuses the row. -/
  | duplicate
  deriving DecidableEq

inductive ControlState where
  | active
  | paused
  | revoked
  deriving DecidableEq

inductive InstallationState where
  | notInstalled
  | pending
  | paused
  | enabled
  | revoked
  deriving DecidableEq

/-- What a host said of the task it schedules. -/
structure HostSnapshot where
  taskId : String
  projectRef : String
  cron : String
  model : String
  reasoningEffort : String
  paused : Bool
  verifiedAt : ℕ
  deriving DecidableEq

structure ReadinessCheck where
  capability : String
  ready : Bool
  checkedAt : ℕ

inductive FirstRunVerification where
  | notRun
  | verified
  | failed
  | partly
  deriving DecidableEq

structure WorkflowInstallation where
  employeeId : String
  version : ℕ := 1
  deviceAlias : String
  launcherVersion : String
  workflowPackageVersion : String
  state : InstallationState := .pending
  hostSnapshot : Option HostSnapshot := none
  readinessChecks : List ReadinessCheck := []
  firstRunVerification : FirstRunVerification := .notRun

inductive RunStatus where
  | running
  | succeeded
  | incomplete
  | needsAttention
  | failed
  | unknown
  deriving DecidableEq

inductive RunPhase where
  | preparing
  | collecting
  | validating
  | processing
  | delivering
  | verifying
  | cleaning
  | finished
  deriving DecidableEq

inductive ObservationStatus where
  | observedZero
  | noSource
  | unreadable
  | incomplete
  | confirmed
  deriving DecidableEq

structure Observation where
  dataset : WorkflowDataset
  storeName : String
  date : String
  status : ObservationStatus

inductive Cleanup where
  | pending
  | confirmedFilesCleaned
  | retained
  | blocked
  deriving DecidableEq

structure RunSummary where
  phase : RunPhase
  status : RunStatus
  observations : List Observation
  /-- What is left to do, one text for each item. -/
  unresolved : List String
  cleanup : Cleanup

inductive RunMode where
  | scheduled
  | backfill
  deriving DecidableEq

/-- What a run was started with. -/
structure RunSnapshot where
  configurationVersion : ℕ
  integrationVersion : ℕ
  configuration : WorkflowConfiguration
  integration : EnterpriseIntegration
  workflowPackageVersion : String
  window : DateRange

structure WorkflowRun where
  installationId : String
  employeeId : String
  controlVersion : ℕ
  assignmentEpoch : ℕ
  mode : RunMode
  snapshot : RunSnapshot
  restrictivePolicy : Option WorkflowLivePolicy := none
  phase : RunPhase := .preparing
  status : RunStatus := .running
  summary : Option RunSummary := none
  startedAt : ℕ
  renewedAt : ℕ
  finishedAt : Option ℕ := none
  retainUntil : ℕ

structure EnterpriseWorkflow where
  version : ℕ := 0
  controlVersion : ℕ := 0
  controlState : ControlState := .paused
  assignmentEpoch : ℕ := 0
  assignedInstallationId : Option String := none
  leaseRunId : Option String := none
  leaseExpiresAt : Option ℕ := none

/-- The actions of a workflow whose result is not known: the first of their ids, how many there
are, and the latest change of one. -/
structure PendingActions where
  unknownActionIds : List String
  unknownActionCount : ℕ
  unknownLatestChange : Option ℕ
  deriving DecidableEq

/-- `workflowChangeSchema`. Authorizations are rows of another table. -/
inductive WorkflowChange where
  | integration (configuration : EnterpriseIntegration)
  | configuration (configuration : WorkflowConfiguration)
  | authorization
  | control (state : ControlState)

inductive PreviewChange where
  | backfill (installationId : String) (assignmentEpoch : ℕ) (window : DateRange)
  | takeover (installationId : String) (assignmentEpoch : ℕ) (oldInstallationId : Option String)
      (oldHostPaused : Bool) (pending : PendingActions)
  | saved (change : WorkflowChange)

structure WorkflowChangePreview where
  expectedVersion : ℕ
  expectedIntegrationVersion : ℕ
  expectedControlVersion : ℕ
  change : PreviewChange
  confirmationDigest : String
  preparedBy : String
  expiresAt : ℕ
  consumedAt : Option ℕ := none

/-- The rows of one workflow. -/
structure WorkflowState where
  workflow : EnterpriseWorkflow
  /-- The configuration of the current version. -/
  configuration : Option WorkflowConfiguration
  integrationVersion : ℕ
  integration : EnterpriseIntegration
  /-- The scope of orders has to be named when they are uploaded. -/
  orderScopeRequired : Bool
  runs : Table String WorkflowRun
  installations : Table String WorkflowInstallation
  previews : Table String WorkflowChangePreview

/-- What the checks on other tables answer during a call. -/
structure Checks where
  /-- The mode of the authorization state is `enabled`. -/
  enabled : Bool
  /-- `launcherVersionAtLeast` the version that workflows need. -/
  launcherSupported : String → Bool
  supportsWorkflowPackageVersion : String → Bool
  /-- `validateStores`. -/
  storesValid : List String → Bool
  /-- `validateConfiguration` on a configuration and an integration. -/
  valid : WorkflowConfiguration → Option EnterpriseIntegration → Bool
  /-- `requireRead` on the stores of a weekly report. -/
  readable : List String → Bool
  /-- The window of the schedule at the time of the call. -/
  scheduledWindow : DateRange
  /-- There are rows of a dataset for a store on a day. -/
  present : Observation → Bool
  /-- The actions of a run that are confirmed, and those that may still happen. -/
  confirmedActions : String → ℕ
  pendingActions : String → ℕ
  pending : PendingActions
  /-- The authorizations of a change can be granted and revoked. -/
  authorizations : Bool
  /-- The impact of a change of the integration is the one that was previewed. -/
  sameImpact : Bool

/-- A call: who makes it, when, and what the other tables say then. -/
structure Call where
  actorId : String
  now : ℕ
  checks : Checks

/-- `leaseSeconds` and `runRetentionDays`, in milliseconds. -/
def leaseTime : ℕ := 120 * 1000

def runRetention : ℕ := 90 * 86400000

def previewTime : ℕ := 900000

namespace WorkflowState

/-- The lease of the workflow is running. -/
def leased (s : WorkflowState) (now : ℕ) : Bool :=
  s.workflow.leaseRunId.isSome && s.workflow.leaseExpiresAt.any (now < ·)

def getInstallation (s : WorkflowState) (call : Call) (installationId : String)
    (allowRevoked : Bool) : Except RunError WorkflowInstallation :=
  match s.installations.lookup installationId with
  | none => .error .installationMismatch
  | some row =>
    if row.employeeId ≠ call.actorId || (row.state = .revoked && !allowRevoked) then
      .error .installationMismatch
    else .ok row

end WorkflowState

/-! ### Binding -/

structure RunBinding where
  installationId : String
  runId : String
  assignmentEpoch : ℕ
  controlVersion : ℕ

namespace WorkflowState

/-- `requireBinding`: the run and the installation that a call is made for. -/
def requireBinding (s : WorkflowState) (call : Call) (binding : RunBinding)
    (requireLease : Bool) : Except RunError (WorkflowRun × WorkflowInstallation) := do
  let install ← s.getInstallation call binding.installationId false
  if s.workflow.controlState ≠ .active ||
      s.workflow.controlVersion ≠ binding.controlVersion then .error .controlRevoked
  else if s.workflow.assignedInstallationId ≠ some binding.installationId ||
      s.workflow.assignmentEpoch ≠ binding.assignmentEpoch || install.state ≠ .enabled then
    .error .installationMismatch
  else match s.runs.lookup binding.runId with
    | none => .error .installationMismatch
    | some run =>
      if run.installationId ≠ binding.installationId || run.employeeId ≠ call.actorId ||
          run.assignmentEpoch ≠ binding.assignmentEpoch || run.finishedAt.isSome then
        .error .installationMismatch
      else if requireLease && (s.workflow.leaseRunId ≠ some binding.runId ||
          s.workflow.leaseExpiresAt.all (· ≤ call.now)) then .error .busy
      else if s.configuration.isNone then .error .configurationRequired
      else .ok (run, install)

/-- `requireRunRead`: a weekly report needs its stores to be readable. -/
def requireRunRead (call : Call) (configuration : WorkflowConfiguration) : Except RunError Unit :=
  if configuration.type = .weeklyReport && !call.checks.readable configuration.storeNames then
    .error .permissionDenied
  else .ok ()

end WorkflowState

/-! ### Readiness -/

/-- The capabilities a workflow needs. -/
def requiredCapabilities (type : WorkflowType) : List String :=
  ["configuration", "permissions", "workspace", "dependencies", "host_schedule", "host_timezone",
    "host_model"] ++
  match type with
  | .dailyIngestion => ["download", "meituan_erp"]
  | .reviewOperations => ["meituan_reviews"]
  | .weeklyReport => ["download"]

/-- A capability was found ready within a day. -/
def WorkflowInstallation.readyFor (install : WorkflowInstallation) (now : ℕ)
    (capability : String) : Bool :=
  install.readinessChecks.any fun check =>
    check.capability = capability && check.ready && check.checkedAt ≤ now + 60000 &&
      now < check.checkedAt + 86400000

namespace WorkflowState

def requireReady (s : WorkflowState) (call : Call) (installationId : String)
    (allowRevoked : Bool) : Except RunError WorkflowInstallation := do
  let install ← s.getInstallation call installationId allowRevoked
  match s.configuration with
  | none => .error .configurationRequired
  | some config =>
    if !call.checks.valid config (some s.integration) then .error .sourceMappingConflict
    else if !call.checks.launcherSupported install.launcherVersion ||
        !call.checks.supportsWorkflowPackageVersion install.workflowPackageVersion then
      .error .versionIncompatible
    else if install.hostSnapshot.isNone then .error .sourceUnavailable
    else if !(requiredCapabilities config.type).all (install.readyFor call.now) then
      .error .sourceUnavailable
    else .ok install

/-! ### Run operations -/

end WorkflowState

structure StartInput where
  installationId : String
  assignmentEpoch : ℕ
  expectedConfigurationVersion : ℕ
  expectedIntegrationVersion : ℕ
  expectedControlVersion : ℕ
  workflowPackageVersion : String
  window : DateRange
  mode : RunMode
  backfillConfirmationDigest : Option String

namespace WorkflowState

/-- The preview of a backfill that a start consumes, or why it is refused. -/
def backfillPreview (s : WorkflowState) (call : Call) (input : StartInput) :
    Except RunError String :=
  match (s.previews.findMany fun _ preview =>
      some preview.confirmationDigest = input.backfillConfirmationDigest &&
        preview.preparedBy = call.actorId && preview.consumedAt.isNone &&
        call.now < preview.expiresAt && preview.expectedVersion = s.workflow.version &&
        preview.expectedIntegrationVersion = s.integrationVersion &&
        preview.expectedControlVersion = s.workflow.controlVersion).head? with
  | none => .error .permissionDenied
  | some (previewId, preview) =>
    match preview.change with
    | .backfill installationId assignmentEpoch window =>
      if installationId ≠ input.installationId || assignmentEpoch ≠ input.assignmentEpoch ||
          window ≠ input.window then .error .permissionDenied
      else .ok previewId
    | _ => .error .permissionDenied

/-- The previews once a start has used the one it needs. -/
def useBackfill (s : WorkflowState) (call : Call) (input : StartInput) :
    Except RunError (Table String WorkflowChangePreview) :=
  match input.mode with
  | .scheduled =>
    if input.window ≠ call.checks.scheduledWindow then .error .permissionDenied
    else .ok s.previews
  | .backfill => do
    let previewId ← s.backfillPreview call input
    return s.previews.update previewId fun preview => { preview with consumedAt := some call.now }

def start (s : WorkflowState) (call : Call) (input : StartInput) (runId : String) :
    Except RunError WorkflowState := do
  let install ← s.requireReady call input.installationId false
  if s.workflow.controlState ≠ .active ||
      s.workflow.controlVersion ≠ input.expectedControlVersion then .error .controlRevoked
  else if s.workflow.assignedInstallationId ≠ some input.installationId ||
      s.workflow.assignmentEpoch ≠ input.assignmentEpoch || install.state ≠ .enabled then
    .error .installationMismatch
  else match s.configuration with
    | none => .error .configurationRequired
    | some config =>
      if s.workflow.version ≠ input.expectedConfigurationVersion ||
          s.integrationVersion ≠ input.expectedIntegrationVersion then .error .versionConflict
      else if !call.checks.supportsWorkflowPackageVersion input.workflowPackageVersion ||
          install.workflowPackageVersion ≠ input.workflowPackageVersion then
        .error .versionIncompatible
      else if !call.checks.valid config (some s.integration) then .error .sourceMappingConflict
      else do
        requireRunRead call config
        -- expiry permits a resumption, never a new window over an unfinished run
        if s.leased call.now then .error .busy
        else if (s.runs.findMany fun _ run => run.finishedAt.isNone) ≠ [] then .error .busy
        else do
          let previews ← s.useBackfill call input
          let run : WorkflowRun :=
            { installationId := input.installationId, employeeId := call.actorId
              controlVersion := s.workflow.controlVersion
              assignmentEpoch := s.workflow.assignmentEpoch, mode := input.mode
              snapshot :=
                { configurationVersion := s.workflow.version
                  integrationVersion := s.integrationVersion, configuration := config
                  integration := s.integration
                  workflowPackageVersion := input.workflowPackageVersion
                  window := input.window }
              startedAt := call.now, renewedAt := call.now
              retainUntil := call.now + runRetention }
          match s.runs.create runId run with
          | none => .error .duplicate
          | some runs => return { s with
              runs, previews
              workflow := { s.workflow with
                leaseRunId := some runId, leaseExpiresAt := some (call.now + leaseTime) } }

def prepareBackfill (s : WorkflowState) (call : Call) (installationId : String)
    (assignmentEpoch : ℕ) (window : DateRange) (windowAllowed : Bool)
    (previewId confirmationDigest : String) : Except RunError WorkflowState := do
  let _ ← s.requireReady call installationId false
  if s.workflow.assignedInstallationId ≠ some installationId ||
      s.workflow.assignmentEpoch ≠ assignmentEpoch then .error .installationMismatch
  else if !windowAllowed then .error .permissionDenied
  else
    let preview : WorkflowChangePreview :=
      { expectedVersion := s.workflow.version, expectedIntegrationVersion := s.integrationVersion
        expectedControlVersion := s.workflow.controlVersion
        change := .backfill installationId assignmentEpoch window, confirmationDigest
        preparedBy := call.actorId, expiresAt := call.now + previewTime }
    match s.previews.create previewId preview with
    | none => .error .duplicate
    | some previews => return { s with previews }

def release (s : WorkflowState) (call : Call) (binding : RunBinding) :
    Except RunError WorkflowState :=
  match (s.runs.lookup binding.runId).filter fun run => run.employeeId = call.actorId &&
      run.installationId = binding.installationId &&
      run.assignmentEpoch = binding.assignmentEpoch with
  | none => .error .installationMismatch
  | some _ =>
    if s.workflow.assignedInstallationId ≠ some binding.installationId ||
        s.workflow.assignmentEpoch ≠ binding.assignmentEpoch ||
        s.workflow.leaseRunId.any (· ≠ binding.runId) then .error .installationMismatch
    else .ok { s with workflow := { s.workflow with leaseRunId := none, leaseExpiresAt := none } }

/-- `renew`, and `resume`, which takes up a lease that has run out. -/
def renew (s : WorkflowState) (call : Call) (binding : RunBinding) (resume : Bool) :
    Except RunError WorkflowState := do
  let (run, install) ← s.requireBinding call binding !resume
  requireRunRead call run.snapshot.configuration
  if resume && s.workflow.leaseRunId.any (· ≠ binding.runId) && s.leased call.now then
    .error .busy
  else if run.snapshot.workflowPackageVersion ≠ install.workflowPackageVersion then
    .error .versionIncompatible
  else return { s with
    workflow := { s.workflow with
      leaseRunId := some binding.runId, leaseExpiresAt := some (call.now + leaseTime) }
    runs := s.runs.update binding.runId fun run =>
      { run with renewedAt := call.now, controlVersion := s.workflow.controlVersion } }

/-- An observation is within what the run was started for. -/
def observationAllowed (snapshot : RunSnapshot) (observation : Observation) : Bool :=
  snapshot.configuration.storeNames.contains observation.storeName &&
    stringLe snapshot.window.startDate observation.date &&
    stringLe observation.date snapshot.window.endDate &&
    match snapshot.configuration with
    | .dailyIngestion _ datasets => datasets.contains observation.dataset
    | _ => true

/-- Why the observations of a summary are refused, if they are. -/
def observationsRefused (call : Call) (snapshot : RunSnapshot) :
    List Observation → Option RunError
  | [] => none
  | observation :: observations =>
    if !observationAllowed snapshot observation then some .permissionDenied
    else if observation.status = .observedZero && observation.dataset ≠ .deliveryLedger &&
        call.checks.present observation then some .sourceMappingConflict
    else observationsRefused call snapshot observations

/-- Why a summary is refused, if it is. -/
def summaryRefused (call : Call) (snapshot : RunSnapshot) (runId : String)
    (summary : RunSummary) : Option RunError :=
  (observationsRefused call snapshot summary.observations).or
    (if summary.cleanup = .confirmedFilesCleaned &&
        ((snapshot.configuration.type = .reviewOperations && summary.status ≠ .succeeded) ||
          call.checks.confirmedActions runId = 0) then some .actionUnknown
    else if call.checks.pendingActions runId ≠ 0 &&
        (summary.status = .succeeded || summary.cleanup = .confirmedFilesCleaned) then
      some .actionUnknown
    else if summary.status = .succeeded && summary.unresolved ≠ [] then some .actionUnknown
    else none)

/-- `record_summary`, and `finish`, which ends the run and its lease. -/
def recordSummary (s : WorkflowState) (call : Call) (binding : RunBinding) (summary : RunSummary)
    (finish : Bool) : Except RunError WorkflowState := do
  let (run, _) ← s.requireBinding call binding true
  requireRunRead call run.snapshot.configuration
  match summaryRefused call run.snapshot binding.runId summary with
  | some refusal => .error refusal
  | none => return { s with
      runs := s.runs.update binding.runId fun run =>
        { run with
          summary := some summary, status := summary.status, phase := summary.phase
          finishedAt := if finish then some call.now else run.finishedAt
          retainUntil := if finish then call.now + runRetention else run.retainUntil }
      workflow := if finish then { s.workflow with leaseRunId := none, leaseExpiresAt := none }
        else s.workflow }

end WorkflowState

inductive RunOperation where
  /-- `windowAllowed`: the window ends before today and is at most a year. -/
  | prepareBackfill (installationId : String) (assignmentEpoch : ℕ) (window : DateRange)
      (windowAllowed : Bool) (previewId confirmationDigest : String)
  | start (input : StartInput) (runId : String)
  | renew (binding : RunBinding)
  | resume (binding : RunBinding)
  | checkActions (binding : RunBinding)
  | recordSummary (binding : RunBinding) (summary : RunSummary)
  | finish (binding : RunBinding) (summary : RunSummary)
  | release (binding : RunBinding)

namespace RunOperation

/-- What may still be done when authorizations are suspended. -/
def always : RunOperation → Bool
  | .release _ | .finish .. | .recordSummary .. => true
  | _ => false

/-- `runOperation`. -/
def execute (s : WorkflowState) (call : Call) (op : RunOperation) :
    Except RunError WorkflowState :=
  match op with
  | .checkActions binding => do
    let _ ← s.requireBinding call binding true
    return s
  | op =>
    if !op.always && !call.checks.enabled then .error .permissionDenied
    else match op with
      | .prepareBackfill installationId assignmentEpoch window windowAllowed previewId
          confirmationDigest =>
        s.prepareBackfill call installationId assignmentEpoch window windowAllowed previewId
          confirmationDigest
      | .start input runId => s.start call input runId
      | .release binding => s.release call binding
      | .renew binding => s.renew call binding false
      | .resume binding => s.renew call binding true
      | .recordSummary binding summary => s.recordSummary call binding summary false
      | .finish binding summary => s.recordSummary call binding summary true
      | .checkActions _ => .ok s

end RunOperation

/-! ### Installation operations -/

/-- `workflowInstallationSchema`. The host is always `codex`, the platform `macos`. -/
structure InstallationInput where
  installationId : String
  deviceAlias : String
  launcherVersion : String
  workflowPackageVersion : String
  hostSnapshot : Option HostSnapshot

/-- The installation says nothing new. -/
def WorkflowInstallation.same (old : WorkflowInstallation) (input : InstallationInput) : Bool :=
  old.deviceAlias = input.deviceAlias && old.launcherVersion = input.launcherVersion &&
    old.workflowPackageVersion = input.workflowPackageVersion &&
    (input.hostSnapshot.isNone || old.hostSnapshot = input.hostSnapshot)

structure TakeoverInput where
  installationId : String
  expectedAssignmentEpoch : ℕ
  previewId : String
  confirmationDigest : String

namespace WorkflowState

def register (s : WorkflowState) (call : Call) (input : InstallationInput) :
    Except RunError WorkflowState :=
  match s.installations.lookup input.installationId with
  | none => .ok { s with
      installations := s.installations.insert input.installationId
        { employeeId := call.actorId, deviceAlias := input.deviceAlias
          launcherVersion := input.launcherVersion
          workflowPackageVersion := input.workflowPackageVersion
          hostSnapshot := input.hostSnapshot } }
  | some old =>
    if old.employeeId ≠ call.actorId then .error .installationMismatch
    else if old.same input then .ok s
    else .ok { s with
      installations := s.installations.update input.installationId fun old =>
        { old with
          deviceAlias := input.deviceAlias, launcherVersion := input.launcherVersion
          workflowPackageVersion := input.workflowPackageVersion
          hostSnapshot := input.hostSnapshot.or old.hostSnapshot
          version := old.version + 1, readinessChecks := [] } }

/-- A run of the installation succeeded with the versions as they are. -/
def verifiedRun (s : WorkflowState) (installationId : String) (install : WorkflowInstallation) :
    Bool :=
  (s.runs.findMany fun _ run => run.installationId = installationId &&
    run.snapshot.configurationVersion = s.workflow.version &&
    run.snapshot.integrationVersion = s.integrationVersion &&
    run.snapshot.workflowPackageVersion = install.workflowPackageVersion &&
    run.status = .succeeded && run.finishedAt.isSome) ≠ []

def recordChecks (s : WorkflowState) (call : Call) (installationId : String)
    (checks : List ReadinessCheck) (firstRunVerification : FirstRunVerification) :
    Except RunError WorkflowState := do
  let old ← s.getInstallation call installationId true
  if ¬ (checks.map (·.capability)).Nodup then .error .sourceUnavailable
  else if firstRunVerification = .verified && !s.verifiedRun installationId old then
    .error .sourceUnavailable
  else return { s with
    installations := s.installations.update installationId fun old =>
      { old with
        version := old.version + 1, readinessChecks := checks, firstRunVerification } }

def recordHost (s : WorkflowState) (call : Call) (installationId : String)
    (hostSnapshot : HostSnapshot) : Except RunError WorkflowState := do
  let _ ← s.getInstallation call installationId true
  return { s with
    installations := s.installations.update installationId fun old =>
      { old with version := old.version + 1, hostSnapshot := some hostSnapshot } }

/-- `activateOrderScope`: a workflow that uploads orders needs their scope. -/
def activateOrderScope (s : WorkflowState) : WorkflowState :=
  match s.configuration with
  | some (.dailyIngestion _ datasets) =>
    if datasets.contains .inStoreOrders then { s with orderScopeRequired := true } else s
  | _ => s

/-- The row of an installation in another state. -/
def setInstallation (s : WorkflowState) (installationId : String) (state : InstallationState) :
    WorkflowState :=
  { s with
    installations := s.installations.update installationId fun old =>
      { old with version := old.version + 1, state } }

def setState (s : WorkflowState) (call : Call) (installationId : String) (expectedVersion : ℕ)
    (state : InstallationState) : Except RunError WorkflowState := do
  let old ← s.getInstallation call installationId false
  if old.version ≠ expectedVersion then .error .versionConflict
  else if state = .enabled then do
    let _ ← s.requireReady call installationId false
    if s.workflow.assignedInstallationId ≠ some installationId ||
        s.workflow.controlState ≠ .active then .error .installationMismatch
    else return s.activateOrderScope.setInstallation installationId state
  else return s.setInstallation installationId state

/-- What `prepare_takeover` and `takeover` ask first. -/
def requireTakeover (s : WorkflowState) (call : Call) (installationId : String)
    (expectedAssignmentEpoch : ℕ) : Except RunError Unit := do
  let _ ← s.requireReady call installationId true
  if s.workflow.assignmentEpoch ≠ expectedAssignmentEpoch then .error .versionConflict
  else if s.leased call.now then .error .busy
  else .ok ()

/-- The host of the assigned installation said that its task is paused. -/
def oldHostPaused (s : WorkflowState) : Bool :=
  match s.workflow.assignedInstallationId with
  | none => true
  | some old => ((s.installations.lookup old).bind (·.hostSnapshot)).any (·.paused)

def prepareTakeover (s : WorkflowState) (call : Call) (installationId : String)
    (expectedAssignmentEpoch : ℕ) (paused : Bool) (previewId confirmationDigest : String) :
    Except RunError WorkflowState := do
  s.requireTakeover call installationId expectedAssignmentEpoch
  if paused && !s.oldHostPaused then .error .busy
  else
    let preview : WorkflowChangePreview :=
      { expectedVersion := s.workflow.version, expectedIntegrationVersion := s.integrationVersion
        expectedControlVersion := s.workflow.controlVersion
        change := .takeover installationId s.workflow.assignmentEpoch
          s.workflow.assignedInstallationId paused call.checks.pending
        confirmationDigest, preparedBy := call.actorId, expiresAt := call.now + previewTime }
    match s.previews.create previewId preview with
    | none => .error .duplicate
    | some previews => return { s with previews }

/-- The change that the caller previewed, for the versions as they are. -/
def previewed (s : WorkflowState) (call : Call) (previewId confirmationDigest : String) :
    Option PreviewChange :=
  ((s.previews.lookup previewId).filter fun preview => preview.preparedBy = call.actorId &&
    preview.confirmationDigest = confirmationDigest && preview.consumedAt.isNone &&
    call.now < preview.expiresAt && preview.expectedVersion = s.workflow.version &&
    preview.expectedIntegrationVersion = s.integrationVersion &&
    preview.expectedControlVersion = s.workflow.controlVersion).map (·.change)

/-- The installation that a workflow is taken from is revoked. -/
def revokeOld (s : WorkflowState) (installationId : String) : WorkflowState :=
  match s.workflow.assignedInstallationId with
  | some old => if old ≠ installationId then s.setInstallation old .revoked else s
  | none => s

/-- Unfinished runs go to the installation that takes the workflow over. -/
def moveRuns (s : WorkflowState) (call : Call) (installationId : String) : WorkflowState :=
  { s with
    workflow := { s.workflow with
      assignedInstallationId := some installationId
      assignmentEpoch := s.workflow.assignmentEpoch + 1, leaseRunId := none
      leaseExpiresAt := none }
    runs := s.runs.updateMany (fun _ run => run.finishedAt.isNone) fun run =>
      { run with
        installationId, employeeId := call.actorId
        assignmentEpoch := s.workflow.assignmentEpoch + 1
        controlVersion := s.workflow.controlVersion } }

/-- The rows once a takeover is confirmed. The installation is enabled when the workflow is
active. -/
def takenOver (s : WorkflowState) (call : Call) (installationId : String) : WorkflowState :=
  let moved := (s.revokeOld installationId).moveRuns call installationId
  if s.workflow.controlState = .active then
    (moved.setInstallation installationId .enabled).activateOrderScope
  else moved.setInstallation installationId .paused

def consume (s : WorkflowState) (call : Call) (previewId : String) : WorkflowState :=
  { s with
    previews := s.previews.update previewId fun preview =>
      { preview with consumedAt := some call.now } }

def takeover (s : WorkflowState) (call : Call) (input : TakeoverInput) :
    Except RunError WorkflowState := do
  s.requireTakeover call input.installationId input.expectedAssignmentEpoch
  match s.previewed call input.previewId input.confirmationDigest with
  | some (.takeover installationId assignmentEpoch oldInstallationId paused pending) =>
    if installationId ≠ input.installationId || assignmentEpoch ≠ s.workflow.assignmentEpoch ||
        oldInstallationId ≠ s.workflow.assignedInstallationId ||
        pending ≠ call.checks.pending then .error .versionConflict
    else if paused && !s.oldHostPaused then .error .busy
    else return (s.takenOver call input.installationId).consume call input.previewId
  | _ => .error .versionConflict

end WorkflowState

inductive InstallationOperation where
  | register (input : InstallationInput)
  | recordChecks (installationId : String) (checks : List ReadinessCheck)
      (firstRunVerification : FirstRunVerification)
  | recordHost (installationId : String) (hostSnapshot : HostSnapshot)
  | setState (installationId : String) (expectedVersion : ℕ) (state : InstallationState)
  | prepareTakeover (installationId : String) (expectedAssignmentEpoch : ℕ) (paused : Bool)
      (previewId confirmationDigest : String)
  | takeover (input : TakeoverInput)

/-- `installOperation`. -/
def InstallationOperation.execute (s : WorkflowState) (call : Call) :
    InstallationOperation → Except RunError WorkflowState
  | .register input => s.register call input
  | .recordChecks installationId checks firstRunVerification =>
    s.recordChecks call installationId checks firstRunVerification
  | .recordHost installationId hostSnapshot => s.recordHost call installationId hostSnapshot
  | .setState installationId expectedVersion state =>
    s.setState call installationId expectedVersion state
  | .prepareTakeover installationId expectedAssignmentEpoch paused previewId confirmationDigest =>
    s.prepareTakeover call installationId expectedAssignmentEpoch paused previewId
      confirmationDigest
  | .takeover input => s.takeover call input

/-! ### Saved changes -/

structure SaveInput where
  expectedVersion : ℕ
  expectedIntegrationVersion : ℕ
  expectedControlVersion : ℕ
  previewId : String
  confirmationDigest : String

namespace WorkflowState

def checkVersions (s : WorkflowState) (expectedVersion expectedIntegrationVersion
    expectedControlVersion : ℕ) : Except RunError Unit :=
  if s.workflow.version ≠ expectedVersion || s.integrationVersion ≠ expectedIntegrationVersion ||
      s.workflow.controlVersion ≠ expectedControlVersion then .error .versionConflict
  else .ok ()

/-- The stores that a change names are there. -/
def changeValid (call : Call) : WorkflowChange → Bool
  | .integration integration =>
    call.checks.storesValid (integration.storeMappings.map (·.storeName))
  | .configuration configuration => call.checks.valid configuration none
  | _ => true

/-- `prepareChange`. -/
def prepareChange (s : WorkflowState) (call : Call) (expectedVersion expectedIntegrationVersion
    expectedControlVersion : ℕ) (change : WorkflowChange)
    (previewId confirmationDigest : String) : Except RunError WorkflowState := do
  s.checkVersions expectedVersion expectedIntegrationVersion expectedControlVersion
  if !changeValid call change then .error .sourceMappingConflict
  else
    let preview : WorkflowChangePreview :=
      { expectedVersion := s.workflow.version, expectedIntegrationVersion := s.integrationVersion
        expectedControlVersion := s.workflow.controlVersion, change := .saved change
        confirmationDigest, preparedBy := call.actorId, expiresAt := call.now + previewTime }
    match s.previews.create previewId preview with
    | none => .error .duplicate
    | some previews => return { s with previews }

section

variable (digest : WorkflowLivePolicy → String)

/-- `restrictRuns`: the limit of a change is recorded on every unfinished run, unless the change
only widens. -/
def restrictRuns (s : WorkflowState) (before after : WorkflowConfiguration)
    (oldSource newSource : EnterpriseIntegration) : WorkflowState :=
  let oldPolicy := workflowLivePolicy before oldSource
  let nextPolicy := workflowLivePolicy after newSource
  if digest oldPolicy = digest (intersectWorkflowLivePolicy oldPolicy nextPolicy) then s
  else { s with
    workflow := { s.workflow with controlVersion := s.workflow.controlVersion + 1 }
    runs := s.runs.updateMany (fun _ run => run.finishedAt.isNone) fun run =>
      { run with
        restrictivePolicy := some (intersectWorkflowLivePolicy
          (run.restrictivePolicy.getD
            (workflowLivePolicy run.snapshot.configuration run.snapshot.integration))
          nextPolicy) } }

/-- The integration of the enterprise is replaced. -/
def saveIntegration (s : WorkflowState) (integration : EnterpriseIntegration) : WorkflowState :=
  let restricted := match s.configuration with
    | some config => s.restrictRuns digest config config s.integration integration
    | none => s
  { restricted with integration, integrationVersion := s.integrationVersion + 1 }

def saveConfiguration (s : WorkflowState) (configuration : WorkflowConfiguration) :
    WorkflowState :=
  let restricted := match s.configuration with
    | some previous => s.restrictRuns digest previous configuration s.integration s.integration
    | none => s
  { restricted with
    configuration := some configuration
    workflow := { restricted.workflow with version := s.workflow.version + 1 } }

/-- What a change makes of the rows, or why it is refused. -/
def applyChange (s : WorkflowState) (call : Call) :
    WorkflowChange → Except RunError WorkflowState
  | .integration integration =>
    if !call.checks.sameImpact then .error .versionConflict
    else if !changeValid call (.integration integration) then .error .sourceMappingConflict
    else .ok (s.saveIntegration digest integration)
  | .configuration configuration =>
    if !changeValid call (.configuration configuration) then .error .sourceMappingConflict
    else .ok (s.saveConfiguration digest configuration)
  | .authorization =>
    if s.configuration.isNone then .error .configurationRequired
    else if !call.checks.authorizations then .error .permissionDenied
    else .ok { s with
      workflow := { s.workflow with controlVersion := s.workflow.controlVersion + 1 } }
  | .control state =>
    if state = .active && s.configuration.isNone then .error .configurationRequired
    else if state = .active && !s.configuration.all (call.checks.valid · (some s.integration)) then
      .error .sourceMappingConflict
    else .ok { s with
      workflow := { s.workflow with
        controlState := state, controlVersion := s.workflow.controlVersion + 1 } }

/-- `saveChange`. -/
def saveChange (s : WorkflowState) (call : Call) (input : SaveInput) :
    Except RunError WorkflowState := do
  s.checkVersions input.expectedVersion input.expectedIntegrationVersion
    input.expectedControlVersion
  match s.previewed call input.previewId input.confirmationDigest with
  | some (.saved change) => do
    return (← s.applyChange digest call change).consume call input.previewId
  | _ => .error .versionConflict

end

/-- The first page of a migration import: the workflow gets the configuration that the manifest
names for it, and the enterprise its integration. -/
def importMigration (s : WorkflowState) (now : ℕ) (configuration : Option WorkflowConfiguration)
    (integration : EnterpriseIntegration) : Except RunError WorkflowState :=
  match configuration with
  | none => .ok { s with integration, integrationVersion := s.integrationVersion + 1 }
  | some configuration =>
    if s.workflow.controlState ≠ .paused || s.workflow.leaseExpiresAt.any (now < ·) then
      .error .versionConflict
    else .ok { s with
      configuration := some configuration, integration
      integrationVersion := s.integrationVersion + 1
      workflow := { s.workflow with
        version := s.workflow.version + 1, controlVersion := s.workflow.controlVersion + 1
        controlState := .paused } }

end WorkflowState

/-! ### Transactions -/

inductive Operation where
  | run (call : Call) (op : RunOperation)
  | installation (call : Call) (op : InstallationOperation)
  | prepareChange (call : Call) (expectedVersion expectedIntegrationVersion
      expectedControlVersion : ℕ) (change : WorkflowChange)
      (previewId confirmationDigest : String)
  | saveChange (call : Call) (input : SaveInput)
  /-- A change of the integration that was saved through another workflow. -/
  | sharedChange (integration : EnterpriseIntegration)
  | importMigration (now : ℕ) (configuration : Option WorkflowConfiguration)
      (integration : EnterpriseIntegration)
  /-- `pruneRetention` on some of the runs. -/
  | pruneRetention (runIds : List String) (now : ℕ)

section

variable (digest : WorkflowLivePolicy → String)

def Operation.execute (s : WorkflowState) : Operation → Except RunError WorkflowState
  | .run call op => op.execute s call
  | .installation call op => op.execute s call
  | .prepareChange call expectedVersion expectedIntegrationVersion expectedControlVersion change
      previewId confirmationDigest =>
    s.prepareChange call expectedVersion expectedIntegrationVersion expectedControlVersion change
      previewId confirmationDigest
  | .saveChange call input => s.saveChange digest call input
  | .sharedChange integration => .ok (s.saveIntegration digest integration)
  | .importMigration now configuration integration =>
    s.importMigration now configuration integration
  | .pruneRetention runIds now => .ok { s with
      runs := s.runs.deleteMany fun id run =>
        runIds.contains id && decide (run.retainUntil < now) && run.finishedAt.isSome }

/-- A refused transaction leaves the rows as they were. -/
def step (s : WorkflowState) (op : Operation) : WorkflowState :=
  Runs.commit s (op.execute digest s)

/-- `ensureWorkflow` has just made the row. -/
def WorkflowState.initial (integrationVersion : ℕ) (integration : EnterpriseIntegration)
    (orderScopeRequired : Bool) : WorkflowState where
  workflow := {}
  configuration := none
  integrationVersion
  integration
  orderScopeRequired
  runs := ∅
  installations := ∅
  previews := ∅

end

end WorkflowRuns
end SmeDataCenter
