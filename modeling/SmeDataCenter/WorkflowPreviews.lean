import SmeDataCenter.WorkflowRuns

/-!
# Previews of the workflows of an enterprise

The workflows of one enterprise, the integration they share, and the previews of what is to be
done to them. A change of a configuration, of the integration, of the authorizations or of the
control state is prepared and then saved; a takeover is prepared and then made; a backfill is
prepared and then started. All three keep their previews in one table and confirm them by a
digest. A migration writes the configurations and the integration without a preview.

Each operation is a transaction on the locked rows of the integration and of the workflow: it
computes the new state, or an error. What a check finds in other tables (stores, actions) is an
answer that the call carries.
-/

namespace SmeDataCenter
namespace WorkflowPreviews

open WorkflowRuns (ControlState EnterpriseWorkflow PendingActions RunError RunMode RunOperation
  InstallationOperation WorkflowInstallation WorkflowRun WorkflowState leaseTime previewTime
  runRetention)

/-- Who calls, when, and what the other tables say then. -/
abbrev Call := WorkflowRuns.Call

/-! ### Changes -/

/-- `workflowAuthorizationScopeSchema`. -/
inductive AuthorizationScope where
  | upload (datasets : List WorkflowDataset) (storeNames : List String)
  | download (datasets : List WorkflowDataset) (storeNames : List String)
  | reviewSync (channels : List SourceChannel) (storeNames : List String)
  | reviewPublish (channels : List SourceChannel) (storeNames : List String)
  | email (purpose : MailPurpose) (storeNames recipients : List String) (allowedSender : String)
      (deliveryVersion : ℕ)
  deriving DecidableEq

def AuthorizationScope.storeNames : AuthorizationScope → List String
  | .upload _ storeNames => storeNames
  | .download _ storeNames => storeNames
  | .reviewSync _ storeNames => storeNames
  | .reviewPublish _ storeNames => storeNames
  | .email _ storeNames .. => storeNames

/-- `workflowChangeSchema`. -/
inductive WorkflowChange where
  | integration (configuration : EnterpriseIntegration)
  | configuration (configuration : WorkflowConfiguration)
  | authorization (grant : List AuthorizationScope) (revokeAuthorizationIds : List String)
  | control (state : ControlState) (reason : String)
  deriving DecidableEq

structure Dependency where
  workflowId : String
  version : ℕ
  controlVersion : ℕ
  deriving DecidableEq

structure AffectedWorkflow where
  workflowType : WorkflowType
  storeNames : List String
  deriving DecidableEq

/-- What a change of the integration is shown with: the versions of the workflows that depend on
it, and the stores that they lose. -/
structure IntegrationImpact where
  dependencies : List Dependency
  affectedWorkflows : List AffectedWorkflow
  deriving DecidableEq

/-- `takeoverSchema`. -/
structure Takeover where
  installationId : String
  assignmentEpoch : ℕ
  oldInstallationId : Option String
  oldHostPaused : Bool
  pending : PendingActions
  deriving DecidableEq

/-- `backfillSchema`. -/
structure Backfill where
  installationId : String
  assignmentEpoch : ℕ
  window : DateRange
  reason : String
  deriving DecidableEq

/-- The JSON in a preview. The schemas are strict, so that each value passes the one it was made
by and no other. -/
inductive StoredChange where
  | change (change : WorkflowChange)
  /-- `previewEnvelopeSchema`. -/
  | envelope (change : WorkflowChange) (impact : IntegrationImpact)
  | takeover (takeover : Takeover)
  | backfill (backfill : Backfill)
  deriving DecidableEq

structure PrepareInput where
  workflowType : WorkflowType
  expectedVersion : ℕ
  expectedIntegrationVersion : ℕ
  expectedControlVersion : ℕ
  change : WorkflowChange
  deriving DecidableEq

/-- What is hashed: `workflowCanonicalJson` prints each of these in its own way. -/
inductive Hashed where
  | change (previewId actorId : String) (input : PrepareInput) (preparedChange : StoredChange)
  | takeover (actorId previewId : String) (change : Takeover)
  | backfill (previewId actorId : String) (change : Backfill)
  | impact (impact : IntegrationImpact)
  | policy (policy : WorkflowLivePolicy)
  | window (window : DateRange)
  | actionIds (actionIds : List String)
  deriving DecidableEq

/-! ### Rows -/

structure WorkflowAuthorization where
  scope : AuthorizationScope
  configurationVersion : ℕ
  controlVersion : ℕ
  grantedBy : String
  revokedAt : Option ℕ := none
  revokedBy : Option String := none

/-- A preview, with digests in `δ`. -/
structure WorkflowChangePreview (δ : Type) where
  workflowType : WorkflowType
  expectedVersion : ℕ
  expectedIntegrationVersion : ℕ
  expectedControlVersion : ℕ
  change : StoredChange
  confirmationDigest : δ
  preparedBy : String
  expiresAt : ℕ
  consumedAt : Option ℕ := none

/-- A workflow with the rows that belong to it. -/
structure Workflow where
  type : WorkflowType
  row : EnterpriseWorkflow := {}
  /-- By version. -/
  configurations : Table ℕ WorkflowConfiguration := ∅
  authorizations : Table String WorkflowAuthorization := ∅
  runs : Table String WorkflowRun := ∅
  installations : Table String WorkflowInstallation := ∅

/-- The configuration of the current version. -/
def Workflow.configuration (w : Workflow) : Option WorkflowConfiguration :=
  w.configurations.lookup w.row.version

/-- The row of an enterprise's integration as `ensureWorkflow` makes it, with no workflows. -/
structure Enterprise (δ : Type) where
  integrationVersion : ℕ := 0
  integration : EnterpriseIntegration := ⟨[], []⟩
  orderScopeRequired : Bool := false
  workflows : Table String Workflow := ∅
  previews : Table String (WorkflowChangePreview δ) := ∅

namespace Enterprise

variable {δ : Type} [DecidableEq δ] (digest : Hashed → δ) (e : Enterprise δ)

/-! ### Workflows -/

/-- The workflow of a type. -/
def findType (type : WorkflowType) : Option (String × Workflow) :=
  (e.workflows.findMany fun _ w => w.type = type).head?

def ensureWorkflow (type : WorkflowType) (newId : String) :
    Except RunError (String × Enterprise δ) :=
  match e.findType type with
  | some (workflowId, _) => .ok (workflowId, e)
  | none =>
    match e.workflows.create newId { type } with
    | none => .error .duplicate
    | some workflows => .ok (newId, { e with workflows })

def lockWorkflow (workflowId : String) : Except RunError Workflow :=
  match e.workflows.lookup workflowId with
  | none => .error .configurationRequired
  | some w => .ok w

/-- The rows of a workflow, as the operations that need no preview see them. -/
def rows (w : Workflow) : WorkflowState where
  workflow := w.row
  configuration := w.configuration
  integrationVersion := e.integrationVersion
  integration := e.integration
  orderScopeRequired := e.orderScopeRequired
  runs := w.runs
  installations := w.installations
  previews := ∅

/-- The rows of a workflow are written back. -/
def putRows (workflowId : String) (s : WorkflowState) : Enterprise δ :=
  { e with
    orderScopeRequired := s.orderScopeRequired
    workflows := e.workflows.update workflowId fun w =>
      { w with row := s.workflow, runs := s.runs, installations := s.installations } }

def validateConfiguration (call : Call) (w : Workflow) (config : WorkflowConfiguration)
    (source : Option EnterpriseIntegration) : Except RunError Unit :=
  if config.type ≠ w.type || !call.checks.valid config source then .error .sourceMappingConflict
  else .ok ()

def validateStores (call : Call) (integration : EnterpriseIntegration) : Except RunError Unit :=
  if !call.checks.storesValid (integration.storeMappings.map (·.storeName)) then
    .error .sourceMappingConflict
  else .ok ()

/-! ### The impact of a change of the integration -/

/-- The order of the types in the database. -/
def typeIndex : WorkflowType → ℕ
  | .dailyIngestion => 0
  | .reviewOperations => 1
  | .weeklyReport => 2

/-- The workflows of the enterprise, ordered by type. -/
def dependents : List (String × Workflow) :=
  (e.workflows.findMany fun _ _ => true).insertionSort fun a b =>
    typeIndex a.2.type ≤ typeIndex b.2.type

/-- The stores that a configuration loses a source of. -/
def lostStores (config : WorkflowConfiguration) (before after : EnterpriseIntegration) :
    List String :=
  let oldPolicy := workflowLivePolicy config before
  let nextPolicy := intersectWorkflowLivePolicy oldPolicy (workflowLivePolicy config after)
  sortStrings (distinct ((oldPolicy.sources.filter fun s =>
    !nextPolicy.sources.any fun t =>
      t.binding = s.binding && t.storeName = s.storeName).map (·.storeName)))

/-- How a change of the integration affects a workflow, if it does. -/
def affected (before after : EnterpriseIntegration) (w : Workflow) : Option AffectedWorkflow :=
  match w.configuration with
  | none => none
  | some config =>
    let storeNames := lostStores config before after
    if storeNames = [] then none else some ⟨w.type, storeNames⟩

def integrationImpact (after : EnterpriseIntegration) : IntegrationImpact where
  dependencies := e.dependents.map fun d => ⟨d.1, d.2.row.version, d.2.row.controlVersion⟩
  affectedWorkflows := e.dependents.filterMap fun d => affected e.integration after d.2

/-! ### Preparation -/

def checkVersions (w : Workflow) (expectedVersion expectedIntegrationVersion
    expectedControlVersion : ℕ) : Except RunError Unit :=
  if w.row.version ≠ expectedVersion || e.integrationVersion ≠ expectedIntegrationVersion ||
      w.row.controlVersion ≠ expectedControlVersion then .error .versionConflict
  else .ok ()

/-- A preview of a workflow as it is now. -/
def newPreview (call : Call) (w : Workflow) (change : StoredChange) (confirmationDigest : δ) :
    WorkflowChangePreview δ where
  workflowType := w.type
  expectedVersion := w.row.version
  expectedIntegrationVersion := e.integrationVersion
  expectedControlVersion := w.row.controlVersion
  change := change
  confirmationDigest := confirmationDigest
  preparedBy := call.actorId
  expiresAt := call.now + previewTime

def createPreview (call : Call) (w : Workflow) (change : StoredChange) (confirmationDigest : δ)
    (previewId : String) : Except RunError (Enterprise δ) :=
  match e.previews.create previewId (e.newPreview call w change confirmationDigest) with
  | none => .error .duplicate
  | some previews => .ok { e with previews }

/-- The stores that a change names are there. -/
def validateChange (call : Call) (w : Workflow) : WorkflowChange → Except RunError Unit
  | .configuration configuration => validateConfiguration call w configuration none
  | .integration configuration => validateStores call configuration
  | _ => .ok ()

/-- A change as it is stored: one of the integration with its impact. -/
def preparedChange : WorkflowChange → StoredChange
  | .integration configuration =>
    .envelope (.integration configuration) (e.integrationImpact configuration)
  | change => .change change

def prepareChange (call : Call) (input : PrepareInput) (newId previewId : String) :
    Except RunError (Enterprise δ) := do
  let (workflowId, e) ← e.ensureWorkflow input.workflowType newId
  let w ← e.lockWorkflow workflowId
  e.checkVersions w input.expectedVersion input.expectedIntegrationVersion
    input.expectedControlVersion
  validateChange call w input.change
  let prepared := e.preparedChange input.change
  e.createPreview call w prepared (digest (.change previewId call.actorId input prepared))
    previewId

/-! ### Saving -/

/-- The preview with an id that the caller may use for the versions as they are now. -/
def usable (call : Call) (w : Workflow) (previewId : String) (confirmationDigest : δ) :
    Option (WorkflowChangePreview δ) :=
  (e.previews.lookup previewId).filter fun preview => preview.workflowType = w.type &&
    preview.preparedBy = call.actorId && preview.confirmationDigest = confirmationDigest &&
    preview.consumedAt.isNone && call.now < preview.expiresAt &&
    preview.expectedVersion = w.row.version &&
    preview.expectedIntegrationVersion = e.integrationVersion &&
    preview.expectedControlVersion = w.row.controlVersion

/-- The preview is used up. -/
def consume (call : Call) (previewId : String) : Enterprise δ :=
  { e with
    previews := e.previews.update previewId fun preview =>
      { preview with consumedAt := some call.now } }

/-- The change that was stored, with the impact it was shown with, when it passes
`workflowChangeSchema`. -/
def parsedChange : StoredChange → Option (WorkflowChange × Option IntegrationImpact)
  | .change change => some (change, none)
  | .envelope change impact => some (change, some impact)
  | _ => none

/-- The limit of a change is recorded on every unfinished run, unless the change only widens. -/
def restrictRuns (w : Workflow) (before after : WorkflowConfiguration)
    (oldSource newSource : EnterpriseIntegration) : Workflow :=
  let oldPolicy := workflowLivePolicy before oldSource
  let nextPolicy := workflowLivePolicy after newSource
  if digest (.policy oldPolicy) =
      digest (.policy (intersectWorkflowLivePolicy oldPolicy nextPolicy)) then w
  else { w with
    row := { w.row with controlVersion := w.row.controlVersion + 1 }
    runs := w.runs.updateMany (fun _ run => run.finishedAt.isNone) fun run =>
      { run with
        restrictivePolicy := some (intersectWorkflowLivePolicy
          (run.restrictivePolicy.getD
            (workflowLivePolicy run.snapshot.configuration run.snapshot.integration))
          nextPolicy) } }

/-- The row of a workflow is written. -/
def putWorkflow (workflowId : String) (w : Workflow) : Enterprise δ :=
  { e with workflows := e.workflows.update workflowId fun _ => w }

/-- `saveChange`, a configuration. -/
def saveConfiguration (workflowId : String) (w : Workflow) (config : WorkflowConfiguration) :
    Except RunError (Enterprise δ) :=
  let restricted := match w.configuration with
    | some previous => restrictRuns digest w previous config e.integration e.integration
    | none => w
  match w.configurations.create (w.row.version + 1) config with
  | none => .error .duplicate
  | some configurations => .ok (e.putWorkflow workflowId
      { restricted with
        configurations, row := { restricted.row with version := restricted.row.version + 1 } })

/-- A workflow with a configuration depends on the integration that is replaced. -/
def restrictDependent (w : Workflow) (before after : EnterpriseIntegration) : Workflow :=
  match w.configuration with
  | some config => restrictRuns digest w config config before after
  | none => w

/-- `saveChange`, the integration. -/
def saveIntegration (integration : EnterpriseIntegration) : Enterprise δ :=
  { e with
    workflows := e.workflows.mapRows fun _ w =>
      restrictDependent digest w e.integration integration
    integration, integrationVersion := e.integrationVersion + 1 }

/-- How many authorizations have not been revoked. -/
def liveAuthorizations (authorizations : Table String WorkflowAuthorization) : ℕ :=
  (authorizations.findMany fun _ row => row.revokedAt.isNone).length

/-- Some authorizations that have not been revoked are revoked; all that are named have to be. -/
def revokeAuthorizations (call : Call) (authorizations : Table String WorkflowAuthorization)
    (ids : List String) : Except RunError (Table String WorkflowAuthorization) :=
  let named (id : String) (row : WorkflowAuthorization) := ids.contains id && row.revokedAt.isNone
  if ids ≠ [] ∧ (authorizations.findMany named).length ≠ ids.length then .error .versionConflict
  else .ok (authorizations.updateMany named fun row =>
    { row with revokedAt := some call.now, revokedBy := some call.actorId })

/-- The rows of what is granted; `ids` are those that the database gives to new rows. -/
def grantedRows (call : Call) (configurationVersion controlVersion : ℕ) (ids : ℕ → String)
    (grant : List AuthorizationScope) : List (String × WorkflowAuthorization) :=
  grant.zipIdx.map fun scope =>
    (ids scope.2, ⟨scope.1, configurationVersion, controlVersion, call.actorId, none, none⟩)

/-- `saveChange`, the authorizations. -/
def saveAuthorization (call : Call) (workflowId : String) (w : Workflow)
    (grant : List AuthorizationScope) (revokeAuthorizationIds : List String) (ids : ℕ → String) :
    Except RunError (Enterprise δ) :=
  match w.configuration with
  | none => .error .configurationRequired
  | some config =>
    if grant.any fun g => g.storeNames.any fun s => !config.storeNames.contains s then
      .error .configurationRequired
    else do
      let left ← revokeAuthorizations call w.authorizations revokeAuthorizationIds
      if 20 < liveAuthorizations left + grant.length then .error .permissionDenied
      else
        let rows := grantedRows call w.row.version (w.row.controlVersion + 1) ids grant
        match left.createMany rows with
        | none => .error .duplicate
        | some authorizations =>
          return e.putWorkflow workflowId { w with
            authorizations, row := { w.row with controlVersion := w.row.controlVersion + 1 } }

/-- A workflow is activated with a configuration that the integration serves. -/
def validateControl (call : Call) (w : Workflow) (state : ControlState) : Except RunError Unit :=
  if state = .active then
    match w.configuration with
    | none => .error .configurationRequired
    | some config => validateConfiguration call w config (some e.integration)
  else .ok ()

/-- `saveChange`, the control state. -/
def saveControl (call : Call) (workflowId : String) (w : Workflow) (state : ControlState) :
    Except RunError (Enterprise δ) := do
  e.validateControl call w state
  return e.putWorkflow workflowId { w with
    row := { w.row with controlState := state, controlVersion := w.row.controlVersion + 1 } }

/-- What a change makes of the rows, or why it is refused. -/
def applyChange (call : Call) (workflowId : String) (w : Workflow) (ids : ℕ → String)
    (shown : Option IntegrationImpact) : WorkflowChange → Except RunError (Enterprise δ)
  | .integration configuration =>
    match shown with
    | none => .error .versionConflict
    | some shown =>
      if digest (.impact (e.integrationImpact configuration)) ≠ digest (.impact shown) then
        .error .versionConflict
      else do
        validateStores call configuration
        return e.saveIntegration digest configuration
  | .configuration configuration => do
    validateConfiguration call w configuration none
    e.saveConfiguration digest workflowId w configuration
  | .authorization grant revokeAuthorizationIds =>
    e.saveAuthorization call workflowId w grant revokeAuthorizationIds ids
  | .control state _ => e.saveControl call workflowId w state

structure SaveInput (δ : Type) where
  workflowType : WorkflowType
  expectedVersion : ℕ
  expectedIntegrationVersion : ℕ
  expectedControlVersion : ℕ
  previewId : String
  confirmationDigest : δ

def saveChange (call : Call) (input : SaveInput δ) (ids : ℕ → String) :
    Except RunError (Enterprise δ) :=
  match e.findType input.workflowType with
  | none => .error .configurationRequired
  | some (workflowId, w) => do
    e.checkVersions w input.expectedVersion input.expectedIntegrationVersion
      input.expectedControlVersion
    match (e.usable call w input.previewId input.confirmationDigest).bind
        fun preview => parsedChange preview.change with
    | none => .error .versionConflict
    | some (change, shown) => do
      let saved ← e.applyChange digest call workflowId w ids shown change
      return saved.consume call input.previewId

/-! ### Takeovers -/

def prepareTakeover (call : Call) (workflowId installationId : String)
    (expectedAssignmentEpoch : ℕ) (oldHostPaused : Bool) (previewId : String) :
    Except RunError (Enterprise δ) := do
  let w ← e.lockWorkflow workflowId
  (e.rows w).requireTakeover call installationId expectedAssignmentEpoch
  if oldHostPaused && !(e.rows w).oldHostPaused then .error .busy
  else
    let change : Takeover :=
      { installationId, assignmentEpoch := w.row.assignmentEpoch
        oldInstallationId := w.row.assignedInstallationId, oldHostPaused
        pending := call.checks.pending }
    e.createPreview call w (.takeover change) (digest (.takeover call.actorId previewId change))
      previewId

structure TakeoverInput (δ : Type) where
  installationId : String
  expectedAssignmentEpoch : ℕ
  previewId : String
  confirmationDigest : δ

/-- The takeover is the one that was prepared: nothing it was shown with has changed. -/
def sameTakeover (call : Call) (w : Workflow) (installationId : String) (change : Takeover) :
    Bool :=
  change.installationId = installationId && change.assignmentEpoch = w.row.assignmentEpoch &&
    change.oldInstallationId = w.row.assignedInstallationId &&
    digest (.actionIds change.pending.unknownActionIds) =
      digest (.actionIds call.checks.pending.unknownActionIds) &&
    change.pending.unknownActionCount = call.checks.pending.unknownActionCount &&
    change.pending.unknownLatestChange = call.checks.pending.unknownLatestChange

def takeover (call : Call) (workflowId : String) (input : TakeoverInput δ) :
    Except RunError (Enterprise δ) := do
  let w ← e.lockWorkflow workflowId
  (e.rows w).requireTakeover call input.installationId input.expectedAssignmentEpoch
  match (e.usable call w input.previewId input.confirmationDigest).map
      WorkflowChangePreview.change with
  | some (.takeover change) =>
    if !sameTakeover digest call w input.installationId change then .error .versionConflict
    else if change.oldHostPaused && !(e.rows w).oldHostPaused then .error .busy
    else
      let taken := e.putRows workflowId ((e.rows w).takenOver call input.installationId)
      return taken.consume call input.previewId
  | _ => .error .versionConflict

/-! ### Backfills -/

/-- Runs need the authorizations to be enabled. -/
def requireEnabled (call : Call) : Except RunError Unit :=
  if !call.checks.enabled then .error .permissionDenied else .ok ()

/-- `windowAllowed`: the window ends before today and is at most a year. -/
def prepareBackfill (call : Call) (workflowId : String) (backfill : Backfill)
    (windowAllowed : Bool) (previewId : String) : Except RunError (Enterprise δ) := do
  let w ← e.lockWorkflow workflowId
  requireEnabled call
  let _ ← (e.rows w).requireReady call backfill.installationId false
  if w.row.assignedInstallationId ≠ some backfill.installationId ||
      w.row.assignmentEpoch ≠ backfill.assignmentEpoch then .error .installationMismatch
  else if !windowAllowed then .error .permissionDenied
  else
    let confirmationDigest := digest (.backfill previewId call.actorId backfill)
    e.createPreview call w (.backfill backfill) confirmationDigest previewId

/-- The first preview with a digest that the caller may use for the versions as they are now. -/
def confirmed (call : Call) (w : Workflow) (confirmationDigest : δ) :
    Option (String × WorkflowChangePreview δ) :=
  (e.previews.findMany fun _ preview => preview.workflowType = w.type &&
    preview.confirmationDigest = confirmationDigest && preview.preparedBy = call.actorId &&
    preview.consumedAt.isNone && call.now < preview.expiresAt &&
    preview.expectedVersion = w.row.version &&
    preview.expectedIntegrationVersion = e.integrationVersion &&
    preview.expectedControlVersion = w.row.controlVersion).head?

/-- How a run is started: on the schedule, or as the backfill that a digest confirms. -/
inductive StartMode (δ : Type) where
  | scheduled
  | backfill (confirmationDigest : δ)

def StartMode.mode : StartMode δ → RunMode
  | .scheduled => .scheduled
  | .backfill _ => .backfill

structure StartInput (δ : Type) where
  installationId : String
  assignmentEpoch : ℕ
  expectedConfigurationVersion : ℕ
  expectedIntegrationVersion : ℕ
  expectedControlVersion : ℕ
  workflowPackageVersion : String
  window : DateRange
  mode : StartMode δ

/-- The enterprise once a start has used the preview it needs. -/
def usePreview (call : Call) (w : Workflow) (input : StartInput δ) :
    Except RunError (Enterprise δ) :=
  match input.mode with
  | .scheduled =>
    if digest (.window input.window) ≠ digest (.window call.checks.scheduledWindow) then
      .error .permissionDenied
    else .ok e
  | .backfill confirmationDigest =>
    match e.confirmed call w confirmationDigest with
    | none => .error .permissionDenied
    | some (previewId, preview) =>
      match preview.change with
      | .backfill change =>
        if change.installationId ≠ input.installationId ||
            change.assignmentEpoch ≠ input.assignmentEpoch ||
            digest (.window change.window) ≠ digest (.window input.window) then
          .error .permissionDenied
        else .ok (e.consume call previewId)
      | _ => .error .permissionDenied

/-- The run that a start makes. -/
def startedRun (call : Call) (w : Workflow) (config : WorkflowConfiguration)
    (input : StartInput δ) : WorkflowRun :=
  { installationId := input.installationId, employeeId := call.actorId
    controlVersion := w.row.controlVersion, assignmentEpoch := w.row.assignmentEpoch
    mode := input.mode.mode
    snapshot :=
      { configurationVersion := w.row.version, integrationVersion := e.integrationVersion
        configuration := config, integration := e.integration
        workflowPackageVersion := input.workflowPackageVersion, window := input.window }
    startedAt := call.now, renewedAt := call.now, retainUntil := call.now + runRetention }

/-- Why a run is not started, if it is not. -/
def startRefused (call : Call) (w : Workflow) (install : WorkflowInstallation)
    (config : WorkflowConfiguration) (input : StartInput δ) : Option RunError :=
  if w.row.controlState ≠ .active || w.row.controlVersion ≠ input.expectedControlVersion then
    some .controlRevoked
  else if w.row.assignedInstallationId ≠ some input.installationId ||
      w.row.assignmentEpoch ≠ input.assignmentEpoch || install.state ≠ .enabled then
    some .installationMismatch
  else if w.row.version ≠ input.expectedConfigurationVersion ||
      e.integrationVersion ≠ input.expectedIntegrationVersion then some .versionConflict
  else if !call.checks.supportsWorkflowPackageVersion input.workflowPackageVersion ||
      install.workflowPackageVersion ≠ input.workflowPackageVersion then
    some .versionIncompatible
  else if config.type ≠ w.type || !call.checks.valid config (some e.integration) then
    some .sourceMappingConflict
  else if config.type = .weeklyReport && !call.checks.readable config.storeNames then
    some .permissionDenied
  -- expiry permits a resumption, never a new window over an unfinished run
  else if (e.rows w).leased call.now then some .busy
  else if (w.runs.findMany fun _ run => run.finishedAt.isNone) ≠ [] then some .busy
  else none

def start (call : Call) (workflowId : String) (input : StartInput δ) (runId : String) :
    Except RunError (Enterprise δ) := do
  let w ← e.lockWorkflow workflowId
  requireEnabled call
  let install ← (e.rows w).requireReady call input.installationId false
  match w.configuration with
  | none => .error .configurationRequired
  | some config =>
    match e.startRefused call w install config input with
    | some refusal => .error refusal
    | none => do
      let e ← e.usePreview digest call w input
      match w.runs.create runId (e.startedRun call w config input) with
      | none => .error .duplicate
      | some runs =>
        return e.putWorkflow workflowId { w with
          runs
          row := { w.row with
            leaseRunId := some runId, leaseExpiresAt := some (call.now + leaseTime) } }

/-! ### Migrations -/

/-- A workflow of the manifest of a migration, with the versions its target was previewed with. -/
structure MigrationTarget where
  workflowId : String
  version : ℕ
  controlVersion : ℕ
  configuration : WorkflowConfiguration
  authorizations : List AuthorizationScope

/-- The workflow is paused and its lease is not running. -/
def idle (call : Call) (w : Workflow) : Bool :=
  w.row.controlState = .paused && !w.row.leaseExpiresAt.any (call.now < ·)

/-- One target of a migration that is previewed: its workflow is made when it is not there. -/
def previewTarget (call : Call) (integration : EnterpriseIntegration) (target : MigrationTarget) :
    Except RunError (Enterprise δ) := do
  let (workflowId, e) ← e.ensureWorkflow target.configuration.type target.workflowId
  let w ← e.lockWorkflow workflowId
  if workflowId ≠ target.workflowId || !idle call w then .error .busy
  else do
    validateConfiguration call w target.configuration (some integration)
    if target.authorizations.any fun scope => scope.storeNames.any fun s =>
        !target.configuration.storeNames.contains s then .error .permissionDenied
    else return e

/-- `migration_preview`: what it does to the workflows. -/
def previewMigration (call : Call) (targetVersion : ℕ) (integration : EnterpriseIntegration)
    (targets : List MigrationTarget) : Except RunError (Enterprise δ) :=
  if e.integrationVersion ≠ targetVersion then .error .versionConflict
  else do
    validateStores call integration
    targets.foldlM (fun e target => e.previewTarget call integration target) e

/-- The target is as it was previewed. -/
def targetUnchanged (call : Call) (target : MigrationTarget) : Bool :=
  (e.workflows.lookup target.workflowId).any fun w =>
    w.row.version = target.version && w.row.controlVersion = target.controlVersion && idle call w

/-- A target gets the configuration and the authorizations of the manifest. -/
def importTarget (call : Call) (ids : String → ℕ → String) (target : MigrationTarget) :
    Except RunError (Enterprise δ) := do
  let w ← e.lockWorkflow target.workflowId
  match w.configurations.create (target.version + 1) target.configuration with
  | none => .error .duplicate
  | some configurations =>
    let revoked := w.authorizations.updateMany (fun _ row => row.revokedAt.isNone) fun row =>
      { row with revokedAt := some call.now, revokedBy := some call.actorId }
    let rows := grantedRows call (target.version + 1) (target.controlVersion + 1)
      (ids target.workflowId) target.authorizations
    match revoked.createMany rows with
    | none => .error .duplicate
    | some authorizations =>
      return e.putWorkflow target.workflowId { w with
        configurations, authorizations
        row := { w.row with
          version := w.row.version + 1, controlVersion := w.row.controlVersion + 1
          controlState := .paused } }

/-- The first page of a migration import. The pages after it bring actions only. -/
def importMigration (call : Call) (targetVersion : ℕ) (integration : EnterpriseIntegration)
    (targets : List MigrationTarget) (ids : String → ℕ → String) :
    Except RunError (Enterprise δ) :=
  if e.integrationVersion ≠ targetVersion || !targets.all (e.targetUnchanged call) then
    .error .versionConflict
  else do
    let imported ← targets.foldlM (fun e target => e.importTarget call ids target) e
    return { imported with integration, integrationVersion := imported.integrationVersion + 1 }

end Enterprise

/-! ### Transactions -/

/-- The operation on runs needs no preview: it neither prepares nor starts one. -/
def unpreviewedRun : RunOperation → Bool
  | .prepareBackfill .. | .start .. => false
  | _ => true

/-- The operation on installations needs no preview. -/
def unpreviewedInstallation : InstallationOperation → Bool
  | .prepareTakeover .. | .takeover _ => false
  | _ => true

open Enterprise

inductive Operation (δ : Type) where
  | prepareChange (input : PrepareInput) (newId previewId : String)
  | saveChange (input : SaveInput δ) (ids : ℕ → String)
  | prepareTakeover (workflowId installationId : String) (expectedAssignmentEpoch : ℕ)
      (oldHostPaused : Bool) (previewId : String)
  | takeover (workflowId : String) (input : TakeoverInput δ)
  | prepareBackfill (workflowId : String) (backfill : Backfill) (windowAllowed : Bool)
      (previewId : String)
  | start (workflowId : String) (input : StartInput δ) (runId : String)
  | previewMigration (targetVersion : ℕ) (integration : EnterpriseIntegration)
      (targets : List MigrationTarget)
  | importMigration (targetVersion : ℕ) (integration : EnterpriseIntegration)
      (targets : List MigrationTarget) (ids : String → ℕ → String)
  | run (workflowId : String) (op : { op : RunOperation // unpreviewedRun op = true })
  /-- Registration, checks and states of an installation, such as a pause. -/
  | installation (workflowId : String)
      (op : { op : InstallationOperation // unpreviewedInstallation op = true })

section

variable {δ : Type} [DecidableEq δ] (digest : Hashed → δ)

def Operation.execute (e : Enterprise δ) (call : Call) :
    Operation δ → Except RunError (Enterprise δ)
  | .prepareChange input newId previewId => e.prepareChange digest call input newId previewId
  | .saveChange input ids => e.saveChange digest call input ids
  | .prepareTakeover workflowId installationId expectedAssignmentEpoch oldHostPaused previewId =>
    e.prepareTakeover digest call workflowId installationId expectedAssignmentEpoch oldHostPaused
      previewId
  | .takeover workflowId input => e.takeover digest call workflowId input
  | .prepareBackfill workflowId backfill windowAllowed previewId =>
    e.prepareBackfill digest call workflowId backfill windowAllowed previewId
  | .start workflowId input runId => e.start digest call workflowId input runId
  | .previewMigration targetVersion integration targets =>
    e.previewMigration call targetVersion integration targets
  | .importMigration targetVersion integration targets ids =>
    e.importMigration call targetVersion integration targets ids
  | .run workflowId op => do
    let w ← e.lockWorkflow workflowId
    return e.putRows workflowId (← op.val.execute (e.rows w) call)
  | .installation workflowId op => do
    let w ← e.lockWorkflow workflowId
    return e.putRows workflowId (← op.val.execute (e.rows w) call)

/-- A call of an operation. -/
structure Transaction (δ : Type) where
  call : Call
  op : Operation δ

/-- A refused transaction leaves the rows as they were. -/
def step (e : Enterprise δ) (t : Transaction δ) : Enterprise δ :=
  Runs.commit e (t.op.execute digest e t.call)

end

end WorkflowPreviews
end SmeDataCenter
