import SmeDataCenter.WorkflowActions
import SmeDataCenter.WorkflowRuns

/-!
# Workflow migrations

A migration brings the workflows of an enterprise over from another host. It starts with a
preview of its manifest, which is also its first chunk of action history; more chunks are
appended, and the migration is sealed; then every chunk is validated, one call each, then every
chunk is imported, one call each; then the host is switched and its first run verified. Each
call is a transaction on the locked row of the migration. Other operations change workflows,
installations and actions in between.
-/

namespace SmeDataCenter
namespace WorkflowMigrations

open WorkflowActions (WorkflowAction WorkflowActionIntent WorkflowActionReceipt)
open WorkflowRuns (EnterpriseWorkflow WorkflowInstallation)

inductive MigrationError where
  | configurationRequired
  | permissionDenied
  | versionConflict
  | busy
  | installationMismatch
  | sourceUnavailable
  | sourceMappingConflict
  /-- A row is not found, or does not pass its schema. -/
  | invalid
  /-- A unique index refuses the row. -/
  | duplicate
  deriving DecidableEq

inductive MigrationStage where
  | preview
  | validated
  | imported
  | hostSwitched
  | verified
  deriving DecidableEq

/-- The place of a stage among the stages. -/
def MigrationStage.index : MigrationStage → ℕ
  | .preview => 0
  | .validated => 1
  | .imported => 2
  | .hostSwitched => 3
  | .verified => 4

structure CompletedAction where
  legacyKeyHash : String
  intent : WorkflowActionIntent
  receipt : WorkflowActionReceipt

inductive UnresolvedCode where
  | sourceConflict
  | missingReceipt
  | unknownAction
  | missingLocalEvidence
  deriving DecidableEq

def UnresolvedCode.text : UnresolvedCode → String
  | .sourceConflict => "source_conflict"
  | .missingReceipt => "missing_receipt"
  | .unknownAction => "unknown_action"
  | .missingLocalEvidence => "missing_local_evidence"

structure UnresolvedAction where
  code : UnresolvedCode
  sourceRef : String
  evidenceHash : Option String
  intent : Option WorkflowActionIntent
  receipt : Option WorkflowActionReceipt

/-- What a chunk says of one workflow. Recovery items are kept as they were sent. -/
structure ChunkItem where
  workflowId : String
  completedActions : List CompletedAction
  unresolved : List UnresolvedAction
  recoveryItems : Option (List Json)

/-- `workflowMigrationChunkSchema`. -/
abbrev WorkflowMigrationChunk := List ChunkItem

structure ManifestWorkflow extends ChunkItem where
  configuration : WorkflowConfiguration
  /-- The stores of every authorization scope. -/
  authorizations : List (List String)

/-- `workflowMigrationManifestSchema`. -/
structure WorkflowMigrationManifest where
  sourceSnapshotHash : String
  targetVersion : ℕ
  integration : EnterpriseIntegration
  workflows : List ManifestWorkflow

/-- The versions of a workflow when its migration was previewed. -/
structure Target where
  workflowId : String
  version : ℕ
  controlVersion : ℕ
  assignmentEpoch : ℕ

/-! ### As JSON -/

def intentJson (intent : WorkflowActionIntent) : Json :=
  .ofFields [("actionId", some (.str intent.actionId)), ("identity", some intent.identity.json),
    ("artifactHash", intent.artifactHash.map .str),
    ("correlationMarker", intent.correlationMarker.map .str)]

def CompletedAction.json (action : CompletedAction) : Json :=
  .ofFields [("legacyKeyHash", some (.str action.legacyKeyHash)),
    ("intent", some (intentJson action.intent)), ("receipt", some action.receipt.json)]

def UnresolvedAction.json (action : UnresolvedAction) : Json :=
  .ofFields [("code", some (.str action.code.text)), ("sourceRef", some (.str action.sourceRef)),
    ("evidenceHash", action.evidenceHash.map .str), ("intent", action.intent.map intentJson),
    ("receipt", action.receipt.map (·.json))]

def ChunkItem.json (item : ChunkItem) : Json :=
  .ofFields [("workflowId", some (.str item.workflowId)),
    ("completedActions", some (.arr (item.completedActions.map (·.json)))),
    ("unresolved", some (.arr (item.unresolved.map (·.json)))),
    ("recoveryItems", item.recoveryItems.map .arr)]

def chunkJson (chunk : WorkflowMigrationChunk) : Json := .arr (chunk.map (·.json))

def Target.json (target : Target) : Json :=
  .ofFields [("workflowId", some (.str target.workflowId)), ("version", some (.num target.version)),
    ("controlVersion", some (.num target.controlVersion)),
    ("assignmentEpoch", some (.num target.assignmentEpoch))]

/-! ### Rows -/

structure WorkflowMigration where
  enterpriseKey : String
  sourceSnapshotHash : String
  targetVersion : ℕ
  version : ℕ := 1
  stage : MigrationStage := .preview
  manifest : WorkflowMigrationManifest
  targets : List Target
  confirmationDigest : String
  sealedAt : Option ℕ := none
  chunkCount : ℕ := 0
  recordCount : ℕ := 0
  chunksDigest : Option String := none
  validatedChunks : ℕ := 0
  importedChunks : ℕ := 0
  createdAt : ℕ

structure MigrationChunk where
  payload : WorkflowMigrationChunk
  digest : String
  recordCount : ℕ
  importedAt : Option ℕ := none

/-- The row of a workflow with the enterprise it belongs to. -/
structure TargetWorkflow extends EnterpriseWorkflow where
  enterpriseKey : String
  type : WorkflowType

structure IntegrationRow where
  version : ℕ := 0
  configuration : EnterpriseIntegration

/-- The entries of the audit log that a migration writes. -/
inductive MigrationAudit where
  | previewed (migrationId : String)
  | validated (migrationId : String) (sequence : ℕ) (complete : Bool)
  | imported (migrationId : String) (sequence : ℕ) (complete : Bool)
  | advanced (migrationId : String) (stage : MigrationStage)

/-- The tables of other operations that a migration reads and writes. -/
structure WorkflowTables where
  integrations : Table String IntegrationRow := ∅
  workflows : Table String TargetWorkflow := ∅
  /-- By workflow and installation. -/
  installations : Table (String × String) WorkflowInstallation := ∅
  /-- By workflow and action. -/
  actions : Table (String × String) WorkflowAction := ∅
  /-- The action that holds a key of a workflow. -/
  deduplication : Table (String × String) String := ∅

structure MigrationStore where
  tables : WorkflowTables := {}
  migrations : Table String WorkflowMigration := ∅
  /-- By migration and sequence. -/
  chunks : Table (String × ℕ) MigrationChunk := ∅
  audits : List MigrationAudit := []

/-! ### Chunks -/

/-- How many records a chunk has. -/
def records (chunk : WorkflowMigrationChunk) : ℕ :=
  chunk.foldl (fun n item => n + item.completedActions.length + item.unresolved.length +
    (item.recoveryItems.getD []).length) 0

def digestStart : String := String.ofList (List.replicate 64 '0')

section

variable (sha256 : String → String)

def nextDigest (previous : String) (sequence : ℕ) (digest : String) (count : ℕ) : String :=
  hash sha256 (.arr [.str previous, .num sequence, .str digest, .num count])

/-- A stored chunk is what its digest and count say, and nothing in it is left to resolve. -/
def MigrationChunk.valid (chunk : MigrationChunk) : Bool :=
  hash sha256 (chunkJson chunk.payload) = chunk.digest &&
    records chunk.payload = chunk.recordCount &&
    !chunk.payload.any fun item => item.unresolved.any fun action =>
      action.code = .sourceConflict || action.code = .missingReceipt

/-! ### Preview -/

-- the manifest as it is stored
variable (manifestJson : WorkflowMigrationManifest → Json)

/-- The workflow of a type, made when it is not there. -/
def findOrCreate (tables : WorkflowTables) (enterpriseKey : String) (item : ManifestWorkflow) :
    Except MigrationError (String × TargetWorkflow × WorkflowTables) :=
  match (tables.workflows.findMany fun _ row =>
      row.enterpriseKey = enterpriseKey && row.type = item.configuration.type).head? with
  | some (workflowId, row) => .ok (workflowId, row, tables)
  | none =>
    let row : TargetWorkflow := { enterpriseKey, type := item.configuration.type }
    match tables.workflows.create item.workflowId row with
    | none => .error .duplicate
    | some workflows => .ok (item.workflowId, row, { tables with workflows })

/-- The workflow is not running. -/
def TargetWorkflow.idle (row : TargetWorkflow) (now : ℕ) : Bool :=
  row.controlState = .paused && !row.leaseExpiresAt.any (now < ·)

/-- The target of one workflow of a manifest. -/
def previewTarget (call : WorkflowRuns.Call) (manifest : WorkflowMigrationManifest)
    (enterpriseKey : String) (tables : WorkflowTables) (item : ManifestWorkflow) :
    Except MigrationError (Target × WorkflowTables) := do
  let (workflowId, row, tables) ← findOrCreate tables enterpriseKey item
  if workflowId ≠ item.workflowId || !row.idle call.now then .error .busy
  else if !call.checks.valid item.configuration (some manifest.integration) then
    .error .sourceMappingConflict
  else if item.authorizations.any fun stores => stores.any fun store =>
      !item.configuration.storeNames.contains store then .error .permissionDenied
  else return (⟨workflowId, row.version, row.controlVersion, row.assignmentEpoch⟩, tables)

/-- The targets of the workflows of a manifest, in order. -/
def previewTargets (call : WorkflowRuns.Call) (manifest : WorkflowMigrationManifest)
    (enterpriseKey : String) :
    WorkflowTables → List ManifestWorkflow →
      Except MigrationError (List Target × WorkflowTables)
  | tables, [] => return ([], tables)
  | tables, item :: items => do
    let (target, tables) ← previewTarget call manifest enterpriseKey tables item
    let (targets, tables) ← previewTargets call manifest enterpriseKey tables items
    return (target :: targets, tables)

/-- The manifest's own part of the history. -/
def WorkflowMigrationManifest.chunk (manifest : WorkflowMigrationManifest) :
    WorkflowMigrationChunk :=
  manifest.workflows.map (·.toChunkItem)

/-- `migration_preview`. -/
def preview (s : MigrationStore) (call : WorkflowRuns.Call) (enterpriseKey : String)
    (manifest : WorkflowMigrationManifest) (migrationId : String) :
    Except MigrationError MigrationStore :=
  match (s.migrations.findMany fun _ row => row.enterpriseKey = enterpriseKey &&
      row.sourceSnapshotHash = manifest.sourceSnapshotHash &&
      row.targetVersion = manifest.targetVersion).head? with
  | some (_, prior) =>
    if hash sha256 (manifestJson prior.manifest) ≠ hash sha256 (manifestJson manifest) then
      .error .versionConflict
    else .ok s
  | none =>
    match s.tables.integrations.lookup enterpriseKey with
    | none => .error .invalid
    | some shared =>
      if shared.version ≠ manifest.targetVersion then .error .versionConflict
      else if !call.checks.storesValid
          (manifest.integration.storeMappings.map (·.storeName)) then
        .error .sourceMappingConflict
      else do
        let (targets, tables) ← previewTargets call manifest enterpriseKey s.tables
          (manifest.workflows.insertionSort fun a b => stringLe a.workflowId b.workflowId)
        let digest := hash sha256 (chunkJson manifest.chunk)
        let count := records manifest.chunk
        let row : WorkflowMigration :=
          { enterpriseKey, sourceSnapshotHash := manifest.sourceSnapshotHash
            targetVersion := manifest.targetVersion, manifest, targets
            confirmationDigest := hash sha256 (.ofFields [("migrationId", some (.str migrationId)),
              ("manifest", some (manifestJson manifest)),
              ("targets", some (.arr (targets.map (·.json)))),
              ("actor", some (.str call.actorId))])
            chunkCount := 1, recordCount := count
            chunksDigest := some (nextDigest sha256 digestStart 0 digest count)
            createdAt := call.now }
        match s.migrations.create migrationId row, s.chunks.create (migrationId, 0)
            { payload := manifest.chunk, digest, recordCount := count } with
        | some migrations, some chunks =>
          return { tables, migrations, chunks, audits := s.audits ++ [.previewed migrationId] }
        | _, _ => .error .duplicate

/-! ### Append and seal -/

structure AppendInput where
  expectedVersion : ℕ
  sequence : ℕ
  chunk : WorkflowMigrationChunk
  chunkHash : String

structure SealInput where
  expectedVersion : ℕ
  chunkCount : ℕ
  recordCount : ℕ
  chunksDigest : String

/-- The chunk was stored before. -/
def uploaded (s : MigrationStore) (migrationId : String) (input : AppendInput) : Bool :=
  (s.chunks.lookup (migrationId, input.sequence)).any fun existing =>
    existing.digest = input.chunkHash && hash sha256 (chunkJson input.chunk) = existing.digest

/-- `migration_append`. A chunk that was stored is not stored again. -/
def append (s : MigrationStore) (migrationId : String) (row : WorkflowMigration)
    (input : AppendInput) : Except MigrationError MigrationStore :=
  if uploaded sha256 s migrationId input then .ok s
  else if row.version ≠ input.expectedVersion || row.sealedAt.isSome || row.stage ≠ .preview ||
      input.sequence ≠ row.chunkCount || hash sha256 (chunkJson input.chunk) ≠ input.chunkHash ||
      input.chunk.any (fun item => !row.targets.any (·.workflowId = item.workflowId)) then
    .error .versionConflict
  else
    let count := records input.chunk
    match s.chunks.create (migrationId, input.sequence)
      { payload := input.chunk, digest := input.chunkHash, recordCount := count } with
    | none => .error .duplicate
    | some chunks => .ok { s with
        chunks
        migrations := s.migrations.update migrationId fun row =>
          { row with
            chunkCount := row.chunkCount + 1, recordCount := row.recordCount + count
            chunksDigest := some (nextDigest sha256 (row.chunksDigest.getD digestStart)
              input.sequence input.chunkHash count)
            version := row.version + 1 } }

/-- The digest that an administrator confirms once the chunks are sealed. -/
def sealDigest (migrationId : String) (row : WorkflowMigration) : String :=
  hash sha256 (.ofFields [("migrationId", some (.str migrationId)),
    ("sourceSnapshotHash", some (.str row.sourceSnapshotHash)),
    ("targetVersions", some (.arr (row.targets.map (·.json)))),
    ("chunksDigest", some ((row.chunksDigest.map .str).getD .null)),
    ("chunkCount", some (.num row.chunkCount)), ("recordCount", some (.num row.recordCount))])

/-- `migration_seal`. Later appends never race the import. -/
def sealChunks (s : MigrationStore) (call : WorkflowRuns.Call) (migrationId : String)
    (row : WorkflowMigration) (input : SealInput) : Except MigrationError MigrationStore :=
  if row.version ≠ input.expectedVersion || row.stage ≠ .preview || row.sealedAt.isSome ||
      row.chunkCount ≠ input.chunkCount || row.recordCount ≠ input.recordCount ||
      row.chunksDigest ≠ some input.chunksDigest then .error .versionConflict
  else .ok { s with
    migrations := s.migrations.update migrationId fun row =>
      { row with
        sealedAt := some call.now, confirmationDigest := sealDigest sha256 migrationId row
        version := row.version + 1 } }

/-! ### Validation -/

/-- One chunk is validated; with the last one the migration is. -/
def validateChunk (s : MigrationStore) (migrationId : String) (row : WorkflowMigration) :
    Except MigrationError MigrationStore :=
  match s.chunks.lookup (migrationId, row.validatedChunks) with
  | none => .error .invalid
  | some page =>
    if !page.valid sha256 then .error .sourceMappingConflict
    else
      let complete := decide (row.validatedChunks + 1 = row.chunkCount)
      .ok { s with
        migrations := s.migrations.update migrationId fun row =>
          { row with
            validatedChunks := row.validatedChunks + 1, version := row.version + 1
            stage := if complete then .validated else row.stage }
        audits := s.audits ++ [.validated migrationId row.validatedChunks complete] }

/-! ### Import -/

/-- An action that a chunk brings: one that was completed, or one that may have happened. -/
structure ImportedAction where
  intent : WorkflowActionIntent
  receipt : WorkflowActionReceipt
  legacyKeyHash : Option String

def ChunkItem.imported (item : ChunkItem) : List ImportedAction :=
  item.completedActions.map (fun action =>
    ⟨action.intent, action.receipt, some action.legacyKeyHash⟩) ++
  (item.unresolved.filter (·.code = .unknownAction)).filterMap fun action => do
    return ⟨← action.intent, ← action.receipt, none⟩

/-- The row of an imported action. -/
def ImportedAction.row (action : ImportedAction) (migrationId idempotencyKey : String)
    (now : ℕ) : WorkflowAction :=
  { runId := "migration_" ++ migrationId, idempotencyKey, identity := action.intent.identity
    artifactHash := action.intent.artifactHash
    correlationMarker := action.intent.correlationMarker, state := action.receipt.state.action
    receipt := some action.receipt, createdAt := now
    confirmedAt := if action.receipt.state = .confirmed then some action.receipt.verifiedAt.millis
      else none }

/-- One action is imported, or is there already as it is. -/
def importAction (tables : WorkflowTables) (call : WorkflowRuns.Call)
    (migrationId workflowId : String) (action : ImportedAction) : Except MigrationError WorkflowTables :=
  let actionId := action.intent.actionId
  let keys := deduplicationKeys sha256 action.intent.identity
    ⟨"migration_" ++ migrationId, actionId⟩
  let idempotencyKey := hash sha256 (.strings keys)
  if !action.receipt.wellFormed then .error .invalid
  else match tables.actions.lookup (workflowId, actionId) with
    | some existing =>
      if existing.idempotencyKey ≠ idempotencyKey || existing.receipt.map (hash sha256 ·.json) ≠
          some (hash sha256 action.receipt.json) then .error .versionConflict
      else .ok tables
    | none =>
      -- the unique index on the idempotency key
      if (tables.actions.findMany fun id row =>
          id.1 = workflowId && row.idempotencyKey = idempotencyKey) ≠ [] then .error .duplicate
      else
        let legacy := action.legacyKeyHash.toList.map fun key =>
          hash sha256 (.strings ["legacy", key])
        match tables.deduplication.createMany
            ((keys ++ legacy).map fun key => ((workflowId, key), actionId)) with
        | none => .error .duplicate
        | some deduplication => .ok { tables with
            deduplication
            actions := tables.actions.insert (workflowId, actionId)
              (action.row migrationId idempotencyKey call.now) }

/-- The actions of a chunk, imported in order. -/
def importActions (call : WorkflowRuns.Call) (migrationId : String) :
    WorkflowTables → List (String × ImportedAction) → Except MigrationError WorkflowTables
  | tables, [] => return tables
  | tables, (workflowId, action) :: actions => do
    importActions call migrationId
      (← importAction sha256 tables call migrationId workflowId action) actions

/-- A target is as it was previewed, or as the first chunk of the import left it. -/
def targetUnchanged (tables : WorkflowTables) (now started : ℕ) (target : Target) : Bool :=
  (tables.workflows.lookup target.workflowId).any fun current =>
    current.version = target.version + started &&
      current.controlVersion = target.controlVersion + started && current.idle now

/-- The configurations of a manifest are written with the first chunk. -/
def writeConfigurations (tables : WorkflowTables) (enterpriseKey : String)
    (manifest : WorkflowMigrationManifest) : WorkflowTables :=
  { tables with
    workflows := tables.workflows.mapRows fun id row =>
      if manifest.workflows.any (·.workflowId = id) then
        { row with
          version := row.version + 1, controlVersion := row.controlVersion + 1
          controlState := .paused }
      else row
    integrations := tables.integrations.update enterpriseKey fun row =>
      { row with version := row.version + 1, configuration := manifest.integration } }

/-- How many versions the import has moved its targets on. -/
def WorkflowMigration.started (row : WorkflowMigration) : ℕ :=
  if row.importedChunks = 0 then 0 else 1

/-- The tables that the actions of a chunk are imported into. -/
def importTables (tables : WorkflowTables) (row : WorkflowMigration) : WorkflowTables :=
  if row.importedChunks = 0 then writeConfigurations tables row.enterpriseKey row.manifest
  else tables

/-- One chunk is imported; with the last one the migration is. -/
def importChunk (s : MigrationStore) (call : WorkflowRuns.Call) (migrationId : String)
    (row : WorkflowMigration) : Except MigrationError MigrationStore :=
  match s.tables.integrations.lookup row.enterpriseKey with
  | none => .error .invalid
  | some shared =>
    if shared.version ≠ row.targetVersion + row.started then .error .versionConflict
    else if !row.targets.all (targetUnchanged s.tables call.now row.started) then
      .error .versionConflict
    else match s.chunks.lookup (migrationId, row.importedChunks) with
      | none => .error .invalid
      | some page => do
        let tables ← importActions sha256 call migrationId (importTables s.tables row)
          (page.payload.flatMap fun item => item.imported.map fun action =>
            (item.workflowId, action))
        let complete := decide (row.importedChunks + 1 = row.chunkCount)
        return { s with
          tables
          chunks := s.chunks.update (migrationId, row.importedChunks) fun page =>
            { page with importedAt := some call.now }
          migrations := s.migrations.update migrationId fun row =>
            { row with
              importedChunks := row.importedChunks + 1, version := row.version + 1
              stage := if complete then .imported else row.stage }
          audits := s.audits ++ [.imported migrationId row.importedChunks complete] }

/-! ### Hand-off -/

/-- A target has been taken over since the preview, and its host was read since. -/
def handedOff (tables : WorkflowTables) (row : WorkflowMigration) (verified : Bool)
    (target : Target) : Except MigrationError Unit :=
  match tables.workflows.lookup target.workflowId with
  | none => .error .invalid
  | some current =>
    match current.assignedInstallationId with
    | none => .error .installationMismatch
    | some installationId =>
      if current.assignmentEpoch ≤ target.assignmentEpoch then .error .installationMismatch
      else match (tables.installations.lookup (target.workflowId, installationId)).bind
          fun installation => installation.hostSnapshot.map fun host => (installation, host) with
        | none => .error .sourceUnavailable
        | some (installation, host) =>
          if verified && installation.firstRunVerification ≠ .verified then
            .error .sourceUnavailable
          else if host.verifiedAt + 60000 < row.createdAt then .error .sourceUnavailable
          else .ok ()

def handOff (s : MigrationStore) (migrationId : String) (row : WorkflowMigration)
    (stage : MigrationStage) : Except MigrationError MigrationStore := do
  row.targets.forM (handedOff s.tables row (stage = .verified))
  return { s with
    migrations := s.migrations.update migrationId fun row =>
      { row with stage, version := row.version + 1 }
    audits := s.audits ++ [.advanced migrationId stage] }

/-! ### Operations -/

structure AdvanceInput where
  sourceSnapshotHash : String
  expectedVersion : ℕ
  stage : MigrationStage
  confirmationDigest : String

/-- `migration_advance`. A stage is reached one after the other; asked for once more it stays. -/
def advance (s : MigrationStore) (call : WorkflowRuns.Call) (migrationId : String)
    (row : WorkflowMigration) (input : AdvanceInput) : Except MigrationError MigrationStore :=
  if input.sourceSnapshotHash ≠ row.sourceSnapshotHash ||
      input.confirmationDigest ≠ row.confirmationDigest then .error .versionConflict
  else if row.stage = input.stage then .ok s
  else if row.version ≠ input.expectedVersion || row.sealedAt.isNone then .error .versionConflict
  else if input.stage.index ≠ row.stage.index + 1 then .error .versionConflict
  else match input.stage with
    | .validated => validateChunk sha256 s migrationId row
    | .imported => importChunk sha256 s call migrationId row
    | stage => handOff s migrationId row stage

inductive MigrationOperation where
  | preview (manifest : WorkflowMigrationManifest) (migrationId : String)
  | append (migrationId : String) (input : AppendInput)
  | sealChunks (migrationId : String) (input : SealInput)
  | get (migrationId : String)
  | advance (migrationId : String) (input : AdvanceInput)

/-- The migration that an operation names, when the workflow is one of its manifest. -/
def findMigration (s : MigrationStore) (workflowId enterpriseKey migrationId : String) :
    Except MigrationError WorkflowMigration :=
  match (s.migrations.lookup migrationId).filter fun row => row.enterpriseKey = enterpriseKey &&
      row.manifest.workflows.any (·.workflowId = workflowId) with
  | none => .error .configurationRequired
  | some row => .ok row

/-- `migrationOperation` on a workflow of the organization. -/
def migrationOperation (s : MigrationStore) (call : WorkflowRuns.Call) (workflowId : String)
    (op : MigrationOperation) : Except MigrationError MigrationStore :=
  match s.tables.workflows.lookup workflowId with
  | none => .error .configurationRequired
  | some workflow =>
    match op with
    | .preview manifest migrationId =>
      preview sha256 manifestJson s call workflow.enterpriseKey manifest migrationId
    | .append migrationId input => do
      append sha256 s migrationId
        (← findMigration s workflowId workflow.enterpriseKey migrationId) input
    | .sealChunks migrationId input => do
      sealChunks sha256 s call migrationId
        (← findMigration s workflowId workflow.enterpriseKey migrationId) input
    | .get migrationId => do
      let _ ← findMigration s workflowId workflow.enterpriseKey migrationId
      return s
    | .advance migrationId input => do
      advance sha256 s call migrationId
        (← findMigration s workflowId workflow.enterpriseKey migrationId) input

inductive Step where
  | migration (call : WorkflowRuns.Call) (workflowId : String) (op : MigrationOperation)
  /-- Anything else that is done to workflows, installations, actions and integrations. -/
  | elsewhere (tables : WorkflowTables)

/-- A refused transaction leaves the tables as they were. -/
def step (s : MigrationStore) : Step → MigrationStore
  | .migration call workflowId op =>
    Runs.commit s (migrationOperation sha256 manifestJson s call workflowId op)
  | .elsewhere tables => { s with tables }

end

end WorkflowMigrations
end SmeDataCenter
