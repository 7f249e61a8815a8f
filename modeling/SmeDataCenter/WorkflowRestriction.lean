import SmeDataCenter.Runs
import SmeDataCenter.Table
import SmeDataCenter.WorkflowLivePolicy

/-!
# Configuration changes and unfinished runs

The workflows of one enterprise, their configuration and the integration they share. A run
keeps the snapshot it started from, and beside it the limits recorded since. A saved change of a
configuration, or of the integration, records the limit it brings on every unfinished run; a
migration import writes both and records nothing. The operations are the accepted ones: what
refuses a change (versions, previews, permissions, a lease) leaves everything as it was.
-/

namespace SmeDataCenter
namespace WorkflowRestriction

structure WorkflowRun where
  configuration : WorkflowConfiguration
  integration : EnterpriseIntegration
  restrictivePolicy : Option WorkflowLivePolicy
  finished : Bool

structure Workflow where
  configuration : Option WorkflowConfiguration
  version : ℕ
  controlVersion : ℕ
  runs : Table String WorkflowRun

structure Enterprise where
  integration : EnterpriseIntegration
  workflows : Table String Workflow

/-- The limits a run is under: those recorded, or else those it started with. -/
def WorkflowRun.recorded (run : WorkflowRun) : WorkflowLivePolicy :=
  run.restrictivePolicy.getD (workflowLivePolicy run.configuration run.integration)

/-- The live policy with the stores that are not retired. -/
def onStores (stores : List String) (policy : WorkflowLivePolicy) : WorkflowLivePolicy :=
  { policy with stores := policy.stores.filter fun name => stores.contains name }

/-- The live policy `requireBinding` computes for a run, when there is a configuration. -/
def effectivePolicy (stores : List String) (integration : EnterpriseIntegration)
    (config : WorkflowConfiguration) (run : WorkflowRun) : WorkflowLivePolicy :=
  intersectWorkflowLivePolicy run.recorded
    (onStores stores (workflowLivePolicy config integration))

section

variable {δ : Type} [DecidableEq δ] (digest : WorkflowLivePolicy → δ)

/-- Record the limit of a change on every unfinished run, unless the change only widens. The
policies before and after are compared by their digests. -/
def restrictRuns (workflow : Workflow) (before after : WorkflowConfiguration)
    (oldSource newSource : EnterpriseIntegration) : Workflow :=
  let oldPolicy := workflowLivePolicy before oldSource
  let nextPolicy := workflowLivePolicy after newSource
  if digest oldPolicy = digest (intersectWorkflowLivePolicy oldPolicy nextPolicy) then workflow
  else
    { workflow with
      controlVersion := workflow.controlVersion + 1
      runs := workflow.runs.updateMany (fun _ run => !run.finished) fun run =>
        { run with
          restrictivePolicy := some (intersectWorkflowLivePolicy run.recorded nextPolicy) } }

inductive Operation where
  | create (workflowId : String)
  | saveConfiguration (workflowId : String) (configuration : WorkflowConfiguration)
  | saveIntegration (configuration : EnterpriseIntegration)
  /-- The first chunk of a migration import: the configurations of its manifest, and the
  integration. -/
  | importMigration (configurations : List (String × WorkflowConfiguration))
      (integration : EnterpriseIntegration)
  | startRun (workflowId runId : String)
  | finishRun (workflowId runId : String)
  /-- A change of the control state, or of the authorizations. -/
  | control (workflowId : String)

/-- `saveChange`, a configuration. -/
def Workflow.saveConfiguration (workflow : Workflow) (shared : EnterpriseIntegration)
    (configuration : WorkflowConfiguration) : Workflow :=
  let workflow := match workflow.configuration with
    | some previous => restrictRuns digest workflow previous configuration shared shared
    | none => workflow
  { workflow with configuration := some configuration, version := workflow.version + 1 }

/-- `saveChange`, the integration: for each workflow that depends on it. -/
def Workflow.saveIntegration (workflow : Workflow) (before after : EnterpriseIntegration) :
    Workflow :=
  match workflow.configuration with
  | some config => restrictRuns digest workflow config config before after
  | none => workflow

/-- The row of a workflow after the first chunk of an import. -/
def Workflow.importMigration (workflow : Workflow) (workflowId : String)
    (configurations : List (String × WorkflowConfiguration)) : Workflow :=
  match configurations.find? fun item => item.1 = workflowId with
  | some (_, configuration) =>
    { workflow with
      configuration := some configuration
      version := workflow.version + 1, controlVersion := workflow.controlVersion + 1 }
  | none => workflow

/-- A run starts from the current configuration and integration, when no run is unfinished. -/
def Workflow.startRun (workflow : Workflow) (integration : EnterpriseIntegration)
    (runId : String) : Workflow :=
  match workflow.configuration with
  | none => workflow
  | some configuration =>
    if (workflow.runs.findMany fun _ run => !run.finished) ≠ [] then workflow
    else match workflow.runs.create runId ⟨configuration, integration, none, false⟩ with
      | none => workflow
      | some runs => { workflow with runs }

def Workflow.finishRun (workflow : Workflow) (runId : String) : Workflow :=
  { workflow with runs := workflow.runs.update runId fun run => { run with finished := true } }

/-- What an operation makes of one workflow. -/
def Operation.onWorkflow (op : Operation) (integration : EnterpriseIntegration) (id : String)
    (workflow : Workflow) : Workflow :=
  match op with
  | .create _ => workflow
  | .saveConfiguration workflowId configuration =>
    if id = workflowId then workflow.saveConfiguration digest integration configuration
    else workflow
  | .saveIntegration configuration => workflow.saveIntegration digest integration configuration
  | .importMigration configurations _ => workflow.importMigration id configurations
  | .startRun workflowId runId =>
    if id = workflowId then workflow.startRun integration runId else workflow
  | .finishRun workflowId runId => if id = workflowId then workflow.finishRun runId else workflow
  | .control workflowId =>
    if id = workflowId then { workflow with controlVersion := workflow.controlVersion + 1 }
    else workflow

/-- The integration after an operation. -/
def Operation.onIntegration (op : Operation) (integration : EnterpriseIntegration) :
    EnterpriseIntegration :=
  match op with
  | .saveIntegration configuration => configuration
  | .importMigration _ imported => imported
  | _ => integration

def step (s : Enterprise) (op : Operation) : Enterprise where
  integration := op.onIntegration s.integration
  workflows :=
    let workflows := s.workflows.mapRows (op.onWorkflow digest s.integration)
    match op with
    | .create workflowId => (workflows.create workflowId ⟨none, 0, 0, ∅⟩).getD workflows
    | _ => workflows

/-- An enterprise with an integration and no workflow. -/
def Enterprise.initial (integration : EnterpriseIntegration) : Enterprise := ⟨integration, ∅⟩

end

end WorkflowRestriction
end SmeDataCenter
