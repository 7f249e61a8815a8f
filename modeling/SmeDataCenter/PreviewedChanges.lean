import SmeDataCenter.RunExclusivity
import SmeDataCenter.WorkflowPreviews

/-!
# What a preview promises

What a transaction says when it prepares a preview, and what it does when it uses one: a use
names the digest of a preview that its caller prepared for the workflow, at versions that are the
current ones, and does to the rows what the stored change says and nothing else.
-/

namespace SmeDataCenter
namespace WorkflowPreviews

open Fallible (bind_ok pure_ok)
open WorkflowRuns (ControlState EnterpriseWorkflow RunError WorkflowInstallation WorkflowRun
  WorkflowState leaseTime lookup_setInstallation previewTime)

variable {δ : Type}

/-! ### The kinds of previews -/

inductive PreviewKind where
  | change
  | takeover
  | backfill
  deriving DecidableEq

def StoredChange.kind : StoredChange → PreviewKind
  | .change _ | .envelope .. => .change
  | .takeover _ => .takeover
  | .backfill _ => .backfill

namespace Operation

/-- The kind of preview that an operation prepares, with its id. -/
def prepares : Operation δ → Option (PreviewKind × String)
  | .prepareChange _ _ previewId => some (.change, previewId)
  | .prepareTakeover _ _ _ _ previewId => some (.takeover, previewId)
  | .prepareBackfill _ _ _ previewId => some (.backfill, previewId)
  | _ => none

/-- The kind of preview that an operation uses. -/
def uses : Operation δ → Option PreviewKind
  | .saveChange .. => some .change
  | .takeover .. => some .takeover
  | .start _ ⟨_, _, _, _, _, _, _, .backfill _⟩ _ => some .backfill
  | _ => none

/-- The operation names a preview: by its digest, and by its id where it is given one. -/
def presents (previewId : String) (confirmationDigest : δ) : Operation δ → Prop
  | .saveChange input _ =>
    input.previewId = previewId ∧ input.confirmationDigest = confirmationDigest
  | .takeover _ input =>
    input.previewId = previewId ∧ input.confirmationDigest = confirmationDigest
  | .start _ ⟨_, _, _, _, _, _, _, .backfill presented⟩ _ => presented = confirmationDigest
  | _ => False

/-- The workflow that an operation is for. -/
def concerns (e : Enterprise δ) (workflowId : String) : Operation δ → Prop
  | .prepareChange input _ _ => ∃ w, e.findType input.workflowType = some (workflowId, w)
  | .saveChange input _ => ∃ w, e.findType input.workflowType = some (workflowId, w)
  | .prepareTakeover id .. => id = workflowId
  | .takeover id _ => id = workflowId
  | .prepareBackfill id .. => id = workflowId
  | .start id .. => id = workflowId
  | _ => False

end Operation

/-! ### What a change does -/

/-- A workflow without the limits that are recorded when the reach of its runs shrinks. -/
def Workflow.unrestricted (w : Workflow) : Workflow :=
  { w with
    row := { w.row with controlVersion := 0 }
    runs := w.runs.mapRows fun _ run => { run with restrictivePolicy := none } }

/-- Only one workflow is another one, and the integration stays. -/
structure OnlyWorkflow (e e' : Enterprise δ) (workflowId : String) : Prop where
  others : ∀ id, id ≠ workflowId → e'.workflows.lookup id = e.workflows.lookup id
  integration : e'.integration = e.integration
  integrationVersion : e'.integrationVersion = e.integrationVersion

/-- What becomes of the authorizations of a workflow: those that are named were there and are
revoked, what is granted is new, and the others stay. -/
structure Authorized (call : Call) (grant : List AuthorizationScope) (revokeIds : List String)
    (w w' : Workflow) : Prop where
  revoked : ∀ id ∈ revokeIds, ∃ row, w.authorizations.lookup id = some row ∧
    row.revokedAt = none ∧ w'.authorizations.lookup id =
      some { row with revokedAt := some call.now, revokedBy := some call.actorId }
  others : ∀ id row, id ∉ revokeIds → w.authorizations.lookup id = some row →
    w'.authorizations.lookup id = some row
  granted : ∀ scope ∈ grant, ∃ id, w.authorizations.lookup id = none ∧
    w'.authorizations.lookup id =
      some ⟨scope, w.row.version, w.row.controlVersion + 1, call.actorId, none, none⟩
  nothingElse : ∀ id row, w.authorizations.lookup id = none →
    w'.authorizations.lookup id = some row → row.scope ∈ grant

/-- What a change makes of its workflow. -/
def ChangesWorkflow (call : Call) (w w' : Workflow) : WorkflowChange → Prop
  | .integration _ => False
  | .configuration configuration =>
    ∃ configurations, w.configurations.create (w.row.version + 1) configuration =
        some configurations ∧
      w'.unrestricted = Workflow.unrestricted { w with
        configurations, row := { w.row with version := w.row.version + 1 } }
  | .authorization grant revokeIds =>
    Authorized call grant revokeIds w w' ∧
      w' = { w with
        authorizations := w'.authorizations
        row := { w.row with controlVersion := w.row.controlVersion + 1 } }
  | .control state _ =>
    w' = { w with
      row := { w.row with controlState := state, controlVersion := w.row.controlVersion + 1 } }

/-- What a takeover makes of a workflow. -/
structure TakesOver (call : Call) (change : Takeover) (w w' : Workflow) : Prop where
  epoch : w.row.assignmentEpoch = change.assignmentEpoch
  old : w.row.assignedInstallationId = change.oldInstallationId
  pending : call.checks.pending = change.pending
  row : w'.row = { w.row with
    assignedInstallationId := some change.installationId
    assignmentEpoch := change.assignmentEpoch + 1, leaseRunId := none, leaseExpiresAt := none }
  type : w'.type = w.type
  configurations : w'.configurations = w.configurations
  authorizations : w'.authorizations = w.authorizations
  runs : w'.runs = w.runs.updateMany (fun _ run => run.finishedAt.isNone) fun run =>
    { run with
      installationId := change.installationId, employeeId := call.actorId
      assignmentEpoch := change.assignmentEpoch + 1, controlVersion := w.row.controlVersion }
  installation : ∀ install, w.installations.lookup change.installationId = some install →
    ∃ install', w'.installations.lookup change.installationId = some install' ∧
      install'.state = if w.row.controlState = .active then .enabled else .paused
  revoked : ∀ id ∈ change.oldInstallationId, id ≠ change.installationId →
    ∀ install, w'.installations.lookup id = some install → install.state = .revoked

/-- What the start of a backfill makes of a workflow: a run for what was previewed. -/
structure Backfills (call : Call) (change : Backfill) (e : Enterprise δ) (w w' : Workflow) :
    Prop where
  run : ∃ runId run runs, w.runs.create runId run = some runs ∧
    w' = { w with
      runs
      row := { w.row with
        leaseRunId := some runId, leaseExpiresAt := some (call.now + leaseTime) } } ∧
    run.mode = .backfill ∧ run.installationId = change.installationId ∧
    run.assignmentEpoch = change.assignmentEpoch ∧ run.employeeId = call.actorId ∧
    run.snapshot.window = change.window ∧ run.snapshot.configurationVersion = w.row.version ∧
    run.snapshot.integrationVersion = e.integrationVersion ∧
    w.configuration = some run.snapshot.configuration ∧
    run.snapshot.integration = e.integration

/-- The rows after the use of a preview are those before it with the stored change made. A takeover
may find that the scope of orders is needed from now on. -/
def Applies (call : Call) (e e' : Enterprise δ) (workflowId : String) (w w' : Workflow) :
    StoredChange → Prop
  | .envelope (.integration configuration) impact =>
    impact = e.integrationImpact configuration ∧
    e'.integration = configuration ∧ e'.integrationVersion = e.integrationVersion + 1 ∧
    e'.orderScopeRequired = e.orderScopeRequired ∧ ∀ id, (e'.workflows.lookup id).map (·.unrestricted) =
      (e.workflows.lookup id).map (·.unrestricted)
  | .change change => OnlyWorkflow e e' workflowId ∧
    e'.orderScopeRequired = e.orderScopeRequired ∧ ChangesWorkflow call w w' change
  | .envelope change _ => OnlyWorkflow e e' workflowId ∧
    e'.orderScopeRequired = e.orderScopeRequired ∧ ChangesWorkflow call w w' change
  | .takeover change => OnlyWorkflow e e' workflowId ∧ TakesOver call change w w'
  | .backfill change => OnlyWorkflow e e' workflowId ∧
    e'.orderScopeRequired = e.orderScopeRequired ∧ Backfills call change e w w'

/-! ### Preparing and using -/

/-- The preview is of the workflow as it is. -/
structure Current (e : Enterprise δ) (w : Workflow) (preview : WorkflowChangePreview δ) :
    Prop where
  type : preview.workflowType = w.type
  version : preview.expectedVersion = w.row.version
  integrationVersion : preview.expectedIntegrationVersion = e.integrationVersion
  controlVersion : preview.expectedControlVersion = w.row.controlVersion

section

variable [DecidableEq δ] (digest : Hashed → δ)

/-- A transaction is accepted, and prepares a preview of a workflow. What a change of the
integration is shown with is its impact on the enterprise then. -/
structure Prepares (e : Enterprise δ) (t : Transaction δ) (workflowId previewId : String)
    (preview : WorkflowChangePreview δ) : Prop where
  accepted : t.op.execute digest e t.call = .ok (step digest e t)
  kind : t.op.prepares = some (preview.change.kind, previewId)
  concerns : t.op.concerns (step digest e t) workflowId
  absent : e.previews.lookup previewId = none
  stored : (step digest e t).previews.lookup previewId = some preview
  others : ∀ id, id ≠ previewId → (step digest e t).previews.lookup id = e.previews.lookup id
  current : ∃ w, (step digest e t).workflows.lookup workflowId = some w ∧
    Current (step digest e t) w preview
  preparedBy : preview.preparedBy = t.call.actorId
  expiresAt : preview.expiresAt = t.call.now + previewTime
  unused : preview.consumedAt = none
  shown : ∀ configuration impact, preview.change = .envelope (.integration configuration) impact →
    impact = (step digest e t).integrationImpact configuration

/-- A transaction is accepted, and uses a preview of a workflow: one that its caller prepared, that
is not expired, and that is of the workflow as it is. It uses the preview up, and makes the change
that is stored in it. -/
structure Uses (e : Enterprise δ) (t : Transaction δ) (workflowId previewId : String)
    (preview : WorkflowChangePreview δ) : Prop where
  accepted : t.op.execute digest e t.call = .ok (step digest e t)
  kind : t.op.uses = some preview.change.kind
  presents : t.op.presents previewId preview.confirmationDigest
  concerns : t.op.concerns e workflowId
  stored : e.previews.lookup previewId = some preview
  preparedBy : preview.preparedBy = t.call.actorId
  unused : preview.consumedAt = none
  unexpired : t.call.now < preview.expiresAt
  consumed : (step digest e t).previews.lookup previewId =
    some { preview with consumedAt := some t.call.now }
  others : ∀ id, id ≠ previewId → (step digest e t).previews.lookup id = e.previews.lookup id
  applies : ∃ w w', e.workflows.lookup workflowId = some w ∧ Current e w preview ∧
    (step digest e t).workflows.lookup workflowId = some w' ∧
    Applies t.call e (step digest e t) workflowId w w' preview.change

end

/-! ### Rows that are found -/

section

variable {e e' e₁ : Enterprise δ} {call : Call} {w : Workflow} {type : WorkflowType}
  {workflowId newId previewId : String}

lemma findType_some (h : e.findType type = some (workflowId, w)) :
    e.workflows.lookup workflowId = some w ∧ w.type = type := by
  have hmem := List.mem_of_head? h
  obtain ⟨hrow, htype⟩ := Table.mem_findMany.mp hmem
  exact ⟨hrow, by simpa using htype⟩

lemma findType_none (h : e.findType type = none) {id : String}
    (hrow : e.workflows.lookup id = some w) : w.type ≠ type := by
  intro htype
  have hnil : e.workflows.findMany (fun _ w => decide (w.type = type)) = [] :=
    List.head?_eq_none_iff.mp h
  have hmem : (id, w) ∈ e.workflows.findMany fun _ w => decide (w.type = type) :=
    Table.mem_findMany.mpr ⟨hrow, by simp [htype]⟩
  rw [hnil] at hmem
  simp at hmem

lemma ensureWorkflow_ok (h : e.ensureWorkflow type newId = .ok (workflowId, e₁)) :
    (e₁ = e ∧ ∃ w, e.findType type = some (workflowId, w)) ∨
    (e.findType type = none ∧ workflowId = newId ∧ ∃ workflows,
      e.workflows.create newId { type } = some workflows ∧ e₁ = { e with workflows }) := by
  unfold Enterprise.ensureWorkflow at h
  split at h
  · rename_i found hfound
    cases h
    exact .inl ⟨rfl, _, hfound⟩
  · rename_i hnone
    split at h
    · cases h
    · rename_i workflows hcreate
      cases h
      exact .inr ⟨hnone, rfl, workflows, hcreate, rfl⟩

lemma ensureWorkflow_found (h : e.ensureWorkflow type newId = .ok (workflowId, e₁)) :
    ∃ w, e₁.findType type = some (workflowId, w) := by
  rcases ensureWorkflow_ok h with ⟨rfl, hfound⟩ | ⟨hnone, rfl, workflows, hcreate, rfl⟩
  · exact hfound
  · cases hfind : Enterprise.findType { e with workflows } type with
    | none =>
      have hnew : workflows.lookup workflowId = some { type } := by
        rw [Table.lookup_create hcreate, if_pos rfl]
      exact absurd rfl (@findType_none δ { e with workflows } _ _ hfind _ hnew)
    | some found =>
      obtain ⟨id, w⟩ := found
      obtain ⟨hrow, htype⟩ := findType_some hfind
      rw [Table.lookup_create hcreate] at hrow
      split_ifs at hrow with hid
      · exact ⟨w, by rw [hid]⟩
      · exact absurd htype (findType_none hnone hrow)

lemma ensureWorkflow_previews (h : e.ensureWorkflow type newId = .ok (workflowId, e₁)) :
    e₁.previews = e.previews := by
  rcases ensureWorkflow_ok h with ⟨rfl, -⟩ | ⟨-, -, workflows, -, rfl⟩ <;> rfl

lemma lockWorkflow_ok : e.lockWorkflow workflowId = .ok w ↔
    e.workflows.lookup workflowId = some w := by
  unfold Enterprise.lockWorkflow
  cases e.workflows.lookup workflowId with
  | none => simp
  | some found => simp

lemma createPreview_ok {change : StoredChange} {confirmationDigest : δ}
    (h : e.createPreview call w change confirmationDigest previewId = .ok e') :
    ∃ previews, e.previews.create previewId (e.newPreview call w change confirmationDigest) =
      some previews ∧ e' = { e with previews } := by
  unfold Enterprise.createPreview at h
  split at h
  · cases h
  · rename_i previews hcreate
    cases h
    exact ⟨previews, hcreate, rfl⟩

/-- The caller prepared a preview with this digest, it is not used up nor expired, and it is of the
workflow as it is. -/
structure Usable (e : Enterprise δ) (call : Call) (w : Workflow) (previewId : String)
    (confirmationDigest : δ) (preview : WorkflowChangePreview δ) : Prop where
  stored : e.previews.lookup previewId = some preview
  digest : preview.confirmationDigest = confirmationDigest
  preparedBy : preview.preparedBy = call.actorId
  unused : preview.consumedAt = none
  unexpired : call.now < preview.expiresAt
  current : Current e w preview

variable {confirmationDigest : δ} {preview : WorkflowChangePreview δ}

variable [DecidableEq δ]

lemma usable_some (h : e.usable call w previewId confirmationDigest = some preview) :
    Usable e call w previewId confirmationDigest preview := by
  obtain ⟨hstored, hmatch⟩ := Option.filter_eq_some_iff.mp h
  simp only [Bool.and_eq_true, decide_eq_true_eq, Option.isNone_iff_eq_none] at hmatch
  obtain ⟨⟨⟨⟨⟨⟨⟨htype, hactor⟩, hdigest⟩, hunused⟩, hunexpired⟩, hversion⟩, hshared⟩, hcontrol⟩ :=
    hmatch
  exact ⟨hstored, hdigest, hactor, hunused, hunexpired, htype, hversion, hshared, hcontrol⟩

lemma confirmed_some (h : e.confirmed call w confirmationDigest = some (previewId, preview)) :
    Usable e call w previewId confirmationDigest preview := by
  obtain ⟨hstored, hmatch⟩ := Table.mem_findMany.mp (List.mem_of_head? h)
  simp only [Bool.and_eq_true, decide_eq_true_eq, Option.isNone_iff_eq_none] at hmatch
  obtain ⟨⟨⟨⟨⟨⟨⟨htype, hdigest⟩, hactor⟩, hunused⟩, hunexpired⟩, hversion⟩, hshared⟩, hcontrol⟩ :=
    hmatch
  exact ⟨hstored, hdigest, hactor, hunused, hunexpired, htype, hversion, hshared, hcontrol⟩

end

/-! ### Preparations -/

variable {change : WorkflowChange}

section

variable [DecidableEq δ] {digest : Hashed → δ} {e e' e₁ : Enterprise δ} {t : Transaction δ}
  {call : Call} {w : Workflow} {workflowId previewId : String}

lemma step_ok (h : t.op.execute digest e t.call = .ok e') : step digest e t = e' := by
  rw [step, h, Runs.commit]

lemma prepares_of_create {change : StoredChange} {confirmationDigest : δ}
    (haccepted : t.op.execute digest e t.call = .ok e')
    (hcreate : e₁.createPreview t.call w change confirmationDigest previewId = .ok e')
    (hpreviews : e₁.previews = e.previews) (hw : e₁.workflows.lookup workflowId = some w)
    (hkind : t.op.prepares = some (change.kind, previewId))
    (hconcerns : t.op.concerns e' workflowId)
    (hshown : ∀ configuration impact, change = .envelope (.integration configuration) impact →
      impact = e₁.integrationImpact configuration) :
    Prepares digest e t workflowId previewId
      (e₁.newPreview t.call w change confirmationDigest) := by
  obtain ⟨previews, hnew, rfl⟩ := createPreview_ok hcreate
  have hstep := step_ok haccepted
  refine ⟨hstep.symm ▸ haccepted, hkind, hstep.symm ▸ hconcerns, ?_, ?_, ?_, ⟨w, ?_, ?_⟩, rfl, rfl,
    rfl, ?_⟩
  · rw [← hpreviews]
    exact Table.create_fresh hnew
  · rw [hstep]
    exact (Table.lookup_create hnew previewId).trans (if_pos rfl)
  · intro id hid
    rw [hstep, ← hpreviews]
    exact (Table.lookup_create hnew id).trans (if_neg hid)
  · rw [hstep]
    exact hw
  · rw [hstep]
    exact ⟨rfl, rfl, rfl, rfl⟩
  · intro configuration impact hchange
    rw [hstep]
    exact hshown configuration impact hchange

omit [DecidableEq δ] in
lemma kind_preparedChange (e : Enterprise δ) (change : WorkflowChange) :
    (e.preparedChange change).kind = .change := by
  cases change <;> rfl

omit [DecidableEq δ] in
lemma shown_preparedChange {e : Enterprise δ} {configuration : EnterpriseIntegration}
    {impact : IntegrationImpact}
    (h : e.preparedChange change = .envelope (.integration configuration) impact) :
    impact = e.integrationImpact configuration := by
  cases change with
  | integration other =>
    cases h
    rfl
  | configuration | authorization | control => cases h

/-- An accepted preparation prepares a preview of the workflow that it concerns. -/
theorem exists_prepares {kind : PreviewKind} (hkind : t.op.prepares = some (kind, previewId))
    (h : t.op.execute digest e t.call = .ok e') :
    ∃ workflowId preview, Prepares digest e t workflowId previewId preview := by
  obtain ⟨call, op⟩ := t
  cases op with
  | prepareChange input newId previewId' =>
    cases hkind
    obtain ⟨⟨workflowId, e₁⟩, hensure, hrest⟩ := bind_ok.mp h
    obtain ⟨w, hlock, hrest⟩ := bind_ok.mp hrest
    obtain ⟨-, -, hrest⟩ := bind_ok.mp hrest
    obtain ⟨-, -, hcreate⟩ := bind_ok.mp hrest
    obtain ⟨found, hfound⟩ := ensureWorkflow_found hensure
    obtain ⟨previews, hnew, he'⟩ := createPreview_ok hcreate
    refine ⟨workflowId, _, prepares_of_create h hcreate
      (ensureWorkflow_previews hensure) (lockWorkflow_ok.mp hlock) ?_ ⟨found, ?_⟩ ?_⟩
    · rw [kind_preparedChange]
      rfl
    · rw [he']
      exact hfound
    · exact fun configuration impact => shown_preparedChange
  | prepareTakeover workflowId installationId expectedAssignmentEpoch oldHostPaused previewId' =>
    cases hkind
    obtain ⟨w, hlock, hrest⟩ := bind_ok.mp h
    obtain ⟨-, -, hrest⟩ := bind_ok.mp hrest
    split_ifs at hrest
    exact ⟨workflowId, _, prepares_of_create h hrest rfl (lockWorkflow_ok.mp hlock) rfl rfl nofun⟩
  | prepareBackfill workflowId backfill windowAllowed previewId' =>
    cases hkind
    obtain ⟨w, hlock, hrest⟩ := bind_ok.mp h
    obtain ⟨-, -, hrest⟩ := bind_ok.mp hrest
    obtain ⟨-, -, hrest⟩ := bind_ok.mp hrest
    split_ifs at hrest
    exact ⟨workflowId, _, prepares_of_create h hrest rfl (lockWorkflow_ok.mp hlock) rfl rfl nofun⟩
  | _ => cases hkind

end

/-! ### Saved changes -/

section

variable {κ ρ : Type} [DecidableEq κ]

omit [DecidableEq κ] in
lemma mapRows_updateMany (t : Table κ ρ) {p : κ → ρ → Bool} {f g : ρ → ρ}
    (h : ∀ row, g (f row) = g row) :
    (t.updateMany p f).mapRows (fun _ => g) = t.mapRows fun _ => g := by
  apply AList.ext
  simp only [Table.updateMany, Table.mapRows, List.map_map]
  refine List.map_congr_left fun entry _ => ?_
  simp only [Function.comp_apply]
  split_ifs
  · rw [h]
  · rfl

lemma createMany_fresh {rows : List (κ × ρ)} {t t' : Table κ ρ}
    (h : t.createMany rows = some t') {entry : κ × ρ} (hmem : entry ∈ rows) :
    t.lookup entry.1 = none := by
  induction rows generalizing t with
  | nil => simp at hmem
  | cons first rows ih =>
    obtain ⟨k, row⟩ := first
    simp only [Table.createMany, Option.bind_eq_bind, Option.bind_eq_some_iff] at h
    obtain ⟨u, hu, ht⟩ := h
    rcases List.mem_cons.mp hmem with rfl | hmem
    · exact Table.create_fresh hu
    · have hlater := ih ht hmem
      rw [Table.lookup_create hu] at hlater
      split_ifs at hlater
      exact hlater

end

variable {ids : ℕ → String} {w' : Workflow}

variable {stored : StoredChange}

section

variable {e e' saved : Enterprise δ} {call : Call} {w : Workflow} {workflowId : String}

lemma lookup_putWorkflow (hw : e.workflows.lookup workflowId = some w) (w' : Workflow) :
    (e.putWorkflow workflowId w').workflows.lookup workflowId = some w' := by
  rw [Enterprise.putWorkflow, Table.lookup_update, if_pos rfl, hw, Option.map_some]

lemma onlyWorkflow_putWorkflow (e : Enterprise δ) (workflowId : String) (w' : Workflow) :
    OnlyWorkflow e (e.putWorkflow workflowId w') workflowId where
  others id hid := by rw [Enterprise.putWorkflow, Table.lookup_update, if_neg hid]
  integration := rfl
  integrationVersion := rfl

lemma revokeAuthorizations_ok {authorizations left : Table String WorkflowAuthorization}
    {ids : List String}
    (h : Enterprise.revokeAuthorizations call authorizations ids = .ok left) :
    (∀ id ∈ ids, ∃ row, authorizations.lookup id = some row ∧ row.revokedAt = none) ∧
    left = authorizations.updateMany (fun id row => ids.contains id && row.revokedAt.isNone)
      fun row => { row with revokedAt := some call.now, revokedBy := some call.actorId } := by
  unfold Enterprise.revokeAuthorizations at h
  dsimp only at h
  split_ifs at h with hrefused
  refine ⟨fun id hid => ?_, (Except.ok.inj h).symm⟩
  rw [not_and_not_right] at hrefused
  have hlength := hrefused (List.ne_nil_of_mem hid)
  set named := authorizations.findMany fun id row => ids.contains id && row.revokedAt.isNone
  -- the rows that are named have distinct ids, and are as many as the ids
  have hsub : named.map (·.1) ⊆ ids := by
    intro k hk
    obtain ⟨⟨k', row⟩, hmem, rfl⟩ := List.mem_map.mp hk
    have hmatch := (Table.mem_findMany.mp hmem).2
    rw [Bool.and_eq_true, List.contains_iff_mem] at hmatch
    exact hmatch.1
  have hperm : (named.map (·.1)).Perm ids :=
    (List.subperm_of_subset (authorizations.nodup_findMany _) hsub).perm_of_length_le
      (by rw [List.length_map, hlength])
  obtain ⟨⟨k, row⟩, hmem, rfl⟩ := List.mem_map.mp (hperm.mem_iff.mpr hid)
  obtain ⟨hrow, hmatch⟩ := Table.mem_findMany.mp hmem
  rw [Bool.and_eq_true, Option.isNone_iff_eq_none] at hmatch
  exact ⟨row, hrow, hmatch.2⟩

variable {grant : List AuthorizationScope}

lemma mem_grantedRows {configurationVersion controlVersion : ℕ}
    {entry : String × WorkflowAuthorization}
    (h : entry ∈ Enterprise.grantedRows call configurationVersion controlVersion ids grant) :
    entry.2.scope ∈ grant := by
  obtain ⟨⟨scope, i⟩, hmem, rfl⟩ := List.mem_map.mp h
  exact List.fst_mem_of_mem_zipIdx hmem

lemma exists_grantedRows {configurationVersion controlVersion : ℕ} {scope : AuthorizationScope}
    (h : scope ∈ grant) :
    ∃ id, (id, ⟨scope, configurationVersion, controlVersion, call.actorId, none, none⟩) ∈
      Enterprise.grantedRows call configurationVersion controlVersion ids grant := by
  obtain ⟨i, hi, rfl⟩ := List.mem_iff_getElem.mp h
  refine ⟨ids i, List.mem_map.mpr ⟨(grant[i], i), ?_, rfl⟩⟩
  exact List.mem_zipIdx_iff_getElem?.mpr (List.getElem?_eq_getElem hi)

lemma saveAuthorization_ok {revokeIds : List String}
    (h : e.saveAuthorization call workflowId w grant revokeIds ids = .ok saved) :
    ∃ authorizations, saved = e.putWorkflow workflowId { w with
        authorizations, row := { w.row with controlVersion := w.row.controlVersion + 1 } } ∧
      Authorized call grant revokeIds w { w with
        authorizations, row := { w.row with controlVersion := w.row.controlVersion + 1 } } := by
  unfold Enterprise.saveAuthorization at h
  split at h
  · cases h
  split_ifs at h
  obtain ⟨left, hrevoke, h⟩ := bind_ok.mp h
  split_ifs at h
  dsimp only at h
  split at h
  · cases h
  rename_i authorizations hcreate
  obtain ⟨hlive, rfl⟩ := revokeAuthorizations_ok hrevoke
  obtain ⟨hnew, hold⟩ := Table.lookup_createMany hcreate
  refine ⟨authorizations, (Except.ok.inj h).symm, ?_, ?_, ?_, ?_⟩
  · intro id hid
    obtain ⟨row, hrow, hlive⟩ := hlive id hid
    refine ⟨row, hrow, hlive, hold id _ ?_⟩
    rw [Table.lookup_updateMany, hrow, Option.map_some, if_pos]
    rw [Bool.and_eq_true, List.contains_iff_mem, Option.isNone_iff_eq_none]
    exact ⟨hid, hlive⟩
  · intro id row hid hrow
    refine hold id row ?_
    rw [Table.lookup_updateMany, hrow, Option.map_some, if_neg]
    rw [Bool.and_eq_true, List.contains_iff_mem]
    exact fun hmatch => hid hmatch.1
  · intro scope hscope
    obtain ⟨id, hmem⟩ := exists_grantedRows hscope
    have hfresh := createMany_fresh hcreate hmem
    rw [Table.lookup_updateMany, Option.map_eq_none_iff] at hfresh
    exact ⟨id, hfresh, hnew _ hmem⟩
  · intro id row hnone hrow
    rcases Table.of_lookup_createMany hcreate hrow with hmem | hbefore
    · exact mem_grantedRows hmem
    · rw [Table.lookup_updateMany, hnone] at hbefore
      cases hbefore

lemma applies_of_change {shown : Option IntegrationImpact}
    (hparsed : Enterprise.parsedChange stored = some (change, shown))
    (honly : OnlyWorkflow e saved workflowId)
    (hscope : saved.orderScopeRequired = e.orderScopeRequired)
    (hchange : ChangesWorkflow call w w' change) : Applies call e saved workflowId w w' stored := by
  cases stored with
  | change =>
    cases hparsed
    exact ⟨honly, hscope, hchange⟩
  | envelope =>
    cases hparsed
    cases change with
    | integration => exact hchange.elim
    | configuration | authorization | control => exact ⟨honly, hscope, hchange⟩
  | takeover | backfill => cases hparsed

end

section

variable [DecidableEq δ] {digest : Hashed → δ} {e saved : Enterprise δ} {call : Call}
  {w : Workflow} {workflowId : String}

lemma restrictRuns_unrestricted (w : Workflow) (before after : WorkflowConfiguration)
    (oldSource newSource : EnterpriseIntegration) :
    (Enterprise.restrictRuns digest w before after oldSource newSource).unrestricted =
      w.unrestricted := by
  unfold Enterprise.restrictRuns Workflow.unrestricted
  dsimp only
  split_ifs
  · rfl
  · dsimp only
    rw [mapRows_updateMany]
    exact fun _ => rfl

/-- A change that is saved is applied. -/
theorem applyChange_ok (hdigest : Function.Injective digest) {shown : Option IntegrationImpact}
    (hw : e.workflows.lookup workflowId = some w)
    (hparsed : Enterprise.parsedChange stored = some (change, shown))
    (h : e.applyChange digest call workflowId w ids shown change = .ok saved) :
    saved.previews = e.previews ∧ ∃ w', saved.workflows.lookup workflowId = some w' ∧
      Applies call e saved workflowId w w' stored := by
  cases change with
  | integration configuration =>
    cases shown with
    | none => cases h
    | some impact =>
      have hstored : stored = .envelope (.integration configuration) impact := by
        cases stored <;> cases hparsed
        rfl
      unfold Enterprise.applyChange at h
      dsimp only at h
      split_ifs at h with hsame
      obtain ⟨-, -, h⟩ := bind_ok.mp h
      cases h
      have himpact := Hashed.impact.inj (hdigest (not_not.mp hsame))
      have hrows (id : String) :
          ((e.saveIntegration digest configuration).workflows.lookup id).map (·.unrestricted) =
            (e.workflows.lookup id).map (·.unrestricted) := by
        unfold Enterprise.saveIntegration
        dsimp only
        rw [Table.lookup_mapRows, Option.map_map]
        refine congrArg (Option.map · _) (funext fun w => ?_)
        simp only [Function.comp_apply, Enterprise.restrictDependent]
        split
        · exact restrictRuns_unrestricted ..
        · rfl
      obtain ⟨w', hw', -⟩ := Option.map_eq_some_iff.mp
        ((hrows workflowId).trans (congrArg (Option.map _) hw))
      rw [hstored]
      exact ⟨rfl, w', hw', himpact.symm, rfl, rfl, rfl, hrows⟩
  | configuration configuration =>
    obtain ⟨-, -, h⟩ := bind_ok.mp h
    unfold Enterprise.saveConfiguration at h
    dsimp only at h
    split at h
    · cases h
    rename_i configurations hcreate
    cases h
    refine ⟨rfl, _, lookup_putWorkflow hw _,
      applies_of_change hparsed (onlyWorkflow_putWorkflow ..) rfl ⟨configurations, hcreate, ?_⟩⟩
    split
    · rename_i previous hprevious
      have hsame := @restrictRuns_unrestricted δ _ digest w previous configuration
        e.integration e.integration
      unfold Workflow.unrestricted at hsame ⊢
      simp only [Workflow.mk.injEq, EnterpriseWorkflow.mk.injEq] at hsame ⊢
      obtain ⟨htype, hrow, hconfigurations, hauthorizations, hruns, hinstallations⟩ := hsame
      exact ⟨htype, by simpa using hrow, trivial, hauthorizations, hruns, hinstallations⟩
    · rfl
  | authorization grant revokeIds =>
    obtain ⟨authorizations, rfl, hauthorized⟩ := saveAuthorization_ok h
    exact ⟨rfl, _, lookup_putWorkflow hw _,
      applies_of_change hparsed (onlyWorkflow_putWorkflow ..) rfl ⟨hauthorized, rfl⟩⟩
  | control state reason =>
    obtain ⟨-, -, h⟩ := bind_ok.mp h
    cases h
    exact ⟨rfl, _, lookup_putWorkflow hw _,
      applies_of_change hparsed (onlyWorkflow_putWorkflow ..) rfl rfl⟩

end

/-! ### Uses -/

section

variable [DecidableEq δ] {digest : Hashed → δ} {e e' saved : Enterprise δ} {t : Transaction δ}
  {call : Call} {w : Workflow} {workflowId previewId : String}

omit [DecidableEq δ] in
lemma applies_consume (h : Applies call e saved workflowId w w' stored) (previewId : String) :
    Applies call e (saved.consume call previewId) workflowId w w' stored := by
  have honly (h : OnlyWorkflow e saved workflowId) :
      OnlyWorkflow e (saved.consume call previewId) workflowId :=
    ⟨h.others, h.integration, h.integrationVersion⟩
  cases stored with
  | change => exact ⟨honly h.1, h.2⟩
  | envelope change =>
    cases change with
    | integration => exact h
    | configuration | authorization | control => exact ⟨honly h.1, h.2⟩
  | takeover => exact ⟨honly h.1, h.2⟩
  | backfill => exact ⟨honly h.1, h.2⟩

lemma uses_of_usable {preview : WorkflowChangePreview δ} {confirmationDigest : δ}
    {saved : Enterprise δ} (haccepted : t.op.execute digest e t.call = .ok e')
    (he' : e'.previews = (saved.consume t.call previewId).previews)
    (husable : Usable e t.call w previewId confirmationDigest preview)
    (hw : e.workflows.lookup workflowId = some w) (hkind : t.op.uses = some preview.change.kind)
    (hpresents : t.op.presents previewId confirmationDigest)
    (hconcerns : t.op.concerns e workflowId) (hpreviews : saved.previews = e.previews)
    (hw' : e'.workflows.lookup workflowId = some w')
    (happlies : Applies t.call e e' workflowId w w' preview.change) :
    Uses digest e t workflowId previewId preview := by
  have hstep := step_ok haccepted
  have hlookup (id : String) : e'.previews.lookup id = if id = previewId then
      (e.previews.lookup previewId).map fun preview =>
        { preview with consumedAt := some t.call.now }
      else e.previews.lookup id := by
    rw [he', Enterprise.consume, ← hpreviews]
    exact Table.lookup_update ..
  refine ⟨hstep.symm ▸ haccepted, hkind, husable.digest ▸ hpresents, hconcerns, husable.stored,
    husable.preparedBy, husable.unused, husable.unexpired, ?_, ?_,
    w, w', hw, husable.current, hstep ▸ hw', hstep ▸ happlies⟩
  · rw [hstep, hlookup, if_pos rfl, husable.stored, Option.map_some]
  · intro id hid
    rw [hstep, hlookup, if_neg hid]

lemma kind_of_parsed {parsed : WorkflowChange × Option IntegrationImpact}
    (h : Enterprise.parsedChange stored = some parsed) : stored.kind = .change := by
  cases stored with
  | change | envelope => rfl
  | takeover | backfill => cases h

lemma uses_saveChange (hdigest : Function.Injective digest) {input : Enterprise.SaveInput δ}
    (h : e.saveChange digest call input ids = .ok e') :
    ∃ workflowId preview, Uses digest e ⟨call, .saveChange input ids⟩ workflowId input.previewId
      preview := by
  have haccepted := h
  unfold Enterprise.saveChange at h
  split at h
  · cases h
  rename_i workflowId w hfound
  obtain ⟨-, -, h⟩ := bind_ok.mp h
  split at h
  · cases h
  rename_i change shown hparsed
  obtain ⟨saved, hsaved, h⟩ := bind_ok.mp h
  obtain rfl := pure_ok.mp h
  obtain ⟨preview, husable, hparsed⟩ := Option.bind_eq_some_iff.mp hparsed
  have hw := (findType_some hfound).1
  obtain ⟨hpreviews, w', hw', happlies⟩ := applyChange_ok hdigest hw hparsed hsaved
  refine ⟨workflowId, preview, uses_of_usable haccepted rfl (usable_some husable) hw ?_
    ⟨rfl, rfl⟩ ⟨w, hfound⟩ hpreviews hw' (applies_consume happlies _)⟩
  rw [kind_of_parsed hparsed]
  rfl

end

/-! ### Takeovers -/

section

variable {s : WorkflowState} {call : Call} {installationId id : String}
  {install : WorkflowInstallation}

lemma takenOver_eq (s : WorkflowState) (call : Call) (installationId : String) :
    (s.takenOver call installationId).workflow =
        ((s.revokeOld installationId).moveRuns call installationId).workflow ∧
      (s.takenOver call installationId).runs =
        ((s.revokeOld installationId).moveRuns call installationId).runs ∧
      (s.takenOver call installationId).installations =
        (((s.revokeOld installationId).moveRuns call installationId).setInstallation installationId
          (if s.workflow.controlState = .active then .enabled else .paused)).installations := by
  unfold WorkflowState.takenOver
  dsimp only
  split_ifs
  · obtain ⟨hworkflow, hruns, hinstalls⟩ := WorkflowRuns.activateOrderScope_eq
      (((s.revokeOld installationId).moveRuns call installationId).setInstallation installationId
        .enabled)
    exact ⟨hworkflow, hruns, hinstalls⟩
  · exact ⟨rfl, rfl, rfl⟩

lemma revokeOld_state (hassigned : s.workflow.assignedInstallationId = some id)
    (hid : id ≠ installationId)
    (h : (s.revokeOld installationId).installations.lookup id = some install) :
    install.state = .revoked := by
  unfold WorkflowState.revokeOld at h
  rw [hassigned] at h
  dsimp only at h
  rw [if_pos hid, lookup_setInstallation, if_pos rfl] at h
  obtain ⟨old, -, rfl⟩ := Option.map_eq_some_iff.mp h
  rfl

end

section

variable [DecidableEq δ] {digest : Hashed → δ} {e e' : Enterprise δ} {call : Call} {w : Workflow}
  {workflowId : String}

omit [DecidableEq δ] in
lemma onlyWorkflow_putRows (e : Enterprise δ) (workflowId : String)
    (s : WorkflowState) : OnlyWorkflow e (e.putRows workflowId s) workflowId where
  others id hid := by rw [Enterprise.putRows, Table.lookup_update, if_neg hid]
  integration := rfl
  integrationVersion := rfl

omit [DecidableEq δ] in
lemma lookup_putRows (hw : e.workflows.lookup workflowId = some w)
    (s : WorkflowState) :
    (e.putRows workflowId s).workflows.lookup workflowId =
      some { w with row := s.workflow, runs := s.runs, installations := s.installations } := by
  rw [Enterprise.putRows, Table.lookup_update, if_pos rfl, hw, Option.map_some]

lemma sameTakeover_ok (hdigest : Function.Injective digest) {installationId : String}
    {change : Takeover}
    (h : Enterprise.sameTakeover digest call w installationId change = true) :
    change.installationId = installationId ∧ change.assignmentEpoch = w.row.assignmentEpoch ∧
      change.oldInstallationId = w.row.assignedInstallationId ∧
      change.pending = call.checks.pending := by
  simp only [Enterprise.sameTakeover, Bool.and_eq_true, decide_eq_true_eq] at h
  obtain ⟨⟨⟨⟨⟨hinstallation, hepoch⟩, hold⟩, hids⟩, hcount⟩, hlatest⟩ := h
  have hactions := Hashed.actionIds.inj (hdigest hids)
  refine ⟨hinstallation, hepoch, hold, ?_⟩
  cases hpending : change.pending
  cases hcurrent : call.checks.pending
  simp only [hpending, hcurrent] at hactions hcount hlatest
  rw [hactions, hcount, hlatest]

omit [DecidableEq δ] in
lemma takesOver_takenOver {change : Takeover}
    (hepoch : change.assignmentEpoch = w.row.assignmentEpoch)
    (hold : change.oldInstallationId = w.row.assignedInstallationId)
    (hpending : change.pending = call.checks.pending) {s : WorkflowState}
    (hs : s = (e.rows w).takenOver call change.installationId) :
    TakesOver call change w
      { w with row := s.workflow, runs := s.runs, installations := s.installations } := by
  obtain ⟨hworkflow, hruns, hinstalls⟩ := takenOver_eq (e.rows w) call change.installationId
  obtain ⟨hrow, hkept, hkeeps⟩ := WorkflowRuns.revokeOld_eq (e.rows w) change.installationId
  refine ⟨hepoch.symm, hold.symm, hpending.symm, ?_, rfl, rfl, rfl, ?_, ?_, ?_⟩
  · dsimp only
    rw [hs, hworkflow, WorkflowState.moveRuns, hrow, hepoch]
    rfl
  · dsimp only
    rw [hs, hruns, WorkflowState.moveRuns, hrow, hkept, hepoch]
    rfl
  · intro install hinstall
    obtain ⟨kept, hkept', -⟩ := hkeeps.forth hinstall
    have hlookup := congrArg (AList.lookup change.installationId) hinstalls
    rw [lookup_setInstallation, if_pos rfl] at hlookup
    exact ⟨_, hs ▸ hlookup.trans (congrArg (Option.map _) hkept'), rfl⟩
  · intro id hid hne install hinstall
    dsimp only at hinstall
    rw [hs, hinstalls, lookup_setInstallation, if_neg hne] at hinstall
    exact revokeOld_state (s := e.rows w) (hold.symm.trans hid) hne hinstall

lemma uses_takeover (hdigest : Function.Injective digest)
    {input : Enterprise.TakeoverInput δ}
    (h : e.takeover digest call workflowId input = .ok e') :
    ∃ preview, Uses digest e ⟨call, .takeover workflowId input⟩ workflowId input.previewId
      preview := by
  obtain ⟨installationId, expectedAssignmentEpoch, previewId, confirmationDigest⟩ := input
  have haccepted := h
  obtain ⟨w, hlock, h⟩ := bind_ok.mp h
  have hw := lockWorkflow_ok.mp hlock
  obtain ⟨-, -, h⟩ := bind_ok.mp h
  split at h
  · rename_i change hpreview
    obtain ⟨preview, husable, hchange⟩ := Option.map_eq_some_iff.mp hpreview
    split_ifs at h with hsame hpaused
    rw [Bool.not_eq_true, Bool.not_eq_false'] at hsame
    obtain ⟨hinstallation, hepoch, hold, hpending⟩ := sameTakeover_ok hdigest hsame
    obtain rfl := pure_ok.mp h
    dsimp only at hinstallation
    subst hinstallation
    refine ⟨preview, uses_of_usable haccepted rfl (usable_some husable) hw ?_ ⟨rfl, rfl⟩ rfl rfl
      (lookup_putRows hw _) ?_⟩
    · rw [hchange]
      rfl
    · refine applies_consume ?_ _
      rw [hchange]
      exact ⟨onlyWorkflow_putRows e workflowId _, takesOver_takenOver hepoch hold hpending rfl⟩
  · cases h

/-! ### Starts -/

variable {input : Enterprise.StartInput δ}

lemma usePreview_ok (hdigest : Function.Injective digest) {confirmationDigest : δ}
    (hmode : input.mode = .backfill confirmationDigest)
    (h : e.usePreview digest call w input = .ok e') :
    ∃ previewId preview change, Usable e call w previewId confirmationDigest preview ∧
      preview.change = .backfill change ∧ change.installationId = input.installationId ∧
      change.assignmentEpoch = input.assignmentEpoch ∧ change.window = input.window ∧
      e' = e.consume call previewId := by
  unfold Enterprise.usePreview at h
  rw [hmode] at h
  dsimp only at h
  split at h
  · cases h
  rename_i previewId preview hconfirmed
  split at h
  · rename_i change hchange
    split_ifs at h with hrefused
    simp only [Bool.or_eq_true, decide_eq_true_eq, not_or, not_not] at hrefused
    obtain ⟨⟨hinstallation, hepoch⟩, hwindow⟩ := hrefused
    exact ⟨previewId, preview, change, confirmed_some hconfirmed, hchange, hinstallation, hepoch,
      Hashed.window.inj (hdigest hwindow), (Except.ok.inj h).symm⟩
  · cases h

omit [DecidableEq δ] in
lemma startRefused_none {install : WorkflowInstallation} {config : WorkflowConfiguration}
    (h : e.startRefused call w install config input = none) :
    w.row.assignmentEpoch = input.assignmentEpoch := by
  unfold Enterprise.startRefused at h
  split_ifs at h with hcontrol hassigned
  simp only [Bool.or_eq_true, decide_eq_true_eq, not_or, not_not] at hassigned
  exact hassigned.1.2

lemma uses_start (hdigest : Function.Injective digest) {runId : String} {confirmationDigest : δ}
    (hmode : input.mode = .backfill confirmationDigest)
    (h : e.start digest call workflowId input runId = .ok e') :
    ∃ previewId preview, Uses digest e ⟨call, .start workflowId input runId⟩ workflowId previewId
      preview := by
  have haccepted := h
  obtain ⟨w, hlock, h⟩ := bind_ok.mp h
  have hw := lockWorkflow_ok.mp hlock
  obtain ⟨-, -, h⟩ := bind_ok.mp h
  obtain ⟨install, -, h⟩ := bind_ok.mp h
  split at h
  · cases h
  rename_i config hconfig
  split at h
  · cases h
  rename_i hallowed
  obtain ⟨used, huse, h⟩ := bind_ok.mp h
  split at h
  · cases h
  rename_i runs hcreate
  obtain rfl := pure_ok.mp h
  obtain ⟨previewId, preview, change, husable, hchange, hinstallation, hepoch, hwindow, rfl⟩ :=
    usePreview_ok hdigest hmode huse
  obtain ⟨installationId, assignmentEpoch, v₁, v₂, v₃, package, window, mode⟩ := input
  subst hmode
  have hused : (e.consume call previewId).workflows.lookup workflowId = some w := hw
  refine ⟨previewId, preview, uses_of_usable haccepted rfl husable hw ?_ rfl rfl rfl
    (lookup_putWorkflow hused _) ?_⟩
  · rw [hchange]
    rfl
  · rw [hchange]
    refine ⟨?_, rfl, runId, _, runs, hcreate, rfl, rfl, hinstallation.symm, ?_, rfl, hwindow.symm,
      rfl, rfl, hconfig, rfl⟩
    · have honly := onlyWorkflow_putWorkflow (e.consume call previewId) workflowId
        { w with
          runs
          row := { w.row with
            leaseRunId := some runId, leaseExpiresAt := some (call.now + leaseTime) } }
      exact ⟨honly.others, honly.integration, honly.integrationVersion⟩
    · exact (startRefused_none hallowed).trans hepoch.symm

end

/-- **An accepted operation that uses previews uses one**, and does what is stored in it. -/
theorem exists_uses [DecidableEq δ] {digest : Hashed → δ} (hdigest : Function.Injective digest)
    {e e' : Enterprise δ} {t : Transaction δ} {kind : PreviewKind} (hkind : t.op.uses = some kind)
    (h : t.op.execute digest e t.call = .ok e') :
    ∃ workflowId previewId preview, Uses digest e t workflowId previewId preview := by
  obtain ⟨call, op⟩ := t
  cases op with
  | saveChange input ids =>
    obtain ⟨workflowId, preview, huses⟩ := uses_saveChange hdigest h
    exact ⟨workflowId, input.previewId, preview, huses⟩
  | takeover workflowId input =>
    obtain ⟨preview, huses⟩ := uses_takeover hdigest h
    exact ⟨workflowId, input.previewId, preview, huses⟩
  | start workflowId input runId =>
    cases hmode : input.mode with
    | scheduled =>
      obtain ⟨_, _, _, _, _, _, _, mode⟩ := input
      subst hmode
      cases hkind
    | backfill confirmationDigest =>
      obtain ⟨previewId, preview, huses⟩ := uses_start hdigest hmode h
      exact ⟨workflowId, previewId, preview, huses⟩
  | _ => cases hkind

end WorkflowPreviews
end SmeDataCenter
