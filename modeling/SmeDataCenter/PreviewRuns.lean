import Mathlib.Order.WithBot
import SmeDataCenter.PreviewedChanges
import SmeDataCenter.SingleUse

/-!
# Changes take effect as previewed

In every run of the operations on the workflows of an enterprise, each accepted save, takeover or
start of a backfill goes back to one preparation by the same caller for the same workflow, whose
preview is used up there and nowhere else. Since no operation lowers a version, the versions are
the same all the way between the two.
-/

namespace SmeDataCenter
namespace WorkflowPreviews

open Fallible (bind_ok pure_ok)
open WorkflowRuns (InstallationOperation RunError RunOperation WorkflowState)

variable {δ : Type}

/-! ### Versions go up -/

/-- A workflow later on: its type stays and its versions do not go down. -/
structure Later (w w' : Workflow) : Prop where
  type : w'.type = w.type
  version : w.row.version ≤ w'.row.version
  controlVersion : w.row.controlVersion ≤ w'.row.controlVersion

lemma Later.refl (w : Workflow) : Later w w := ⟨rfl, le_rfl, le_rfl⟩

lemma Later.trans {w w' w'' : Workflow} (h : Later w w') (h' : Later w' w'') : Later w w'' :=
  ⟨h'.type.trans h.type, h.version.trans h'.version, h.controlVersion.trans h'.controlVersion⟩

/-- An enterprise has one workflow of a type. -/
def Distinct (e : Enterprise δ) : Prop :=
  ∀ id id' w w', e.workflows.lookup id = some w → e.workflows.lookup id' = some w' →
    w.type = w'.type → id = id'

/-- An enterprise later on. -/
structure Evolves (e e' : Enterprise δ) : Prop where
  integrationVersion : e.integrationVersion ≤ e'.integrationVersion
  kept : ∀ id w, e.workflows.lookup id = some w →
    ∃ w', e'.workflows.lookup id = some w' ∧ Later w w'
  distinct : Distinct e → Distinct e'

namespace Evolves

variable {e e' e'' : Enterprise δ}

lemma refl (e : Enterprise δ) : Evolves e e :=
  ⟨le_rfl, fun _ w hw => ⟨w, hw, .refl w⟩, id⟩

lemma trans (h : Evolves e e') (h' : Evolves e' e'') : Evolves e e'' where
  integrationVersion := h.integrationVersion.trans h'.integrationVersion
  kept id w hw := by
    obtain ⟨w', hw', hlater⟩ := h.kept id w hw
    obtain ⟨w'', hw'', hlater'⟩ := h'.kept id w' hw'
    exact ⟨w'', hw'', hlater.trans hlater'⟩
  distinct hdistinct := h'.distinct (h.distinct hdistinct)

lemma of_mapRows {f : String → Workflow → Workflow}
    (hf : ∀ id w, e.workflows.lookup id = some w → Later w (f id w))
    (hversion : e.integrationVersion ≤ e'.integrationVersion)
    (h : e'.workflows = e.workflows.mapRows f) : Evolves e e' where
  integrationVersion := hversion
  kept id w hw := ⟨f id w, by rw [h, Table.lookup_mapRows, hw, Option.map_some], hf id w hw⟩
  distinct hdistinct id id' w w' hw hw' htype := by
    rw [h, Table.lookup_mapRows] at hw hw'
    obtain ⟨old, hold, rfl⟩ := Option.map_eq_some_iff.mp hw
    obtain ⟨old', hold', rfl⟩ := Option.map_eq_some_iff.mp hw'
    refine hdistinct id id' old old' hold hold' ?_
    rw [← (hf id old hold).type, ← (hf id' old' hold').type, htype]

lemma of_eq (hversion : e'.integrationVersion = e.integrationVersion)
    (h : e'.workflows = e.workflows) : Evolves e e' where
  integrationVersion := hversion.ge
  kept id w hw := ⟨w, by rw [h, hw], .refl w⟩
  distinct hdistinct := by
    intro id id' w w' hw hw'
    rw [h] at hw hw'
    exact hdistinct id id' w w' hw hw'

lemma consume (call : Call) (previewId : String) : Evolves e (e.consume call previewId) :=
  of_eq rfl rfl

variable {workflowId : String} {w : Workflow}

lemma of_update {f : Workflow → Workflow} (hw : e.workflows.lookup workflowId = some w)
    (hf : Later w (f w)) (hversion : e'.integrationVersion = e.integrationVersion)
    (h : e'.workflows = e.workflows.update workflowId f) : Evolves e e' := by
  refine of_mapRows (f := fun id row => if decide (id = workflowId) = true then f row else row)
    (fun id old hold => ?_) hversion.ge h
  by_cases hid : id = workflowId
  · rw [if_pos (decide_eq_true hid)]
    rw [hid, hw] at hold
    exact Option.some.inj hold ▸ hf
  · rw [if_neg (by simpa using hid)]
    exact .refl old

lemma putWorkflow (hw : e.workflows.lookup workflowId = some w) {w' : Workflow}
    (hlater : Later w w') : Evolves e (e.putWorkflow workflowId w') :=
  of_update (f := fun _ => w') hw hlater rfl rfl

lemma putRows (hw : e.workflows.lookup workflowId = some w) {s : WorkflowState}
    (hversion : s.workflow.version = w.row.version)
    (hcontrol : s.workflow.controlVersion = w.row.controlVersion) :
    Evolves e (e.putRows workflowId s) :=
  of_update (f := fun w =>
      { w with row := s.workflow, runs := s.runs, installations := s.installations })
    hw ⟨rfl, hversion.ge, hcontrol.ge⟩ rfl rfl

lemma ensureWorkflow {type : WorkflowType} {newId : String} {e₁ : Enterprise δ}
    (h : e.ensureWorkflow type newId = .ok (workflowId, e₁)) : Evolves e e₁ := by
  rcases ensureWorkflow_ok h with ⟨rfl, -⟩ | ⟨hnone, -, workflows, hcreate, rfl⟩
  · exact refl _
  · have hlookup := Table.lookup_create hcreate
    refine ⟨le_rfl, fun id w hw => ⟨w, ?_, .refl w⟩, ?_⟩
    · refine (hlookup id).trans ?_
      split_ifs with hid
      · rw [hid, Table.create_fresh hcreate] at hw
        cases hw
      · exact hw
    · intro hdistinct id id' w w' hw hw' htype
      replace hw := (hlookup id).symm.trans hw
      replace hw' := (hlookup id').symm.trans hw'
      split_ifs at hw hw' with hid hid' hid'
      · rw [hid, hid']
      · obtain rfl := Option.some.inj hw
        exact absurd htype.symm (findType_none hnone hw')
      · obtain rfl := Option.some.inj hw'
        exact absurd htype (findType_none hnone hw)
      · exact hdistinct id id' w w' hw hw' htype

lemma foldlM {α : Type} {f : Enterprise δ → α → Except RunError (Enterprise δ)}
    (hf : ∀ e a e', f e a = .ok e' → Evolves e e') {as : List α}
    (h : as.foldlM f e = .ok e') : Evolves e e' := by
  induction as generalizing e with
  | nil =>
    obtain rfl := pure_ok.mp h
    exact refl _
  | cons a as ih =>
    rw [List.foldlM_cons] at h
    obtain ⟨e₁, hstep, hrest⟩ := bind_ok.mp h
    exact (hf e a e₁ hstep).trans (ih hrest)

end Evolves

/-! ### What the operations without a preview keep -/

lemma versions_run {s s' : WorkflowState} {call : Call} {op : RunOperation}
    (hop : unpreviewedRun op = true) (h : op.execute s call = .ok s') :
    s'.workflow.version = s.workflow.version ∧
      s'.workflow.controlVersion = s.workflow.controlVersion := by
  have hdone := WorkflowRuns.done_of_execute h
  cases op with
  | prepareBackfill | start => cases hop
  | renew | resume =>
    obtain ⟨run, install, -, -, rfl⟩ := WorkflowRuns.renew_ok hdone
    exact ⟨rfl, rfl⟩
  | checkActions =>
    cases hdone
    exact ⟨rfl, rfl⟩
  | recordSummary | finish =>
    obtain ⟨run, install, -, -, rfl⟩ := WorkflowRuns.recordSummary_ok hdone
    exact ⟨rfl, rfl⟩
  | release =>
    obtain ⟨run, -, -, -, -, -, rfl⟩ := WorkflowRuns.release_ok hdone
    exact ⟨rfl, rfl⟩

lemma versions_installation {s s' : WorkflowState} {call : Call} {op : InstallationOperation}
    (hop : unpreviewedInstallation op = true) (h : op.execute s call = .ok s') :
    s'.workflow.version = s.workflow.version ∧
      s'.workflow.controlVersion = s.workflow.controlVersion := by
  have hrow : s'.workflow = s.workflow := by
    cases op with
    | register input =>
      unfold InstallationOperation.execute WorkflowState.register at h
      dsimp only at h
      split at h
      · cases h
        rfl
      · split_ifs at h <;> cases h <;> rfl
    | recordChecks installationId checks firstRunVerification =>
      obtain ⟨old, -, h⟩ := bind_ok.mp h
      split_ifs at h
      cases h
      rfl
    | recordHost installationId hostSnapshot =>
      obtain ⟨old, -, h⟩ := bind_ok.mp h
      cases h
      rfl
    | setState installationId expectedVersion state =>
      obtain ⟨old, -, h⟩ := bind_ok.mp h
      split at h
      · cases h
      split at h
      · obtain ⟨install, -, h⟩ := bind_ok.mp h
        split_ifs at h
        cases h
        exact (WorkflowRuns.activateOrderScope_eq s).1
      · cases h
        rfl
    | prepareTakeover | takeover => cases hop
  exact ⟨congrArg (·.version) hrow, congrArg (·.controlVersion) hrow⟩

/-! ### Steps -/

section

variable [DecidableEq δ] {digest : Hashed → δ} {e e' saved : Enterprise δ} {call : Call}
  {w : Workflow} {workflowId previewId : String}

lemma later_restrictRuns (w : Workflow) (before after : WorkflowConfiguration)
    (oldSource newSource : EnterpriseIntegration) :
    Later w (Enterprise.restrictRuns digest w before after oldSource newSource) := by
  unfold Enterprise.restrictRuns
  dsimp only
  split_ifs
  · exact .refl w
  · exact ⟨rfl, le_rfl, Nat.le_succ _⟩

lemma evolves_applyChange {ids : ℕ → String} {shown : Option IntegrationImpact}
    {change : WorkflowChange} (hw : e.workflows.lookup workflowId = some w)
    (h : e.applyChange digest call workflowId w ids shown change = .ok saved) :
    Evolves e saved := by
  cases change with
  | integration configuration =>
    cases shown with
    | none => cases h
    | some impact =>
      unfold Enterprise.applyChange at h
      dsimp only at h
      split_ifs at h
      obtain ⟨-, -, h⟩ := bind_ok.mp h
      cases h
      have hlater (w : Workflow) :
          Later w (Enterprise.restrictDependent digest w e.integration configuration) := by
        unfold Enterprise.restrictDependent
        split
        · exact later_restrictRuns ..
        · exact .refl w
      exact Evolves.of_mapRows (fun _ w _ => hlater w) (Nat.le_succ _) rfl
  | configuration configuration =>
    obtain ⟨-, -, h⟩ := bind_ok.mp h
    unfold Enterprise.saveConfiguration at h
    dsimp only at h
    split at h
    · cases h
    cases h
    refine Evolves.putWorkflow hw ?_
    split
    · rename_i previous _
      obtain ⟨htype, hversion, hcontrol⟩ := @later_restrictRuns δ _ digest w previous
        configuration e.integration e.integration
      exact ⟨htype, hversion.trans (Nat.le_succ _), hcontrol⟩
    · exact ⟨rfl, Nat.le_succ _, le_rfl⟩
  | authorization grant revokeIds =>
    obtain ⟨authorizations, rfl, -⟩ := saveAuthorization_ok h
    exact Evolves.putWorkflow hw ⟨rfl, le_rfl, Nat.le_succ _⟩
  | control state reason =>
    obtain ⟨-, -, h⟩ := bind_ok.mp h
    cases h
    exact Evolves.putWorkflow hw ⟨rfl, le_rfl, Nat.le_succ _⟩

omit [DecidableEq δ] in
lemma evolves_createPreview {change : StoredChange} {confirmationDigest : δ}
    (h : e.createPreview call w change confirmationDigest previewId = .ok e') : Evolves e e' := by
  obtain ⟨previews, -, rfl⟩ := createPreview_ok h
  exact .of_eq rfl rfl

omit [DecidableEq δ] in
lemma evolves_prepareChange {input : PrepareInput} {newId : String}
    (h : e.prepareChange digest call input newId previewId = .ok e') : Evolves e e' := by
  obtain ⟨⟨workflowId, e₁⟩, hensure, h⟩ := bind_ok.mp h
  obtain ⟨w, -, h⟩ := bind_ok.mp h
  obtain ⟨-, -, h⟩ := bind_ok.mp h
  obtain ⟨-, -, h⟩ := bind_ok.mp h
  exact (Evolves.ensureWorkflow hensure).trans (evolves_createPreview h)

lemma evolves_saveChange {input : Enterprise.SaveInput δ} {ids : ℕ → String}
    (h : e.saveChange digest call input ids = .ok e') : Evolves e e' := by
  unfold Enterprise.saveChange at h
  split at h
  · cases h
  rename_i workflowId w hfound
  obtain ⟨-, -, h⟩ := bind_ok.mp h
  split at h
  · cases h
  obtain ⟨saved, hsaved, h⟩ := bind_ok.mp h
  obtain rfl := pure_ok.mp h
  exact (evolves_applyChange (findType_some hfound).1 hsaved).trans (.consume call _)

lemma evolves_takeover {input : Enterprise.TakeoverInput δ}
    (h : e.takeover digest call workflowId input = .ok e') : Evolves e e' := by
  obtain ⟨w, hlock, h⟩ := bind_ok.mp h
  obtain ⟨-, -, h⟩ := bind_ok.mp h
  split at h
  · split_ifs at h
    obtain rfl := pure_ok.mp h
    obtain ⟨hworkflow, -, -⟩ := takenOver_eq (e.rows w) call input.installationId
    obtain ⟨hrow, -, -⟩ := WorkflowRuns.revokeOld_eq (e.rows w) input.installationId
    have hputs : Evolves e
        (e.putRows workflowId ((e.rows w).takenOver call input.installationId)) := by
      refine Evolves.putRows (lockWorkflow_ok.mp hlock) ?_ ?_ <;>
      · rw [hworkflow, WorkflowState.moveRuns, hrow]
        rfl
    exact hputs.trans (.consume call _)
  · cases h

lemma evolves_start {input : Enterprise.StartInput δ} {runId : String}
    (h : e.start digest call workflowId input runId = .ok e') : Evolves e e' := by
  obtain ⟨w, hlock, h⟩ := bind_ok.mp h
  obtain ⟨-, -, h⟩ := bind_ok.mp h
  obtain ⟨install, -, h⟩ := bind_ok.mp h
  split at h
  · cases h
  split at h
  · cases h
  obtain ⟨used, huse, h⟩ := bind_ok.mp h
  split at h
  · cases h
  obtain rfl := pure_ok.mp h
  have hused : used = e ∨ ∃ previewId, used = e.consume call previewId := by
    unfold Enterprise.usePreview at huse
    split at huse
    · split_ifs at huse
      exact .inl (Except.ok.inj huse).symm
    · split at huse
      · cases huse
      split at huse
      · split_ifs at huse
        exact .inr ⟨_, (Except.ok.inj huse).symm⟩
      · cases huse
  have hw := lockWorkflow_ok.mp hlock
  rcases hused with rfl | ⟨previewId, rfl⟩
  · exact Evolves.putWorkflow hw ⟨rfl, le_rfl, le_rfl⟩
  · exact (Evolves.consume call previewId).trans
      (Evolves.putWorkflow (e := e.consume call previewId) hw ⟨rfl, le_rfl, le_rfl⟩)

omit [DecidableEq δ] in
lemma evolves_previewTarget {integration : EnterpriseIntegration}
    {target : Enterprise.MigrationTarget}
    (h : e.previewTarget call integration target = .ok e') : Evolves e e' := by
  obtain ⟨⟨workflowId, e₁⟩, hensure, h⟩ := bind_ok.mp h
  obtain ⟨w, -, h⟩ := bind_ok.mp h
  split at h
  · cases h
  obtain ⟨-, -, h⟩ := bind_ok.mp h
  split_ifs at h
  obtain rfl := pure_ok.mp h
  exact .ensureWorkflow hensure

omit [DecidableEq δ] in
lemma evolves_importTarget {ids : String → ℕ → String} {target : Enterprise.MigrationTarget}
    (h : e.importTarget call ids target = .ok e') : Evolves e e' := by
  obtain ⟨w, hlock, h⟩ := bind_ok.mp h
  split at h
  · cases h
  dsimp only at h
  split at h
  · cases h
  obtain rfl := pure_ok.mp h
  exact .putWorkflow (lockWorkflow_ok.mp hlock) ⟨rfl, Nat.le_succ _, Nat.le_succ _⟩

/-- **No step lowers a version**, or makes a second workflow of a type. -/
theorem evolves_step (e : Enterprise δ) (t : Transaction δ) : Evolves e (step digest e t) := by
  refine Runs.commit_induction (.refl e) fun e' h => ?_
  obtain ⟨call, op⟩ := t
  cases op with
  | prepareChange => exact evolves_prepareChange h
  | saveChange => exact evolves_saveChange h
  | prepareTakeover =>
    obtain ⟨w, -, h⟩ := bind_ok.mp h
    obtain ⟨-, -, h⟩ := bind_ok.mp h
    split_ifs at h
    exact evolves_createPreview h
  | takeover => exact evolves_takeover h
  | prepareBackfill =>
    obtain ⟨w, -, h⟩ := bind_ok.mp h
    obtain ⟨-, -, h⟩ := bind_ok.mp h
    obtain ⟨-, -, h⟩ := bind_ok.mp h
    split_ifs at h
    exact evolves_createPreview h
  | start => exact evolves_start h
  | previewMigration targetVersion integration targets =>
    unfold Operation.execute Enterprise.previewMigration at h
    dsimp only at h
    split_ifs at h
    obtain ⟨-, -, h⟩ := bind_ok.mp h
    exact Evolves.foldlM (fun _ _ _ => evolves_previewTarget) h
  | importMigration targetVersion integration targets ids =>
    unfold Operation.execute Enterprise.importMigration at h
    dsimp only at h
    split_ifs at h
    obtain ⟨imported, hfold, h⟩ := bind_ok.mp h
    obtain rfl := pure_ok.mp h
    refine (Evolves.foldlM (fun _ _ _ => evolves_importTarget) hfold).trans ?_
    exact ⟨Nat.le_succ _, (Evolves.refl imported).kept, (Evolves.refl imported).distinct⟩
  | run workflowId op =>
    obtain ⟨w, hlock, h⟩ := bind_ok.mp h
    obtain ⟨s, hop, h⟩ := bind_ok.mp h
    obtain rfl := pure_ok.mp h
    obtain ⟨hversion, hcontrol⟩ := versions_run op.2 hop
    exact .putRows (lockWorkflow_ok.mp hlock) hversion hcontrol
  | installation workflowId op =>
    obtain ⟨w, hlock, h⟩ := bind_ok.mp h
    obtain ⟨s, hop, h⟩ := bind_ok.mp h
    obtain rfl := pure_ok.mp h
    obtain ⟨hversion, hcontrol⟩ := versions_installation op.2 hop
    exact .putRows (lockWorkflow_ok.mp hlock) hversion hcontrol

end

/-! ### The previews of a run -/

section

variable [DecidableEq δ] {digest : Hashed → δ}

lemma previews_of_other {e e' : Enterprise δ} {t : Transaction δ} (hprepares : t.op.prepares = none)
    (huses : t.op.uses = none) (h : t.op.execute digest e t.call = .ok e') :
    e'.previews = e.previews := by
  obtain ⟨call, op⟩ := t
  cases op with
  | prepareChange | prepareTakeover | prepareBackfill => cases hprepares
  | saveChange | takeover => cases huses
  | start workflowId input runId =>
    obtain ⟨w, -, h⟩ := bind_ok.mp h
    obtain ⟨-, -, h⟩ := bind_ok.mp h
    obtain ⟨install, -, h⟩ := bind_ok.mp h
    split at h
    · cases h
    split at h
    · cases h
    obtain ⟨used, huse, h⟩ := bind_ok.mp h
    split at h
    · cases h
    obtain rfl := pure_ok.mp h
    unfold Enterprise.usePreview at huse
    split at huse
    · split_ifs at huse
      cases huse
      rfl
    · rename_i confirmationDigest hmode
      obtain ⟨_, _, _, _, _, _, _, mode⟩ := input
      dsimp only at hmode
      subst hmode
      cases huses
  | previewMigration targetVersion integration targets =>
    unfold Operation.execute Enterprise.previewMigration at h
    dsimp only at h
    split_ifs at h
    obtain ⟨-, -, h⟩ := bind_ok.mp h
    refine Fallible.foldlM_keeps (g := (·.previews)) (fun e target e' h => ?_) h
    obtain ⟨⟨workflowId, e₁⟩, hensure, h⟩ := bind_ok.mp h
    obtain ⟨w, -, h⟩ := bind_ok.mp h
    split at h
    · cases h
    obtain ⟨-, -, h⟩ := bind_ok.mp h
    split_ifs at h
    obtain rfl := pure_ok.mp h
    exact ensureWorkflow_previews hensure
  | importMigration targetVersion integration targets ids =>
    unfold Operation.execute Enterprise.importMigration at h
    dsimp only at h
    split_ifs at h
    obtain ⟨imported, hfold, h⟩ := bind_ok.mp h
    obtain rfl := pure_ok.mp h
    refine Fallible.foldlM_keeps (g := (·.previews)) (fun e target e' h => ?_) hfold
    obtain ⟨w, hlock, h⟩ := bind_ok.mp h
    split at h
    · cases h
    dsimp only at h
    split at h
    · cases h
    obtain rfl := pure_ok.mp h
    rfl
  | run workflowId op =>
    obtain ⟨w, -, h⟩ := bind_ok.mp h
    obtain ⟨s, -, h⟩ := bind_ok.mp h
    obtain rfl := pure_ok.mp h
    rfl
  | installation workflowId op =>
    obtain ⟨w, -, h⟩ := bind_ok.mp h
    obtain ⟨s, -, h⟩ := bind_ok.mp h
    obtain rfl := pure_ok.mp h
    rfl

/-- **What a step does to a preview**: it leaves it, or prepares it, or uses it. -/
theorem step_previews (hdigest : Function.Injective digest) (e : Enterprise δ) (t : Transaction δ)
    (previewId : String) :
    (step digest e t).previews.lookup previewId = e.previews.lookup previewId ∨
    (∃ workflowId preview, Prepares digest e t workflowId previewId preview) ∨
    ∃ workflowId preview, Uses digest e t workflowId previewId preview := by
  cases h : t.op.execute digest e t.call with
  | error refusal =>
    left
    rw [step, h, Runs.commit]
  | ok e' =>
    cases hprepares : t.op.prepares with
    | some prepared =>
      obtain ⟨kind, id⟩ := prepared
      obtain ⟨workflowId, preview, hprepare⟩ := exists_prepares hprepares h
      by_cases hid : previewId = id
      · exact .inr (.inl ⟨workflowId, preview, hid ▸ hprepare⟩)
      · exact .inl (hprepare.others previewId hid)
    | none =>
      cases huses : t.op.uses with
      | some kind =>
        obtain ⟨workflowId, id, preview, huse⟩ := exists_uses hdigest huses h
        by_cases hid : previewId = id
        · exact .inr (.inr ⟨workflowId, preview, hid ▸ huse⟩)
        · exact .inl (huse.others previewId hid)
      | none =>
        left
        rw [step_ok h, previews_of_other hprepares huses h]

/-- What stays of a preview, and whether it has been used. -/
def seen (preview : WorkflowChangePreview δ) : WorkflowChangePreview δ × Bool :=
  ({ preview with consumedAt := none }, preview.consumedAt.isSome)

omit [DecidableEq δ] in
lemma seen_unused {preview : WorkflowChangePreview δ} (h : preview.consumedAt = none) :
    seen preview = (preview, false) := by
  obtain ⟨_, _, _, _, _, _, _, _, consumedAt⟩ := preview
  dsimp only at h
  subst h
  rfl

/-- Previews are used once. -/
def singleUse (hdigest : Function.Injective digest) :
    SingleUse (step digest) String (WorkflowChangePreview δ) where
  find e previewId := (e.previews.lookup previewId).map seen
  Issues e t previewId preview := ∃ workflowId, Prepares digest e t workflowId previewId preview
  Uses e t previewId preview := ∃ workflowId, Uses digest e t workflowId previewId preview
  origin e t previewId preview used h := by
    rcases step_previews hdigest e t previewId with hsame | ⟨workflowId, prepared, hprepare⟩ |
      ⟨workflowId, old, huse⟩
    · exact .inl ⟨used, hsame ▸ h⟩
    · rw [hprepare.stored, Option.map_some, seen_unused hprepare.unused] at h
      cases h
      exact .inr ⟨workflowId, hprepare⟩
    · rw [huse.consumed, Option.map_some] at h
      cases h
      refine .inl ⟨false, ?_⟩
      rw [huse.stored, Option.map_some, seen_unused huse.unused]
      exact congrArg (fun p => some (p, false)) (congrArg Prod.fst (seen_unused huse.unused)).symm
  spent e t previewId preview h := by
    rcases step_previews hdigest e t previewId with hsame | ⟨workflowId, prepared, hprepare⟩ |
      ⟨workflowId, old, huse⟩
    · rw [hsame]
      exact h
    · rw [hprepare.absent] at h
      cases h
    · rw [huse.stored, Option.map_some, seen_unused huse.unused] at h
      cases h
  unused e t previewId preview := by
    rintro ⟨workflowId, huse⟩
    rw [huse.stored, Option.map_some, seen_unused huse.unused]
  used e t previewId preview := by
    rintro ⟨workflowId, huse⟩
    rw [huse.consumed, Option.map_some]
    exact congrArg (fun p => some (p, true)) (congrArg Prod.fst (seen_unused huse.unused))

end

/-! ### Runs -/

/-- The version of the integration, and the versions of a workflow that is there. -/
def versions (e : Enterprise δ) (workflowId : String) : ℕ × Option (ℕ × ℕ) :=
  (e.integrationVersion,
    (e.workflows.lookup workflowId).map fun w => (w.row.version, w.row.controlVersion))

section

variable [DecidableEq δ] (digest : Hashed → δ)

/-- The enterprise after some transactions: at first it has no workflows and no previews. -/
def after (ts : List (Transaction δ)) : Enterprise δ := Runs.run (step digest) {} ts

/-- A transaction of a run uses a preview that its caller prepared for the workflow earlier in the
run. No transaction has used it before, and since the preparation neither the versions of the
workflow nor that of the integration have changed. -/
def UsedAsPreviewed (earlier : List (Transaction δ)) (t : Transaction δ) : Prop :=
  ∃ before preparation between workflowId previewId preview,
    earlier = before ++ preparation :: between ∧
    Prepares digest (after digest before) preparation workflowId previewId preview ∧
    Uses digest (after digest earlier) t workflowId previewId preview ∧
    (∀ pre post, between = pre ++ post →
      versions (after digest (before ++ preparation :: pre)) workflowId =
        versions (after digest earlier) workflowId) ∧
    ∀ pre used post workflowId' preview', earlier = pre ++ used :: post →
      ¬ Uses digest (after digest pre) used workflowId' previewId preview'

variable {digest}

lemma after_append (ts ts' : List (Transaction δ)) :
    after digest (ts ++ ts') = Runs.run (step digest) (after digest ts) ts' := Runs.run_append ..

lemma evolves_run (e : Enterprise δ) (ts : List (Transaction δ)) :
    Evolves e (Runs.run (step digest) e ts) :=
  Runs.run_mono (R := Evolves) .refl (fun _ _ _ => .trans) evolves_step ts

/-- Versions in their order: a workflow that is not there is below all. -/
def ranked (v : ℕ × Option (ℕ × ℕ)) : ℕ × WithBot (ℕ × ℕ) := v

lemma versions_mono (workflowId : String) (e : Enterprise δ) (t : Transaction δ) :
    ranked (versions e workflowId) ≤ ranked (versions (step digest e t) workflowId) := by
  obtain ⟨hintegration, hkept, -⟩ := @evolves_step δ _ digest e t
  refine ⟨hintegration, ?_⟩
  cases hw : e.workflows.lookup workflowId with
  | none =>
    rw [versions, hw]
    exact @bot_le (WithBot (ℕ × ℕ)) _ _ _
  | some w =>
    obtain ⟨w', hw', hlater⟩ := hkept workflowId w hw
    rw [versions, versions, hw, hw']
    exact WithBot.coe_le_coe.mpr ⟨hlater.version, hlater.controlVersion⟩

lemma same_workflow {earlier : List (Transaction δ)} {e' : Enterprise δ}
    {w w' : Workflow} {workflowId workflowId' : String} (hevolves : Evolves (after digest earlier) e')
    (hw : (after digest earlier).workflows.lookup workflowId = some w)
    (hw' : e'.workflows.lookup workflowId' = some w') (htype : w.type = w'.type) :
    workflowId = workflowId' := by
  have hdistinct : Distinct (after digest earlier) :=
    (evolves_run {} earlier).distinct fun _ _ _ _ h => by cases h
  obtain ⟨later, hlater, hkept⟩ := hevolves.kept workflowId w hw
  exact hevolves.distinct hdistinct workflowId workflowId' later w' hlater hw'
    (hkept.type.trans htype)

/-- Each accepted use goes back to a preparation. -/
theorem used_as_previewed (hdigest : Function.Injective digest) {earlier : List (Transaction δ)}
    {t : Transaction δ} {kind : PreviewKind} (hkind : t.op.uses = some kind) {e' : Enterprise δ}
    (h : t.op.execute digest (after digest earlier) t.call = .ok e') :
    UsedAsPreviewed digest earlier t := by
  obtain ⟨workflowId, previewId, preview, huse⟩ := exists_uses hdigest hkind h
  have hspent : (singleUse hdigest).Uses (Runs.run (step digest) {} earlier) t previewId preview :=
    ⟨workflowId, huse⟩
  obtain ⟨before, preparation, between, rfl, ⟨workflowId', hprepare⟩, hunused⟩ :=
    (singleUse hdigest).issued_before_use rfl hspent
  replace hprepare : Prepares digest (after digest before) preparation workflowId' previewId
    preview := hprepare
  obtain ⟨prepared, hprepared, hthen⟩ := hprepare.current
  obtain ⟨w, w', hw, hnow, -⟩ := huse.applies
  -- the run from the preparation to the use
  have hsplit (ts : List (Transaction δ)) : after digest (before ++ preparation :: ts) =
      Runs.run (step digest) (step digest (after digest before) preparation) ts :=
    after_append ..
  have hthere : after digest (before ++ [preparation]) =
      step digest (after digest before) preparation := hsplit []
  have hevolves : Evolves (after digest (before ++ [preparation]))
      (after digest (before ++ preparation :: between)) := by
    rw [hthere, hsplit between]
    exact evolves_run ..
  obtain rfl : workflowId' = workflowId :=
    same_workflow hevolves (hthere ▸ hprepared) hw (hthen.type.symm.trans hnow.type)
  refine ⟨before, preparation, between, workflowId', previewId, preview, rfl, hprepare, huse, ?_, ?_⟩
  · have hends : versions (after digest (before ++ preparation :: between)) workflowId' =
        versions (step digest (after digest before) preparation) workflowId' := by
      have hleft : versions (after digest (before ++ preparation :: between)) workflowId' =
          (preview.expectedIntegrationVersion,
            some (preview.expectedVersion, preview.expectedControlVersion)) := by
        rw [versions, hw, hnow.integrationVersion, hnow.version, hnow.controlVersion,
          Option.map_some]
      have hright : versions (step digest (after digest before) preparation) workflowId' =
          (preview.expectedIntegrationVersion,
            some (preview.expectedVersion, preview.expectedControlVersion)) := by
        rw [versions, hprepared, hthen.integrationVersion, hthen.version, hthen.controlVersion,
          Option.map_some]
      rw [hleft, hright]
    rintro pre post rfl
    rw [hends, hsplit pre]
    rw [hsplit] at hends
    exact SingleUse.constant_between (f := fun e => ranked (versions e workflowId'))
      (versions_mono workflowId') hends
  · intro pre used post workflowId' preview' hsplit' hused
    have hagain : (singleUse hdigest).Uses
        (Runs.run (step digest) {} (pre ++ used :: post)) t previewId preview :=
      ⟨_, hsplit' ▸ huse⟩
    exact (singleUse hdigest).not_used_again ⟨workflowId', hused⟩ hagain

/-- **Workflow changes take effect only as previewed.** In every run, an accepted save, takeover or
start of a backfill uses a preview that its caller prepared for the workflow, and does what is
stored in it; a preview is used up by nothing else; and what is refused changes nothing. -/
theorem changes_as_previewed (hdigest : Function.Injective digest)
    (earlier : List (Transaction δ)) (t : Transaction δ) :
    (∀ kind e', t.op.uses = some kind →
      t.op.execute digest (after digest earlier) t.call = .ok e' →
      UsedAsPreviewed digest earlier t) ∧
    (∀ previewId preview, (after digest earlier).previews.lookup previewId = some preview →
      (step digest (after digest earlier) t).previews.lookup previewId = some preview ∨
      ∃ workflowId, Uses digest (after digest earlier) t workflowId previewId preview) ∧
    ∀ refusal, t.op.execute digest (after digest earlier) t.call = .error refusal →
      step digest (after digest earlier) t = after digest earlier := by
  refine ⟨fun kind e' hkind h => used_as_previewed hdigest hkind h, ?_, ?_⟩
  · intro previewId preview hpreview
    rcases step_previews hdigest (after digest earlier) t previewId with hsame |
      ⟨workflowId, prepared, hprepare⟩ | ⟨workflowId, used, huse⟩
    · exact .inl (hsame.trans hpreview)
    · rw [hprepare.absent] at hpreview
      cases hpreview
    · obtain rfl : used = preview := Option.some.inj (huse.stored.symm.trans hpreview)
      exact .inr ⟨workflowId, huse⟩
  · intro refusal hrefused
    rw [step, hrefused, Runs.commit]

variable (digest) in
/-- **Versions that have been left never come back**: after any transactions an enterprise has one
workflow of a type, no workflow has gone, changed its type or lowered a version, and the versions
that a client has read are never stored again once others are. -/
theorem versions_never_return (earlier between later : List (Transaction δ)) (workflowId : String) :
    let e := after digest earlier
    let e' := after digest (earlier ++ between)
    let e'' := after digest (earlier ++ between ++ later)
    Distinct e'' ∧
      (∀ id w, e.workflows.lookup id = some w →
        ∃ w', e''.workflows.lookup id = some w' ∧ Later w w') ∧
      (versions e' workflowId ≠ versions e workflowId →
        versions e'' workflowId ≠ versions e workflowId) := by
  intro e e' e''
  let R (e e' : Enterprise δ) := ranked (versions e workflowId) ≤ ranked (versions e' workflowId)
  have hgrow : ∀ e ts, R e (Runs.run (step digest) e ts) := fun _ =>
    Runs.run_mono (R := R) (fun _ => le_rfl) (fun _ _ _ => le_trans) (versions_mono workflowId)
  have hevolves : ∀ e, Evolves (after digest e) (after digest (e ++ later)) := fun e => by
    rw [after_append]
    exact evolves_run _ later
  have hbefore : Evolves e e' := by
    rw [show e' = _ from after_append ..]
    exact evolves_run e between
  refine ⟨(evolves_run _ _).distinct fun id _ w _ hw => ?_,
    (hbefore.trans (hevolves _)).kept, fun hne heq => hne ?_⟩
  · cases hw
  · have hle : ranked (versions e' workflowId) ≤ ranked (versions e'' workflowId) := by
      rw [show e'' = _ from after_append ..]
      exact hgrow e' later
    have hge : ranked (versions e workflowId) ≤ ranked (versions e' workflowId) := by
      rw [show e' = _ from after_append ..]
      exact hgrow e between
    rw [heq] at hle
    have hsame : ranked (versions e' workflowId) = ranked (versions e workflowId) :=
      le_antisymm hle hge
    exact hsame

end

/-- A call with everything in order. -/
def settledCall (now : ℕ) : Call where
  actorId := "admin"
  now := now
  checks :=
    { enabled := true, launcherSupported := fun _ => true
      supportsWorkflowPackageVersion := fun _ => true, storesValid := fun _ => true
      valid := fun _ _ => true, readable := fun _ => true, scheduledWindow := ⟨"", ""⟩
      present := fun _ => false, confirmedActions := fun _ => 0, pendingActions := fun _ => 0
      pending := ⟨[], 0, none⟩, authorizations := true, sameImpact := true }

def reportInput : PrepareInput :=
  ⟨.weeklyReport, 0, 0, 0, .configuration (.weeklyReport ["centre"] ⟨false, [], none⟩)⟩

/-- The configuration of a weekly report is prepared. -/
def reportPrepared : Transaction Hashed :=
  ⟨settledCall 0, .prepareChange reportInput "report" "preview"⟩

/-- It is saved a minute later. -/
def reportSaved : Transaction Hashed :=
  ⟨settledCall 60000, .saveChange
    ⟨.weeklyReport, 0, 0, 0, "preview",
      .change "preview" "admin" reportInput (.change reportInput.change)⟩ fun _ => ""⟩

theorem report_saved_as_previewed : UsedAsPreviewed id [reportPrepared] reportSaved := by
  obtain ⟨e', h⟩ := Fallible.exists_ok
    (x := reportSaved.op.execute id (after id [reportPrepared]) reportSaved.call)
    (by decide +kernel)
  exact (changes_as_previewed Function.injective_id [reportPrepared] reportSaved).1 .change e' rfl h

end WorkflowPreviews
end SmeDataCenter
