import SmeDataCenter.WorkflowRuns

/-!
# Runs are exclusive

Whatever installations and administrators do to a workflow, it has at most one unfinished run;
the lease names an unfinished run of the assigned installation in the epoch as it is; only the
assigned installation is enabled; and a run request that changes anything comes from it.
-/

namespace SmeDataCenter
namespace WorkflowRuns

open Fallible (bind_ok pure_ok)

/-! ### What is claimed of a state and of a request -/

structure Exclusive (s : WorkflowState) : Prop where
  one_unfinished : ∀ id id' run run', s.runs.lookup id = some run →
    s.runs.lookup id' = some run' → run.finishedAt = none → run'.finishedAt = none → id = id'
  lease : ∀ id, s.workflow.leaseRunId = some id → ∃ run, s.runs.lookup id = some run ∧
    run.finishedAt = none ∧ s.workflow.assignedInstallationId = some run.installationId ∧
    run.assignmentEpoch = s.workflow.assignmentEpoch
  one_enabled : ∀ id install, s.installations.lookup id = some install →
    install.state = .enabled → s.workflow.assignedInstallationId = some id

namespace RunOperation

def installationId : RunOperation → String
  | .prepareBackfill installationId .. => installationId
  | .start input _ => input.installationId
  | .renew binding | .resume binding | .checkActions binding | .recordSummary binding _
  | .finish binding _ | .release binding => binding.installationId

def assignmentEpoch : RunOperation → ℕ
  | .prepareBackfill _ assignmentEpoch .. => assignmentEpoch
  | .start input _ => input.assignmentEpoch
  | .renew binding | .resume binding | .checkActions binding | .recordSummary binding _
  | .finish binding _ | .release binding => binding.assignmentEpoch

/-- The control version a request expects; a release and a preview expect none. -/
def controlVersion : RunOperation → Option ℕ
  | .prepareBackfill .. | .release _ => none
  | .start input _ => some input.expectedControlVersion
  | .renew binding | .resume binding | .checkActions binding | .recordSummary binding _
  | .finish binding _ => some binding.controlVersion

/-- The run whose lease a request needs. -/
def leasedRun : RunOperation → Option String
  | .renew binding | .checkActions binding | .recordSummary binding _ | .finish binding _ =>
    some binding.runId
  | .prepareBackfill .. | .start .. | .resume _ | .release _ => none

end RunOperation

/-- A request comes from the assigned installation, in the epoch as it is, and knows what it has
to know: the control version, and the lease that is running. -/
structure Permitted (s : WorkflowState) (call : Call) (op : RunOperation) : Prop where
  assigned : s.workflow.assignedInstallationId = some op.installationId
  epoch : s.workflow.assignmentEpoch = op.assignmentEpoch
  employee : ∃ install, s.installations.lookup op.installationId = some install ∧
    install.employeeId = call.actorId
  control : ∀ version, op.controlVersion = some version → s.workflow.controlVersion = version
  lease : ∀ runId, op.leasedRun = some runId → s.workflow.leaseRunId = some runId ∧
    ∃ expiresAt, s.workflow.leaseExpiresAt = some expiresAt ∧ call.now < expiresAt

/-! ### What the checks find -/

section

variable {s s' : WorkflowState} {call : Call}

variable {install : WorkflowInstallation}

variable {installationId : String}

lemma getInstallation_ok {allowRevoked : Bool}
    (h : s.getInstallation call installationId allowRevoked = .ok install) :
    s.installations.lookup installationId = some install ∧ install.employeeId = call.actorId := by
  unfold WorkflowState.getInstallation at h
  cases hrow : s.installations.lookup installationId with
  | none =>
    rw [hrow] at h
    cases h
  | some row =>
    rw [hrow] at h
    dsimp only at h
    split_ifs at h with hrefused
    cases h
    simp only [Bool.or_eq_true, decide_eq_true_eq, not_or, not_not] at hrefused
    exact ⟨rfl, hrefused.1⟩

/-- What a bound call has found. -/
structure Bound (s : WorkflowState) (call : Call) (binding : RunBinding) (run : WorkflowRun)
    (install : WorkflowInstallation) : Prop where
  installation : s.installations.lookup binding.installationId = some install
  employee : install.employeeId = call.actorId
  control : s.workflow.controlVersion = binding.controlVersion
  assigned : s.workflow.assignedInstallationId = some binding.installationId
  epoch : s.workflow.assignmentEpoch = binding.assignmentEpoch
  row : s.runs.lookup binding.runId = some run
  run_installation : run.installationId = binding.installationId
  run_epoch : run.assignmentEpoch = binding.assignmentEpoch
  unfinished : run.finishedAt = none

variable {binding : RunBinding}

lemma requireBinding_ok {requireLease : Bool} {run : WorkflowRun}
    (h : s.requireBinding call binding requireLease = .ok (run, install)) :
    Bound s call binding run install ∧ (requireLease = true →
      s.workflow.leaseRunId = some binding.runId ∧
        ∃ expiresAt, s.workflow.leaseExpiresAt = some expiresAt ∧ call.now < expiresAt) := by
  obtain ⟨found, hfound, h⟩ := bind_ok.mp h
  obtain ⟨hinstallation, hemployee⟩ := getInstallation_ok hfound
  split at h
  · cases h
  rename_i hcontrol
  split at h
  · cases h
  rename_i hassigned
  simp only [Bool.or_eq_true, decide_eq_true_eq, not_or, not_not] at hcontrol hassigned
  cases hrun : s.runs.lookup binding.runId with
  | none =>
    rw [hrun] at h
    cases h
  | some row =>
    rw [hrun] at h
    dsimp only at h
    split_ifs at h with hother hlease hnone
    cases h
    simp only [Bool.or_eq_true, decide_eq_true_eq, not_or, not_not, Bool.not_eq_true,
      Option.isSome_eq_false_iff, Option.isNone_iff_eq_none] at hother
    refine ⟨⟨hinstallation, hemployee, hcontrol.2, hassigned.1.1, hassigned.1.2, hrun,
      hother.1.1.1, hother.1.2, hother.2⟩, fun hrequired => ?_⟩
    simp only [hrequired, Bool.true_and, Bool.or_eq_true, decide_eq_true_eq, not_or,
      not_not] at hlease
    obtain ⟨hholds, htime⟩ := hlease
    refine ⟨hholds, ?_⟩
    cases hexpires : s.workflow.leaseExpiresAt with
    | none =>
      rw [hexpires] at htime
      exact absurd rfl htime
    | some expiresAt =>
      rw [hexpires, Option.all_some, decide_eq_true_eq] at htime
      exact ⟨expiresAt, rfl, not_le.mp htime⟩

lemma requireReady_ok {allowRevoked : Bool}
    (h : s.requireReady call installationId allowRevoked = .ok install) :
    s.installations.lookup installationId = some install ∧ install.employeeId = call.actorId := by
  obtain ⟨found, hfound, h⟩ := bind_ok.mp h
  cases hconfig : s.configuration with
  | none =>
    rw [hconfig] at h
    cases h
  | some config =>
    rw [hconfig] at h
    dsimp only at h
    split_ifs at h
    cases h
    exact getInstallation_ok hfound

/-! ### What the run operations do -/

lemma start_ok {input : StartInput} {runId : String} (h : s.start call input runId = .ok s') :
    (∃ install, s.installations.lookup input.installationId = some install ∧
      install.employeeId = call.actorId) ∧
    s.workflow.controlVersion = input.expectedControlVersion ∧
    s.workflow.assignedInstallationId = some input.installationId ∧
    s.workflow.assignmentEpoch = input.assignmentEpoch ∧
    (∀ id run, s.runs.lookup id = some run → run.finishedAt ≠ none) ∧
    ∃ run runs previews, s.runs.create runId run = some runs ∧
      run.installationId = input.installationId ∧ run.employeeId = call.actorId ∧
      run.assignmentEpoch = s.workflow.assignmentEpoch ∧ run.finishedAt = none ∧
      s' = { s with
        runs, previews
        workflow := { s.workflow with
          leaseRunId := some runId, leaseExpiresAt := some (call.now + leaseTime) } } := by
  obtain ⟨install, hready, h⟩ := bind_ok.mp h
  split at h
  · cases h
  rename_i hcontrol
  split at h
  · cases h
  rename_i hassigned
  simp only [Bool.or_eq_true, decide_eq_true_eq, not_or, not_not] at hcontrol hassigned
  cases hconfig : s.configuration with
  | none =>
    rw [hconfig] at h
    cases h
  | some config =>
    rw [hconfig] at h
    dsimp only at h
    split at h
    · cases h
    split at h
    · cases h
    split at h
    · cases h
    obtain ⟨⟨⟩, -, h⟩ := bind_ok.mp h
    split at h
    · cases h
    split at h
    · cases h
    rename_i hbusy
    obtain ⟨previews, -, h⟩ := bind_ok.mp h
    split at h
    · cases h
    rename_i runs hruns
    cases h
    refine ⟨⟨install, requireReady_ok hready⟩, hcontrol.2, hassigned.1.1, hassigned.1.2,
      fun id run hrun hopen => ?_, _, runs, previews, hruns, rfl, rfl, rfl, rfl, rfl⟩
    rw [not_not] at hbusy
    have hmem : (id, run) ∈ s.runs.findMany fun _ run => run.finishedAt.isNone :=
      Table.mem_findMany.mpr ⟨hrun, by rw [hopen]; rfl⟩
    rw [hbusy] at hmem
    cases hmem

lemma prepareBackfill_ok {assignmentEpoch : ℕ} {window : DateRange} {windowAllowed : Bool}
    {previewId confirmationDigest : String}
    (h : s.prepareBackfill call installationId assignmentEpoch window windowAllowed previewId
      confirmationDigest = .ok s') :
    ∃ previews, s' = { s with previews } := by
  obtain ⟨install, -, h⟩ := bind_ok.mp h
  split at h
  · cases h
  split at h
  · cases h
  dsimp only at h
  split at h
  · cases h
  rename_i previews _
  cases h
  exact ⟨previews, rfl⟩

lemma release_ok (h : s.release call binding = .ok s') :
    ∃ run, s.runs.lookup binding.runId = some run ∧ run.employeeId = call.actorId ∧
      run.installationId = binding.installationId ∧
      s.workflow.assignedInstallationId = some binding.installationId ∧
      s.workflow.assignmentEpoch = binding.assignmentEpoch ∧
      s' = { s with
        workflow := { s.workflow with leaseRunId := none, leaseExpiresAt := none } } := by
  unfold WorkflowState.release at h
  split at h
  · cases h
  rename_i run hrun
  split at h
  · cases h
  rename_i hassigned
  obtain ⟨hfound, hsame⟩ := Option.filter_eq_some_iff.mp hrun
  simp only [Bool.or_eq_true, decide_eq_true_eq, not_or, not_not] at hassigned
  simp only [Bool.and_eq_true, decide_eq_true_eq] at hsame
  cases h
  exact ⟨run, hfound, hsame.1.1, hsame.1.2, hassigned.1.1, hassigned.1.2, rfl⟩

lemma renew_ok {resume : Bool} (h : s.renew call binding resume = .ok s') :
    ∃ run install, Bound s call binding run install ∧
      (resume = false → s.workflow.leaseRunId = some binding.runId ∧
        ∃ expiresAt, s.workflow.leaseExpiresAt = some expiresAt ∧ call.now < expiresAt) ∧
      s' = { s with
        workflow := { s.workflow with
          leaseRunId := some binding.runId, leaseExpiresAt := some (call.now + leaseTime) }
        runs := s.runs.update binding.runId fun run =>
          { run with renewedAt := call.now, controlVersion := s.workflow.controlVersion } } := by
  obtain ⟨⟨run, install⟩, hbinding, h⟩ := bind_ok.mp h
  obtain ⟨hbound, hlease⟩ := requireBinding_ok hbinding
  obtain ⟨⟨⟩, -, h⟩ := bind_ok.mp h
  split at h
  · cases h
  split at h
  · cases h
  cases h
  exact ⟨run, install, hbound, fun hrenew => hlease (by rw [hrenew]; rfl), rfl⟩

lemma recordSummary_ok {summary : RunSummary} {finish : Bool}
    (h : s.recordSummary call binding summary finish = .ok s') :
    ∃ run install, Bound s call binding run install ∧
      (s.workflow.leaseRunId = some binding.runId ∧
        ∃ expiresAt, s.workflow.leaseExpiresAt = some expiresAt ∧ call.now < expiresAt) ∧
      s' = { s with
        runs := s.runs.update binding.runId fun run =>
          { run with
            summary := some summary, status := summary.status, phase := summary.phase
            finishedAt := if finish then some call.now else run.finishedAt
            retainUntil := if finish then call.now + runRetention else run.retainUntil }
        workflow := if finish then { s.workflow with leaseRunId := none, leaseExpiresAt := none }
          else s.workflow } := by
  obtain ⟨⟨run, install⟩, hbinding, h⟩ := bind_ok.mp h
  obtain ⟨hbound, hlease⟩ := requireBinding_ok hbinding
  obtain ⟨⟨⟩, -, h⟩ := bind_ok.mp h
  dsimp only at h
  split at h
  · cases h
  cases h
  exact ⟨run, install, hbound, hlease rfl, rfl⟩

/-- What a request that was not refused did. -/
def RunOperation.Done (s : WorkflowState) (call : Call) (s' : WorkflowState) :
    RunOperation → Prop
  | .prepareBackfill installationId assignmentEpoch window windowAllowed previewId digest =>
    s.prepareBackfill call installationId assignmentEpoch window windowAllowed previewId digest =
      .ok s'
  | .start input runId => s.start call input runId = .ok s'
  | .renew binding => s.renew call binding false = .ok s'
  | .resume binding => s.renew call binding true = .ok s'
  | .checkActions _ => s' = s
  | .recordSummary binding summary => s.recordSummary call binding summary false = .ok s'
  | .finish binding summary => s.recordSummary call binding summary true = .ok s'
  | .release binding => s.release call binding = .ok s'

variable {op : RunOperation}

lemma done_of_execute (h : op.execute s call = .ok s') : op.Done s call s' := by
  cases op with
  | checkActions binding =>
    obtain ⟨-, -, h⟩ := bind_ok.mp h
    cases h
    rfl
  | recordSummary | finish | release => exact h
  | prepareBackfill | start | renew | resume =>
    unfold RunOperation.execute at h
    dsimp only at h
    split at h
    · cases h
    · exact h

/-! ### The invariant -/

/-- Whom a run is bound to. -/
def WorkflowRun.bound (run : WorkflowRun) : String × String × ℕ × Option ℕ :=
  (run.installationId, run.employeeId, run.assignmentEpoch, run.finishedAt)

/-- Whose an installation is, and its state. -/
def WorkflowInstallation.standing (install : WorkflowInstallation) :
    String × InstallationState :=
  (install.employeeId, install.state)

/-- A run belongs to the employee of its installation. -/
def RunsOwned (s : WorkflowState) : Prop :=
  ∀ id run, s.runs.lookup id = some run → ∃ install,
    s.installations.lookup run.installationId = some install ∧
      install.employeeId = run.employeeId

structure SoundRuns (s : WorkflowState) : Prop extends Exclusive s where
  owned : RunsOwned s

lemma soundRuns_initial (integrationVersion : ℕ) (integration : EnterpriseIntegration)
    (orderScopeRequired : Bool) :
    SoundRuns (.initial integrationVersion integration orderScopeRequired) where
  one_unfinished id id' run run' h := by simp [WorkflowState.initial] at h
  lease id h := by simp [WorkflowState.initial] at h
  one_enabled id install h := by simp [WorkflowState.initial] at h
  owned id run h := by simp [WorkflowState.initial] at h

/-- The lease of a state names a run that holds it. -/
def LeaseHeld (s : WorkflowState) : Prop :=
  ∀ id, s.workflow.leaseRunId = some id → ∃ run, s.runs.lookup id = some run ∧
    run.finishedAt = none ∧ s.workflow.assignedInstallationId = some run.installationId ∧
    run.assignmentEpoch = s.workflow.assignmentEpoch

lemma SoundRuns.of_back (hs : SoundRuns s)
    (hruns : ∀ id run', s'.runs.lookup id = some run' → ∃ run, s.runs.lookup id = some run ∧
      run'.installationId = run.installationId ∧ run'.employeeId = run.employeeId ∧
      (run'.finishedAt = none → run.finishedAt = none))
    (hinstalls : Table.Keeps WorkflowInstallation.standing s.installations s'.installations)
    (hassigned : s'.workflow.assignedInstallationId = s.workflow.assignedInstallationId)
    (hlease : LeaseHeld s') : SoundRuns s' where
  one_unfinished id id' run run' h h' hopen hopen' := by
    obtain ⟨old, hold, -, -, hback⟩ := hruns id run h
    obtain ⟨old', hold', -, -, hback'⟩ := hruns id' run' h'
    exact hs.one_unfinished id id' old old' hold hold' (hback hopen) (hback' hopen')
  lease := hlease
  one_enabled id install h henabled := by
    obtain ⟨old, hold, hsame⟩ := hinstalls.back h
    rw [hassigned]
    exact hs.one_enabled id old hold ((congrArg Prod.snd hsame).trans henabled)
  owned id run' h := by
    obtain ⟨run, hrun, hinstallation, hemployee, -⟩ := hruns id run' h
    obtain ⟨install, hinstall, howner⟩ := hs.owned id run hrun
    obtain ⟨install', hinstall', hsame⟩ := hinstalls.forth hinstall
    refine ⟨install', hinstallation ▸ hinstall', ?_⟩
    rw [hemployee, ← howner]
    exact congrArg Prod.fst hsame

lemma SoundRuns.of_kept (hs : SoundRuns s)
    (hruns : Table.Keeps WorkflowRun.bound s.runs s'.runs)
    (hinstalls : Table.Keeps WorkflowInstallation.standing s.installations s'.installations)
    (hassigned : s'.workflow.assignedInstallationId = s.workflow.assignedInstallationId)
    (hepoch : s'.workflow.assignmentEpoch = s.workflow.assignmentEpoch)
    (hlease : ∀ id, s'.workflow.leaseRunId = some id → ∃ run, s.runs.lookup id = some run ∧
      run.finishedAt = none ∧ s.workflow.assignedInstallationId = some run.installationId ∧
      run.assignmentEpoch = s.workflow.assignmentEpoch) : SoundRuns s' := by
  refine hs.of_back (fun id run' h => ?_) hinstalls hassigned fun id hid => ?_
  · obtain ⟨run, hrun, hsame⟩ := hruns.back h
    simp only [WorkflowRun.bound, Prod.mk.injEq] at hsame
    exact ⟨run, hrun, hsame.1.symm, hsame.2.1.symm, fun hopen => hsame.2.2.2.trans hopen⟩
  · obtain ⟨run, hrun, hopen, hholder, hcurrent⟩ := hlease id hid
    obtain ⟨run', hrun', hsame⟩ := hruns.forth hrun
    simp only [WorkflowRun.bound, Prod.mk.injEq] at hsame
    refine ⟨run', hrun', hsame.2.2.2.trans hopen, ?_, ?_⟩
    · rw [hassigned, hholder, hsame.1]
    · rw [hepoch, ← hcurrent, hsame.2.2.1]

/-! ### Run requests -/

lemma soundRuns_start (hs : SoundRuns s) {input : StartInput} {runId : String}
    (h : s.start call input runId = .ok s') : SoundRuns s' := by
  obtain ⟨⟨install, hinstall, howner⟩, -, hassigned, hepoch, hnone, run, runs, previews, hruns,
    hrunInstall, hemployee, hrunEpoch, hopen, rfl⟩ := start_ok h
  have hlookup := Table.lookup_create hruns
  have hnew : ∀ id found, runs.lookup id = some found → found.finishedAt = none → id = runId := by
    intro id found hfound hunfinished
    rw [hlookup] at hfound
    split_ifs at hfound with hid
    · exact hid
    · exact absurd hunfinished (hnone id found hfound)
  refine ⟨⟨?_, ?_, hs.one_enabled⟩, ?_⟩
  · intro id id' found found' hfound hfound' hf hf'
    rw [hnew id found hfound hf, hnew id' found' hfound' hf']
  · intro id hid
    obtain rfl := Option.some.inj hid
    exact ⟨run, (hlookup runId).trans (if_pos rfl), hopen, by rw [hrunInstall]; exact hassigned,
      hrunEpoch⟩
  · intro id found hfound
    dsimp only at hfound ⊢
    rw [hlookup] at hfound
    split_ifs at hfound
    · obtain rfl := Option.some.inj hfound
      exact ⟨install, by rw [hrunInstall]; exact hinstall, howner.trans hemployee.symm⟩
    · exact hs.owned id found hfound

lemma soundRuns_renew (hs : SoundRuns s) {resume : Bool} (h : s.renew call binding resume = .ok s')
    : SoundRuns s' := by
  obtain ⟨run, install, hbound, -, rfl⟩ := renew_ok h
  refine hs.of_kept (Table.Keeps.update fun _ => rfl) (Table.Keeps.refl _ _) rfl rfl
    fun id hid => ?_
  obtain rfl := Option.some.inj hid
  exact ⟨run, hbound.row, hbound.unfinished, by rw [hbound.run_installation]; exact hbound.assigned,
    hbound.run_epoch.trans hbound.epoch.symm⟩

lemma soundRuns_recordSummary (hs : SoundRuns s) {summary : RunSummary} {finish : Bool}
    (h : s.recordSummary call binding summary finish = .ok s') : SoundRuns s' := by
  obtain ⟨run, install, hbound, -, rfl⟩ := recordSummary_ok h
  cases finish with
  | false =>
    exact hs.of_kept (Table.Keeps.update fun _ => rfl) (Table.Keeps.refl _ _) rfl rfl hs.lease
  | true =>
    refine hs.of_back (fun id run' hrun' => ?_) (Table.Keeps.refl _ _) rfl nofun
    dsimp only at hrun'
    rw [Table.lookup_update] at hrun'
    by_cases hid : id = binding.runId
    · rw [if_pos hid] at hrun'
      obtain ⟨old, hold, rfl⟩ := Option.map_eq_some_iff.mp hrun'
      exact ⟨old, hid ▸ hold, rfl, rfl, nofun⟩
    · rw [if_neg hid] at hrun'
      exact ⟨run', hrun', rfl, rfl, fun hopen => hopen⟩

/-- **What a run request preserves.** -/
lemma soundRuns_run (hs : SoundRuns s) (h : op.execute s call = .ok s') : SoundRuns s' := by
  replace h := done_of_execute h
  cases op with
  | checkActions binding => exact h ▸ hs
  | prepareBackfill =>
    obtain ⟨previews, rfl⟩ := prepareBackfill_ok h
    exact ⟨⟨hs.one_unfinished, hs.lease, hs.one_enabled⟩, hs.owned⟩
  | start input runId =>
    exact soundRuns_start hs h
  | renew binding =>
    exact soundRuns_renew hs h
  | resume binding =>
    exact soundRuns_renew hs h
  | recordSummary binding summary => exact soundRuns_recordSummary hs h
  | finish binding summary => exact soundRuns_recordSummary hs h
  | release binding =>
    obtain ⟨run, -, -, -, -, -, rfl⟩ := release_ok h
    exact ⟨⟨hs.one_unfinished, nofun, hs.one_enabled⟩, hs.owned⟩

/-- **A run request that is not refused was permitted**, or leaves the workflow and its runs. -/
lemma permitted_of_run (hs : SoundRuns s) (h : op.execute s call = .ok s') :
    (s'.workflow = s.workflow ∧ s'.runs = s.runs) ∨ Permitted s call op := by
  replace h := done_of_execute h
  cases op with
  | checkActions binding => exact .inl (h ▸ ⟨rfl, rfl⟩)
  | prepareBackfill =>
    obtain ⟨previews, rfl⟩ := prepareBackfill_ok h
    exact .inl ⟨rfl, rfl⟩
  | start input runId =>
    obtain ⟨hinstall, hcontrol, hassigned, hepoch, -⟩ := start_ok h
    refine .inr ⟨hassigned, hepoch, hinstall, fun version hversion => ?_, nofun⟩
    exact Option.some.inj hversion ▸ hcontrol
  | renew binding =>
    obtain ⟨run, install, hbound, hlease, -⟩ := renew_ok h
    refine .inr ⟨hbound.assigned, hbound.epoch, ⟨install, hbound.installation, hbound.employee⟩,
      fun version hversion => ?_, fun runId hrunId => ?_⟩
    · exact Option.some.inj hversion ▸ hbound.control
    · exact Option.some.inj hrunId ▸ hlease rfl
  | resume binding =>
    obtain ⟨run, install, hbound, -, -⟩ := renew_ok h
    refine .inr ⟨hbound.assigned, hbound.epoch, ⟨install, hbound.installation, hbound.employee⟩,
      fun version hversion => ?_, nofun⟩
    exact Option.some.inj hversion ▸ hbound.control
  | recordSummary binding summary | finish binding summary =>
    obtain ⟨run, install, hbound, hlease, -⟩ := recordSummary_ok h
    refine .inr ⟨hbound.assigned, hbound.epoch, ⟨install, hbound.installation, hbound.employee⟩,
      fun version hversion => ?_, fun runId hrunId => ?_⟩
    · exact Option.some.inj hversion ▸ hbound.control
    · exact Option.some.inj hrunId ▸ hlease
  | release binding =>
    obtain ⟨run, hrun, hemployee, hinstallation, hassigned, hepoch, -⟩ := release_ok h
    obtain ⟨install, hinstall, howner⟩ := hs.owned binding.runId run hrun
    rw [hinstallation] at hinstall
    exact .inr ⟨hassigned, hepoch, ⟨install, hinstall, howner.trans hemployee⟩, nofun, nofun⟩

/-! ### Installations -/

lemma lookup_setInstallation (s : WorkflowState) (installationId : String)
    (state : InstallationState) (id : String) :
    (s.setInstallation installationId state).installations.lookup id =
      if id = installationId then (s.installations.lookup id).map fun old =>
        { old with version := old.version + 1, state }
      else s.installations.lookup id := by
  unfold WorkflowState.setInstallation
  dsimp only
  rw [Table.lookup_update]
  split_ifs with hid
  · rw [hid]
  · rfl

lemma keeps_setInstallation (s : WorkflowState) (installationId : String)
    (state : InstallationState) :
    Table.Keeps (·.employeeId) s.installations
      (s.setInstallation installationId state).installations :=
  Table.Keeps.update fun _ => rfl

lemma activateOrderScope_eq (s : WorkflowState) :
    s.activateOrderScope.workflow = s.workflow ∧ s.activateOrderScope.runs = s.runs ∧
      s.activateOrderScope.installations = s.installations := by
  unfold WorkflowState.activateOrderScope
  split
  · split_ifs <;> exact ⟨rfl, rfl, rfl⟩
  · exact ⟨rfl, rfl, rfl⟩

lemma RunsOwned.of_keeps (hs : RunsOwned s) (hruns : s'.runs = s.runs)
    (hinstalls : Table.Keeps (·.employeeId) s.installations s'.installations) :
    RunsOwned s' := by
  intro id run hrun
  obtain ⟨install, hinstall, howner⟩ := hs id run (hruns ▸ hrun)
  obtain ⟨install', hinstall', hsame⟩ := hinstalls.forth hinstall
  exact ⟨install', hinstall', hsame.trans howner⟩

lemma soundRuns_setInstallation (hs : SoundRuns s) {state : InstallationState}
    (hstate : state = .enabled → s.workflow.assignedInstallationId = some installationId) :
    SoundRuns (s.setInstallation installationId state) where
  one_unfinished := hs.one_unfinished
  lease := hs.lease
  one_enabled id install h henabled := by
    rw [lookup_setInstallation] at h
    by_cases hid : id = installationId
    · rw [if_pos hid] at h
      obtain ⟨old, -, rfl⟩ := Option.map_eq_some_iff.mp h
      exact hid ▸ hstate henabled
    · rw [if_neg hid] at h
      exact hs.one_enabled id install h henabled
  owned := hs.owned.of_keeps rfl (keeps_setInstallation s installationId state)

lemma soundRuns_activate (hs : SoundRuns s) : SoundRuns s.activateOrderScope := by
  obtain ⟨hworkflow, hruns, hinstalls⟩ := activateOrderScope_eq s
  refine hs.of_kept (hruns ▸ Table.Keeps.refl _ _) (hinstalls ▸ Table.Keeps.refl _ _) ?_ ?_ ?_
  · rw [hworkflow]
  · rw [hworkflow]
  · rw [hworkflow]
    exact hs.lease

lemma soundRuns_register (hs : SoundRuns s) {input : InstallationInput}
    (h : s.register call input = .ok s') : SoundRuns s' := by
  unfold WorkflowState.register at h
  cases hrow : s.installations.lookup input.installationId with
  | none =>
    rw [hrow] at h
    cases h
    refine ⟨⟨hs.one_unfinished, hs.lease, fun id install hinstall henabled => ?_⟩,
      fun id run hrun => ?_⟩
    · dsimp only at hinstall
      rw [Table.lookup_insert'] at hinstall
      split_ifs at hinstall
      · obtain rfl := Option.some.inj hinstall
        cases henabled
      · exact hs.one_enabled id install hinstall henabled
    · obtain ⟨install, hinstall, howner⟩ := hs.owned id run hrun
      refine ⟨install, ?_, howner⟩
      dsimp only
      rw [Table.lookup_insert', if_neg, hinstall]
      rintro heq
      rw [heq, hrow] at hinstall
      cases hinstall
  | some old =>
    rw [hrow] at h
    dsimp only at h
    split_ifs at h
    · cases h
      exact hs
    · cases h
      exact hs.of_kept (Table.Keeps.refl _ _) (Table.Keeps.update fun _ => rfl) rfl rfl hs.lease

lemma soundRuns_setState (hs : SoundRuns s) {expectedVersion : ℕ} {state : InstallationState}
    (h : s.setState call installationId expectedVersion state = .ok s') : SoundRuns s' := by
  obtain ⟨old, -, h⟩ := bind_ok.mp h
  split at h
  · cases h
  split at h
  · obtain ⟨install, -, h⟩ := bind_ok.mp h
    split at h
    · cases h
    rename_i hassigned
    simp only [Bool.or_eq_true, decide_eq_true_eq, not_or, not_not] at hassigned
    cases h
    refine soundRuns_setInstallation (soundRuns_activate hs) fun _ => ?_
    rw [(activateOrderScope_eq s).1]
    exact hassigned.1
  · rename_i hstate
    cases h
    exact soundRuns_setInstallation hs fun henabled => absurd henabled hstate

/-! ### Takeovers -/

lemma revokeOld_eq (s : WorkflowState) (installationId : String) :
    (s.revokeOld installationId).workflow = s.workflow ∧
      (s.revokeOld installationId).runs = s.runs ∧
      Table.Keeps (·.employeeId) s.installations (s.revokeOld installationId).installations := by
  unfold WorkflowState.revokeOld
  split
  · split_ifs
    · exact ⟨rfl, rfl, keeps_setInstallation s _ _⟩
    · exact ⟨rfl, rfl, Table.Keeps.refl _ _⟩
  · exact ⟨rfl, rfl, Table.Keeps.refl _ _⟩

lemma revokeOld_enabled (hs : SoundRuns s) {id : String}
    (h : (s.revokeOld installationId).installations.lookup id = some install)
    (henabled : install.state = .enabled) : id = installationId := by
  unfold WorkflowState.revokeOld at h
  cases hassigned : s.workflow.assignedInstallationId with
  | none =>
    rw [hassigned] at h
    have hid := hs.one_enabled id install h henabled
    rw [hassigned] at hid
    cases hid
  | some old =>
    rw [hassigned] at h
    dsimp only at h
    by_cases hsame : old = installationId
    · rw [if_neg (not_not.mpr hsame)] at h
      have hid := hs.one_enabled id install h henabled
      rw [hassigned, hsame] at hid
      exact (Option.some.inj hid).symm
    · rw [if_pos hsame, lookup_setInstallation] at h
      by_cases hid : id = old
      · rw [if_pos hid] at h
        obtain ⟨row, -, rfl⟩ := Option.map_eq_some_iff.mp h
        cases henabled
      · rw [if_neg hid] at h
        have hold := hs.one_enabled id install h henabled
        rw [hassigned] at hold
        exact absurd (Option.some.inj hold).symm hid

lemma soundRuns_moveRuns (hs : SoundRuns s) {installationId : String}
    {install : WorkflowInstallation}
    (hinstall : s.installations.lookup installationId = some install)
    (howner : install.employeeId = call.actorId) :
    SoundRuns ((s.revokeOld installationId).moveRuns call installationId) := by
  obtain ⟨-, hruns, hkeeps⟩ := revokeOld_eq s installationId
  refine ⟨⟨fun id id' run run' h h' hopen hopen' => ?_, nofun, fun id found h henabled => ?_⟩,
    fun id run h => ?_⟩
  · have hback : ∀ id run, ((s.revokeOld installationId).moveRuns call
        installationId).runs.lookup id = some run → run.finishedAt = none →
        ∃ old, s.runs.lookup id = some old ∧ old.finishedAt = none := by
      intro id run h hopen
      unfold WorkflowState.moveRuns at h
      dsimp only at h
      rw [hruns, Table.lookup_updateMany] at h
      obtain ⟨old, hold, rfl⟩ := Option.map_eq_some_iff.mp h
      exact ⟨old, hold, by split_ifs at hopen <;> exact hopen⟩
    obtain ⟨old, hold, hunfinished⟩ := hback id run h hopen
    obtain ⟨old', hold', hunfinished'⟩ := hback id' run' h' hopen'
    exact hs.one_unfinished id id' old old' hold hold' hunfinished hunfinished'
  · exact congrArg some (revokeOld_enabled hs h henabled).symm
  · unfold WorkflowState.moveRuns at h
    dsimp only at h
    rw [hruns, Table.lookup_updateMany] at h
    obtain ⟨old, hold, rfl⟩ := Option.map_eq_some_iff.mp h
    by_cases hopen : old.finishedAt.isNone = true
    · rw [if_pos hopen]
      obtain ⟨install', hinstall', hsame⟩ := hkeeps.forth hinstall
      exact ⟨install', hinstall', hsame.trans howner⟩
    · rw [if_neg hopen]
      exact hs.owned.of_keeps hruns hkeeps id old (hruns ▸ hold)

lemma soundRuns_takeover (hs : SoundRuns s) {input : TakeoverInput}
    (h : s.takeover call input = .ok s') : SoundRuns s' := by
  obtain ⟨⟨⟩, hrequired, h⟩ := bind_ok.mp h
  obtain ⟨install, hready, -⟩ := bind_ok.mp hrequired
  obtain ⟨hinstall, howner⟩ := requireReady_ok hready
  have hmoved := @soundRuns_moveRuns s call hs _ _ hinstall howner
  have htaken : SoundRuns (s.takenOver call input.installationId) := by
    unfold WorkflowState.takenOver
    dsimp only
    split_ifs
    · exact soundRuns_activate (soundRuns_setInstallation hmoved fun _ => rfl)
    · exact soundRuns_setInstallation hmoved nofun
  split at h
  · split at h
    · cases h
    split at h
    · cases h
    cases h
    exact ⟨⟨htaken.one_unfinished, htaken.lease, htaken.one_enabled⟩, htaken.owned⟩
  · cases h

/-- **What an installation request preserves.** -/
lemma soundRuns_installation (hs : SoundRuns s) {op : InstallationOperation}
    (h : op.execute s call = .ok s') : SoundRuns s' := by
  cases op with
  | register input => exact soundRuns_register hs h
  | recordChecks installationId checks firstRunVerification =>
    obtain ⟨old, -, h⟩ := bind_ok.mp h
    split at h
    · cases h
    split at h
    · cases h
    cases h
    exact hs.of_kept (Table.Keeps.refl _ _) (Table.Keeps.update fun _ => rfl) rfl rfl hs.lease
  | recordHost installationId hostSnapshot =>
    obtain ⟨old, -, h⟩ := bind_ok.mp h
    cases h
    exact hs.of_kept (Table.Keeps.refl _ _) (Table.Keeps.update fun _ => rfl) rfl rfl hs.lease
  | setState => exact soundRuns_setState hs h
  | prepareTakeover =>
    obtain ⟨⟨⟩, -, h⟩ := bind_ok.mp h
    split at h
    · cases h
    dsimp only at h
    split at h
    · cases h
    cases h
    exact ⟨⟨hs.one_unfinished, hs.lease, hs.one_enabled⟩, hs.owned⟩
  | takeover input => exact soundRuns_takeover hs h

/-! ### Saved changes -/

/-- The workflow keeps its assignment and its lease. -/
def KeepsAssignment (w w' : EnterpriseWorkflow) : Prop :=
  w'.assignedInstallationId = w.assignedInstallationId ∧
    w'.assignmentEpoch = w.assignmentEpoch ∧ w'.leaseRunId = w.leaseRunId

/-- The runs keep their status and whom they are bound to, and the installations stay. -/
structure OnlyControl (s s' : WorkflowState) : Prop where
  runs : Table.Keeps (fun run => (run.status, run.bound)) s.runs s'.runs
  installations : s'.installations = s.installations
  workflow : KeepsAssignment s.workflow s'.workflow

lemma OnlyControl.of_runs (hruns : s'.runs = s.runs)
    (hinstalls : s'.installations = s.installations)
    (hworkflow : KeepsAssignment s.workflow s'.workflow) : OnlyControl s s' :=
  ⟨hruns ▸ Table.Keeps.refl _ _, hinstalls, hworkflow⟩

lemma SoundRuns.of_control (hs : SoundRuns s) (h : OnlyControl s s') : SoundRuns s' :=
  hs.of_kept (h.runs.coarsen Prod.snd fun _ => rfl) (h.installations ▸ Table.Keeps.refl _ _)
    h.workflow.1 h.workflow.2.1 fun id hid => hs.lease id (h.workflow.2.2 ▸ hid)

section

variable {digest : WorkflowLivePolicy → String}

lemma onlyControl_restrictRuns (s : WorkflowState) (before after : WorkflowConfiguration)
    (oldSource newSource : EnterpriseIntegration) :
    OnlyControl s (s.restrictRuns digest before after oldSource newSource) := by
  unfold WorkflowState.restrictRuns
  dsimp only
  split_ifs
  · exact .of_runs rfl rfl ⟨rfl, rfl, rfl⟩
  · exact ⟨Table.Keeps.updateMany fun _ => rfl, rfl, ⟨rfl, rfl, rfl⟩⟩

lemma onlyControl_saveIntegration (s : WorkflowState) (integration : EnterpriseIntegration) :
    OnlyControl s (s.saveIntegration digest integration) := by
  unfold WorkflowState.saveIntegration
  cases s.configuration with
  | none => exact .of_runs rfl rfl ⟨rfl, rfl, rfl⟩
  | some config =>
    obtain ⟨hruns, hinstalls, hworkflow⟩ :=
      @onlyControl_restrictRuns digest s config config s.integration integration
    exact ⟨hruns, hinstalls, hworkflow⟩

lemma onlyControl_saveConfiguration (s : WorkflowState) (configuration : WorkflowConfiguration) :
    OnlyControl s (s.saveConfiguration digest configuration) := by
  unfold WorkflowState.saveConfiguration
  cases s.configuration with
  | none => exact .of_runs rfl rfl ⟨rfl, rfl, rfl⟩
  | some previous =>
    obtain ⟨hruns, hinstalls, hworkflow⟩ :=
      @onlyControl_restrictRuns digest s previous configuration s.integration s.integration
    exact ⟨hruns, hinstalls, hworkflow⟩

lemma onlyControl_saveChange {input : SaveInput}
    (h : s.saveChange digest call input = .ok s') : OnlyControl s s' := by
  obtain ⟨⟨⟩, -, h⟩ := bind_ok.mp h
  split at h
  · rename_i change _
    obtain ⟨changed, hchange, h⟩ := bind_ok.mp h
    cases h
    have hchanged : OnlyControl s changed := by
      unfold WorkflowState.applyChange at hchange
      cases change with
      | integration integration =>
        dsimp only at hchange
        split_ifs at hchange
        cases hchange
        exact onlyControl_saveIntegration s integration
      | configuration configuration =>
        dsimp only at hchange
        split_ifs at hchange
        cases hchange
        exact onlyControl_saveConfiguration s configuration
      | authorization | control =>
        dsimp only at hchange
        split_ifs at hchange
        cases hchange
        exact .of_runs rfl rfl ⟨rfl, rfl, rfl⟩
    exact ⟨hchanged.runs, hchanged.installations, hchanged.workflow⟩
  · cases h

/-! ### Runs of the system -/

/-- Neither asked by a run or an installation nor a pruning. -/
def Operation.changes : Operation → Bool
  | .run .. | .installation .. | .pruneRetention .. => false
  | _ => true

lemma onlyControl_of_execute {op : Operation} (hop : op.changes = true)
    (h : op.execute digest s = .ok s') : OnlyControl s s' := by
  cases op with
  | run | installation | pruneRetention => cases hop
  | prepareChange =>
    obtain ⟨⟨⟩, -, h⟩ := bind_ok.mp h
    split at h
    · cases h
    dsimp only at h
    split at h
    · cases h
    cases h
    exact .of_runs rfl rfl ⟨rfl, rfl, rfl⟩
  | saveChange call input => exact onlyControl_saveChange h
  | sharedChange integration =>
    cases h
    exact onlyControl_saveIntegration s integration
  | importMigration now configuration integration =>
    cases configuration with
    | none =>
      cases h
      exact .of_runs rfl rfl ⟨rfl, rfl, rfl⟩
    | some configuration =>
      unfold Operation.execute WorkflowState.importMigration at h
      dsimp only at h
      split_ifs at h
      cases h
      exact .of_runs rfl rfl ⟨rfl, rfl, rfl⟩

lemma soundRuns_step (op : Operation) (hs : SoundRuns s) : SoundRuns (step digest s op) := by
  refine Runs.commit_induction hs fun s' h => ?_
  cases op with
  | run call op => exact soundRuns_run hs h
  | installation call op => exact soundRuns_installation hs h
  | pruneRetention runIds now =>
    cases h
    refine hs.of_back (fun id run hrun => ?_) (Table.Keeps.refl _ _) rfl fun id hid => ?_
    · dsimp only at hrun
      rw [Table.lookup_deleteMany, Option.filter_eq_some_iff] at hrun
      exact ⟨run, hrun.1, rfl, rfl, fun hopen => hopen⟩
    · obtain ⟨run, hrun, hopen, hheld⟩ := hs.lease id hid
      refine ⟨run, ?_, hopen, hheld⟩
      dsimp only
      rw [Table.lookup_deleteMany, hrun, Option.filter_some, if_pos]
      simp [hopen]
  | _ => exact hs.of_control (onlyControl_of_execute rfl h)

end

end

end WorkflowRuns
end SmeDataCenter
