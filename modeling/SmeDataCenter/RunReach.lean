import SmeDataCenter.WorkflowRestriction

/-!
# The reach of an unfinished run

What a run may do is its recorded limits, cut with the live policy of the moment. The recorded
limits never grow. As long as they stay within the live policy, the cut is the recorded limits
themselves and the reach shrinks with them. Saved changes keep them within; a migration import
that narrows the live policy below them does not, and a later change can then widen the reach
up to the recorded limits again.
-/

namespace SmeDataCenter
namespace WorkflowRestriction

open Runs WorkflowLivePolicy
open Operation (create onIntegration onWorkflow)

/-! ### Recorded limits -/

/-- The recorded limits of every unfinished run are within the live policy and within size. -/
def Within (integration : EnterpriseIntegration) (workflow : Workflow) : Prop :=
  ∀ runId run, workflow.runs.lookup runId = some run → run.finished = false →
    run.recorded.ignored.length ≤ sourceIdentities ∧
      ∃ config, workflow.configuration = some config ∧
        run.recorded ≤ workflowLivePolicy config integration

/-- `run'` is `run` later on: the same snapshot, limits that did not grow. -/
structure Later (run run' : WorkflowRun) : Prop where
  configuration : run'.configuration = run.configuration
  finished : run.finished = true → run'.finished = true
  recorded : run'.recorded ≤ run.recorded

lemma Later.refl (run : WorkflowRun) : Later run run := ⟨rfl, id, le_refl _⟩

lemma Later.trans {run run' run'' : WorkflowRun} (h : Later run run') (h' : Later run' run'') :
    Later run run'' :=
  ⟨h'.configuration.trans h.configuration, fun hf => h'.finished (h.finished hf),
    h'.recorded.trans h.recorded⟩

/-- Every run of one workflow is a run of the other later on. -/
def RunsLater (w w' : Workflow) : Prop :=
  ∀ runId run, w.runs.lookup runId = some run →
    ∃ run', w'.runs.lookup runId = some run' ∧ Later run run'

variable {w : Workflow}

lemma RunsLater.of_runs_eq {w' : Workflow} (h : w'.runs = w.runs) : RunsLater w w' :=
  fun _ run hrun => ⟨run, h ▸ hrun, .refl run⟩

section

variable {δ : Type} [DecidableEq δ] {digest : WorkflowLivePolicy → δ}

lemma restrictRuns_later (w : Workflow) (before after : WorkflowConfiguration)
    (oldSource newSource : EnterpriseIntegration) :
    RunsLater w (restrictRuns digest w before after oldSource newSource) := by
  intro runId run hrun
  simp only [restrictRuns]
  split_ifs
  · exact ⟨run, hrun, .refl run⟩
  · rw [Table.lookup_updateMany, hrun]
    refine ⟨_, rfl, ?_⟩
    dsimp only
    split_ifs
    · exact ⟨rfl, id, intersect_le_left _ _⟩
    · exact .refl run

lemma restrictRuns_within (hd : Function.Injective digest) {before after : WorkflowConfiguration}
    {oldSource newSource : EnterpriseIntegration} (hconfig : w.configuration = some before)
    (hw : Within oldSource w) {runId : String} {run : WorkflowRun}
    (hrun : (restrictRuns digest w before after oldSource newSource).runs.lookup runId = some run)
    (hf : run.finished = false) :
    run.recorded.ignored.length ≤ sourceIdentities ∧
      run.recorded ≤ workflowLivePolicy after newSource := by
  simp only [restrictRuns] at hrun
  split_ifs at hrun with hsame
  · -- the change only widens
    obtain ⟨hlen, config, hc, hle⟩ := hw runId run hrun hf
    obtain rfl : before = config := Option.some.inj (hconfig.symm.trans hc)
    exact ⟨hlen, hle.trans (le_of_intersect_eq (hd hsame))⟩
  · rw [Table.lookup_updateMany, Option.map_eq_some_iff] at hrun
    obtain ⟨old, -, rfl⟩ := hrun
    split_ifs at hf ⊢ with hunfinished
    · exact ⟨length_ignored_intersect _ _, intersect_le_right _ _⟩
    · simp [hf] at hunfinished

/-! ### One operation on one workflow -/

lemma onWorkflow_later (op : Operation) (integration : EnterpriseIntegration) (id : String)
    (w : Workflow) : RunsLater w (op.onWorkflow digest integration id w) := by
  cases op with
  | create workflowId => exact .of_runs_eq rfl
  | saveConfiguration workflowId configuration =>
    simp only [onWorkflow]
    split_ifs
    · unfold Workflow.saveConfiguration
      cases w.configuration with
      | none => exact .of_runs_eq rfl
      | some previous => exact restrictRuns_later w previous configuration _ _
    · exact .of_runs_eq rfl
  | saveIntegration configuration =>
    simp only [onWorkflow, Workflow.saveIntegration]
    cases w.configuration with
    | none => exact .of_runs_eq rfl
    | some config => exact restrictRuns_later w config config _ _
  | importMigration configurations imported =>
    simp only [onWorkflow, Workflow.importMigration]
    split <;> exact .of_runs_eq rfl
  | startRun workflowId runId =>
    simp only [onWorkflow]
    split_ifs
    · unfold Workflow.startRun
      split
      · exact .of_runs_eq rfl
      split_ifs
      · exact .of_runs_eq rfl
      split
      · exact .of_runs_eq rfl
      rename_i runs hruns
      intro id run hrun
      refine ⟨run, ?_, .refl run⟩
      rw [Table.lookup_create hruns]
      split_ifs with hid
      · rw [hid, Table.create_fresh hruns] at hrun
        cases hrun
      · exact hrun
    · exact .of_runs_eq rfl
  | finishRun workflowId runId =>
    simp only [onWorkflow]
    split_ifs
    · intro id run hrun
      simp only [Workflow.finishRun, Table.lookup_update]
      split_ifs with hid
      · subst hid
        rw [hrun]
        exact ⟨_, rfl, rfl, fun _ => rfl, le_refl _⟩
      · exact ⟨run, hrun, .refl run⟩
    · exact .of_runs_eq rfl
  | control workflowId =>
    simp only [onWorkflow]
    split_ifs <;> exact .of_runs_eq rfl

/-- The import leaves no unfinished run with recorded limits beyond the live policy. -/
def Operation.KeepsWithin (op : Operation) (id : String) (w : Workflow) : Prop :=
  match op with
  | .importMigration configurations imported => ∀ runId run, w.runs.lookup runId = some run →
      run.finished = false → ∀ config, (w.importMigration id configurations).configuration =
        some config → run.recorded ≤ workflowLivePolicy config imported
  | _ => True

lemma onWorkflow_within (hd : Function.Injective digest) (op : Operation)
    (integration : EnterpriseIntegration) (id : String) (hop : op.KeepsWithin id w)
    (hw : Within integration w) :
    Within (op.onIntegration integration) (op.onWorkflow digest integration id w) := by
  cases op with
  | create workflowId => exact hw
  | saveConfiguration workflowId configuration =>
    simp only [onWorkflow, onIntegration]
    split_ifs
    · unfold Workflow.saveConfiguration
      intro runId run hrun hf
      cases hc : w.configuration with
      | none =>
        rw [hc] at hrun
        obtain ⟨-, config, hc', -⟩ := hw runId run hrun hf
        rw [hc] at hc'
        cases hc'
      | some previous =>
        rw [hc] at hrun
        obtain ⟨hlen, hle⟩ := restrictRuns_within hd hc hw hrun hf
        exact ⟨hlen, configuration, rfl, hle⟩
    · exact hw
  | saveIntegration configuration =>
    simp only [onWorkflow, onIntegration, Workflow.saveIntegration]
    intro runId run hrun hf
    cases hc : w.configuration with
    | none =>
      rw [hc] at hrun
      obtain ⟨-, config, hc', -⟩ := hw runId run hrun hf
      rw [hc] at hc'
      cases hc'
    | some config =>
      rw [hc] at hrun
      obtain ⟨hlen, hle⟩ := restrictRuns_within hd hc hw hrun hf
      refine ⟨hlen, config, ?_, hle⟩
      simp only [restrictRuns]
      split_ifs <;> exact hc
  | importMigration configurations imported =>
    simp only [onWorkflow, onIntegration]
    intro runId run hrun hf
    have hruns : (w.importMigration id configurations).runs = w.runs := by
      unfold Workflow.importMigration
      split <;> rfl
    rw [hruns] at hrun
    obtain ⟨hlen, config, hc, -⟩ := hw runId run hrun hf
    obtain ⟨config', hc'⟩ : ∃ config', (w.importMigration id configurations).configuration =
        some config' := by
      unfold Workflow.importMigration
      split
      · exact ⟨_, rfl⟩
      · exact ⟨config, hc⟩
    exact ⟨hlen, config', hc', hop runId run hrun hf config' hc'⟩
  | startRun workflowId runId =>
    simp only [onWorkflow, onIntegration]
    split_ifs
    · unfold Workflow.startRun
      split
      · exact hw
      rename_i configuration hc
      split_ifs
      · exact hw
      split
      · exact hw
      rename_i runs hruns
      intro id run hrun hf
      rw [Table.lookup_create hruns] at hrun
      split_ifs at hrun with hid
      · -- the new run starts with the live policy for its limits
        cases hrun
        exact ⟨length_ignored_livePolicy _ _, configuration, hc, le_refl _⟩
      · exact hw id run hrun hf
    · exact hw
  | finishRun workflowId runId =>
    simp only [onWorkflow, onIntegration]
    split_ifs
    · intro id run hrun hf
      simp only [Workflow.finishRun, Table.lookup_update] at hrun
      split_ifs at hrun with hid
      · obtain ⟨old, -, rfl⟩ := Option.map_eq_some_iff.mp hrun
        cases hf
      · exact hw id run hrun hf
    · exact hw
  | control workflowId =>
    simp only [onWorkflow, onIntegration]
    split_ifs <;> exact hw

/-! ### Reach -/

/-- The reach of a run is the recorded limits on the stores that are left: it shrinks with them
as long as they were within the live policy. -/
lemma effectivePolicy_le (stores : List String) {run run' : WorkflowRun}
    {config config' : WorkflowConfiguration} {integration integration' : EnterpriseIntegration}
    (hrec : run'.recorded ≤ run.recorded)
    (hin : run.recorded ≤ workflowLivePolicy config integration)
    (hlen : run.recorded.ignored.length ≤ sourceIdentities) :
    effectivePolicy stores integration' config' run' ≤
      effectivePolicy stores integration config run := by
  have hx : effectivePolicy stores integration' config' run' ≤ run.recorded :=
    (intersect_le_left _ _).trans hrec
  have hlive := hx.trans hin
  refine le_intersect hx ⟨fun name hname => ?_, hlive.datasets, hlive.channels,
    hlive.publicationStores, hlive.senders, hlive.recipients, hlive.sources, hlive.reviews⟩
    hin.reviews hlen
  have hleft := (intersect_le_right _ _ : effectivePolicy stores integration' config' run' ≤ _)
  have hstore := hleft.stores hname
  simp only [onStores, List.mem_filter] at hstore ⊢
  exact ⟨hlive.stores hname, hstore.2⟩

/-- May a run, unfinished in this state, take an action? -/
def allowed (stores : List String) (s : Enterprise) (workflowId runId : String)
    (identity : WorkflowActionIdentity) : Bool :=
  match s.workflows.lookup workflowId with
  | none => false
  | some w =>
    match w.runs.lookup runId, w.configuration with
    | some run, some config =>
      !run.finished && workflowLivePolicyAllows
        (effectivePolicy stores s.integration config run) identity run.configuration.type
    | _, _ => false

/-- The recorded limits of every unfinished run are within its live policy. -/
def AllWithin (s : Enterprise) : Prop :=
  ∀ id w, s.workflows.lookup id = some w → Within s.integration w

/-- Every run is still there, later on. -/
def AllLater (s t : Enterprise) : Prop :=
  ∀ id w, s.workflows.lookup id = some w →
    ∃ w', t.workflows.lookup id = some w' ∧ RunsLater w w'

lemma AllLater.refl (s : Enterprise) : AllLater s s :=
  fun _ w hw => ⟨w, hw, .of_runs_eq rfl⟩

variable {s : Enterprise}

lemma AllLater.trans {t u : Enterprise} (h : AllLater s t) (h' : AllLater t u) : AllLater s u := by
  intro id w hw
  obtain ⟨w', hw', hr⟩ := h id w hw
  obtain ⟨w'', hw'', hr'⟩ := h' id w' hw'
  refine ⟨w'', hw'', fun runId run hrun => ?_⟩
  obtain ⟨run', hrun', hl⟩ := hr runId run hrun
  obtain ⟨run'', hrun'', hl'⟩ := hr' runId run' hrun'
  exact ⟨run'', hrun'', hl.trans hl'⟩

lemma allowed_of_later {stores : List String} {t : Enterprise} (hs : AllWithin s)
    (hlater : AllLater s t) {workflowId runId : String} {run : WorkflowRun}
    (hw : s.workflows.lookup workflowId = some w) (hrun : w.runs.lookup runId = some run)
    {identity : WorkflowActionIdentity} (h : allowed stores t workflowId runId identity = true) :
    allowed stores s workflowId runId identity = true := by
  obtain ⟨w', hw', hruns⟩ := hlater workflowId w hw
  obtain ⟨run', hrun', hl⟩ := hruns runId run hrun
  simp only [allowed, hw', hrun', hw, hrun] at h ⊢
  cases hc' : w'.configuration with
  | none => simp [hc'] at h
  | some config' =>
    simp only [hc', Bool.and_eq_true, Bool.not_eq_true'] at h
    have hf : run.finished = false := by
      cases hf : run.finished with
      | false => rfl
      | true => simp [hl.finished hf] at h
    obtain ⟨hlen, config, hc, hin⟩ := hs workflowId w hw runId run hrun hf
    simp only [hc, hf, Bool.not_false, Bool.true_and]
    rw [← hl.configuration]
    exact allows_mono (effectivePolicy_le stores hl.recorded hin hlen) h.2

/-! ### Runs -/

/-- The operation is no migration import that leaves an unfinished run with recorded limits
beyond the live policy. -/
def KeepsWithin (s : Enterprise) (op : Operation) : Prop :=
  ∀ id w, s.workflows.lookup id = some w → op.KeepsWithin id w

variable {op : Operation}

lemma of_lookup_step {id : String} (h : (step digest s op).workflows.lookup id = some w) :
    (∃ w₀, s.workflows.lookup id = some w₀ ∧ w = op.onWorkflow digest s.integration id w₀) ∨
      w.runs = ∅ := by
  have hmap : ∀ w, (s.workflows.mapRows (op.onWorkflow digest s.integration)).lookup id =
      some w → ∃ w₀, s.workflows.lookup id = some w₀ ∧
        w = op.onWorkflow digest s.integration id w₀ := by
    intro w hw
    rw [Table.lookup_mapRows] at hw
    obtain ⟨w₀, hw₀, rfl⟩ := Option.map_eq_some_iff.mp hw
    exact ⟨w₀, hw₀, rfl⟩
  cases op with
  | create workflowId =>
    simp only [step] at h
    cases hc : (s.workflows.mapRows ((create workflowId).onWorkflow digest
        s.integration)).create workflowId ⟨none, 0, 0, ∅⟩ with
    | none =>
      rw [hc] at h
      exact .inl (hmap w h)
    | some workflows =>
      rw [hc, Option.getD_some, Table.lookup_create hc] at h
      split_ifs at h
      · cases h
        exact .inr rfl
      · exact .inl (hmap w h)
  | saveConfiguration workflowId configuration => exact .inl (hmap w h)
  | saveIntegration configuration => exact .inl (hmap w h)
  | importMigration configurations imported => exact .inl (hmap w h)
  | startRun workflowId runId => exact .inl (hmap w h)
  | finishRun workflowId runId => exact .inl (hmap w h)
  | control workflowId => exact .inl (hmap w h)

lemma lookup_step {id : String} (h : s.workflows.lookup id = some w) :
    (step digest s op).workflows.lookup id = some (op.onWorkflow digest s.integration id w) := by
  have hmap : (s.workflows.mapRows (op.onWorkflow digest s.integration)).lookup id =
      some (op.onWorkflow digest s.integration id w) := by
    rw [Table.lookup_mapRows, h]
    rfl
  cases op with
  | create workflowId =>
    simp only [step]
    cases hc : (s.workflows.mapRows ((create workflowId).onWorkflow digest
        s.integration)).create workflowId ⟨none, 0, 0, ∅⟩ with
    | none => exact hmap
    | some workflows =>
      rw [Option.getD_some, Table.lookup_create hc]
      split_ifs with hid
      · rw [hid, Table.create_fresh hc] at hmap
        cases hmap
      · exact hmap
  | saveConfiguration workflowId configuration => exact hmap
  | saveIntegration configuration => exact hmap
  | importMigration configurations imported => exact hmap
  | startRun workflowId runId => exact hmap
  | finishRun workflowId runId => exact hmap
  | control workflowId => exact hmap

lemma step_later (s : Enterprise) (op : Operation) : AllLater s (step digest s op) :=
  fun id w hw => ⟨_, lookup_step hw, onWorkflow_later op s.integration id w⟩

/-- **The step lemma**: an operation keeps the recorded limits within the live policies, unless
it is an import that narrows those below them. -/
theorem step_within (hd : Function.Injective digest) (hop : KeepsWithin s op) (hs : AllWithin s) :
    AllWithin (step digest s op) := by
  intro id w hw
  rcases of_lookup_step hw with ⟨w₀, hw₀, rfl⟩ | hnone
  · exact onWorkflow_within hd op s.integration id (hop id w₀ hw₀) (hs id w₀ hw₀)
  · intro runId run hrun
    rw [hnone] at hrun
    simp at hrun

lemma initial_within (integration : EnterpriseIntegration) :
    AllWithin (.initial integration) := by
  intro id w hw
  simp [Enterprise.initial] at hw

/-! ### An import that narrows -/

section Example

/-- A weekly report on the given stores, not mailed to anyone. -/
def exampleReport (storeNames : List String) : WorkflowConfiguration :=
  .weeklyReport storeNames ⟨false, [], none⟩

def exampleDownload (storeName : String) : WorkflowActionIdentity :=
  .download [storeName] ⟨"2026-01-05", "2026-01-11"⟩ .business none

def exampleIntegration : EnterpriseIntegration := ⟨[], []⟩

/-- A run starts on two stores, an import leaves one of them, and a saved change brings the
other back. -/
def wideningRun : List Operation :=
  [.create "report", .saveConfiguration "report" (exampleReport ["N", "S"]),
    .startRun "report" "run",
    .importMigration [("report", exampleReport ["N"])] exampleIntegration,
    .saveConfiguration "report" (exampleReport ["N", "S"])]

/-- May the run download from the store S after the first `n` operations? -/
def mayDownload (n : ℕ) : Bool :=
  allowed ["N", "S"] (run (step id) (.initial exampleIntegration) (wideningRun.take n)) "report"
    "run" (exampleDownload "S")

/-- With policies for their own digests: what the import refuses is allowed again. -/
theorem import_reach_grows :
    mayDownload 3 = true ∧ mayDownload 4 = false ∧ mayDownload 5 = true := by
  decide +kernel

end Example

variable (digest)

/-- **The reach of an unfinished run only shrinks**: in every run of the system whose imports
leave the recorded limits within the live policies, a workflow run that exists after `ops` may
do after any `later` operations only what it might do after `ops`. -/
theorem reach_shrinks (hd : Function.Injective digest) (stores : List String)
    (integration : EnterpriseIntegration) (ops later : List Operation)
    (hops : Along (step digest) KeepsWithin (.initial integration) (ops ++ later))
    (workflowId runId : String) (w : Workflow) (r : WorkflowRun)
    (hw : (run (step digest) (.initial integration) ops).workflows.lookup workflowId = some w)
    (hr : w.runs.lookup runId = some r) (identity : WorkflowActionIdentity)
    (h : allowed stores (run (step digest) (.initial integration) (ops ++ later)) workflowId runId
      identity = true) :
    allowed stores (run (step digest) (.initial integration) ops) workflowId runId identity =
      true := by
  obtain ⟨hfirst, hlast⟩ := along_append.mp hops
  have hwithin : AllWithin (run (step digest) (.initial integration) ops) :=
    run_invariant (fun _ _ => step_within hd) hfirst (initial_within integration)
  have hlater : AllLater (run (step digest) (.initial integration) ops)
      (run (step digest) (.initial integration) (ops ++ later)) := by
    rw [run_append]
    exact run_mono AllLater.refl (fun _ _ _ => AllLater.trans) step_later later
  exact allowed_of_later hwithin hlater hw hr h

/-- Without an import: after a change narrows the report and a second one widens it again, the
workflow run may download from the store it kept, as it might before. -/
theorem reach_shrinks_narrowed :
    allowed ["N", "S"] (run (step id) (.initial exampleIntegration) (wideningRun.take 3))
      "report" "run" (exampleDownload "N") = true := by
  have hrun : (((run (step id) (.initial exampleIntegration) (wideningRun.take 3)).workflows.lookup
      "report").bind fun w => w.runs.lookup "run").isSome = true := by
    decide +kernel
  obtain ⟨r, hr⟩ := Option.isSome_iff_exists.mp hrun
  obtain ⟨w, hw, hr⟩ := Option.bind_eq_some_iff.mp hr
  refine reach_shrinks id Function.injective_id ["N", "S"] exampleIntegration (wideningRun.take 3)
    [.saveConfiguration "report" (exampleReport ["N"]),
      .saveConfiguration "report" (exampleReport ["N", "S"])] ?_ "report" "run" w r hw hr
    (exampleDownload "N") (by decide +kernel)
  exact ⟨fun _ _ _ => trivial, fun _ _ _ => trivial, fun _ _ _ => trivial, fun _ _ _ => trivial,
    fun _ _ _ => trivial, trivial⟩

end

end WorkflowRestriction
end SmeDataCenter
