import SmeDataCenter.ActionDeduplication
import SmeDataCenter.RunExclusivity

/-!
# Finished runs and their actions

The runs of a workflow and the actions that they make stand side by side. A run finishes as
succeeded when none of its actions is in flight or unknown. Receipts still arrive afterwards, a
failed action is claimed again by another run, and a takeover makes every action in flight
unknown.
-/

namespace SmeDataCenter
namespace FinishedRuns

open Fallible (bind_ok)
open WorkflowActions (ActionState Binding ClaimResult Evidence ReceiptCall ReceiptState
  WorkflowAction WorkflowActionIntent WorkflowActionReceipt WorkflowError applyReceipt claimAction
  claimActions intentOperation intentRow recordReceipt recordReceipts resolves)
open WorkflowRuns (RunBinding RunError RunStatus RunSummary WorkflowInstallation WorkflowRun
  WorkflowState)

/-- The rows of one workflow, with its actions and the keys that they hold. -/
structure WorkflowRecord where
  rows : WorkflowState
  actions : Table String WorkflowAction
  deduplication : Table String String

namespace WorkflowRecord

/-! ### Operations on runs -/

/-- How many actions of a run are in one of some states. -/
def count (s : WorkflowRecord) (runId : String) (states : List ActionState) : ℕ :=
  (s.actions.findMany fun _ action => action.runId = runId && states.contains action.state).length

/-- What an operation on a run finds in the table of the actions. -/
def answered (s : WorkflowRecord) : WorkflowRuns.Operation → WorkflowRuns.Operation
  | .run call op =>
    .run { call with
      checks := { call.checks with
        confirmedActions := fun runId => s.count runId [.confirmed]
        pendingActions := fun runId => s.count runId [.intent, .unknown] } } op
  | op => op

/-- The operation moves the workflow to another installation. -/
def takesOver : WorkflowRuns.Operation → Bool
  | .installation _ (.takeover _) => true
  | _ => false

/-- An operation on the rows; a takeover leaves no action in flight. -/
def onRows (s : WorkflowRecord) (digest : WorkflowLivePolicy → String)
    (op : WorkflowRuns.Operation) : Except RunError WorkflowRecord := do
  let rows ← (s.answered op).execute digest s.rows
  let actions := if takesOver op then
      s.actions.updateMany (fun _ action => action.state = .intent) fun action =>
        { action with state := .unknown }
    else s.actions
  return { s with rows, actions }

/-! ### Operations on actions -/

/-- What the operations on actions read of a workflow and its runs. -/
def actionState (s : WorkflowRecord) : WorkflowActions.WorkflowState where
  assignment :=
    { installationId := s.rows.workflow.assignedInstallationId
      epoch := s.rows.workflow.assignmentEpoch
      lease := do
        let runId ← s.rows.workflow.leaseRunId
        let expiresAt ← s.rows.workflow.leaseExpiresAt
        return (runId, (expiresAt : ℤ)) }
  runs := s.rows.runs.view fun run =>
    { employeeId := run.employeeId, installationId := run.installationId
      assignmentEpoch := run.assignmentEpoch, finished := run.finishedAt.isSome }
  actions := s.actions
  deduplication := s.deduplication

def withActions (s : WorkflowRecord) (t : WorkflowActions.WorkflowState) : WorkflowRecord :=
  { s with actions := t.actions, deduplication := t.deduplication }

/-- The run and the installation that a call is bound to, while the run has its lease. -/
def bound (s : WorkflowRecord) (call : WorkflowRuns.Call) (binding : RunBinding) :
    Option (WorkflowRun × WorkflowInstallation) :=
  (s.rows.requireBinding call binding true).toOption

/-- A capability for mails was found ready within a day. -/
def mailReady (install : WorkflowInstallation) (now : ℕ) : Bool :=
  ["email_identity", "sent_mail_lookup"].all fun capability =>
    install.readinessChecks.any fun check =>
      check.capability = capability && check.ready && now < check.checkedAt + 86400000

/-- The checks of an operation on actions that the rows of the workflow answer. -/
def actionChecks (s : WorkflowRecord) (call : WorkflowRuns.Call) (binding : RunBinding)
    (checks : WorkflowActions.Checks) : WorkflowActions.Checks :=
  { checks with
    bound := (s.bound call binding).isSome
    mailReady := (s.bound call binding).any fun found => mailReady found.2 call.now
    installed := (s.rows.getInstallation call binding.installationId false).isOk }

def actionBinding (call : WorkflowRuns.Call) (binding : RunBinding) : Binding where
  actorId := call.actorId
  installationId := binding.installationId
  runId := binding.runId
  assignmentEpoch := binding.assignmentEpoch

section

variable (sha256 : String → String)

/-- `intent`. -/
def intent (s : WorkflowRecord) (call : WorkflowRuns.Call) (binding : RunBinding)
    (intents : List WorkflowActionIntent) (checks : WorkflowActions.Checks) :
    Except WorkflowError WorkflowRecord := do
  let (t, _) ← intentOperation sha256 s.actionState (actionBinding call binding)
    intents call.now (s.actionChecks call binding checks)
  return s.withActions t

/-- `record_receipts`, and `resolve_unknown` with the only receipt. -/
def receipts (s : WorkflowRecord) (call : WorkflowRuns.Call) (binding : RunBinding)
    (resolveUnknown : Bool) (receipts : List WorkflowActionReceipt)
    (checks : WorkflowActions.Checks) : Except WorkflowError WorkflowRecord := do
  let t ← WorkflowActions.receiptOperation sha256 s.actionState
    { binding := actionBinding call binding, resolveUnknown, now := call.now
      checks := s.actionChecks call binding checks } receipts
  return s.withActions t

end

end WorkflowRecord

inductive Operation where
  /-- Any operation on the run, the installations or the configuration. -/
  | rows (op : WorkflowRuns.Operation)
  | intent (call : WorkflowRuns.Call) (binding : RunBinding) (actions : List WorkflowActionIntent)
      (checks : WorkflowActions.Checks)
  | recordReceipts (call : WorkflowRuns.Call) (binding : RunBinding)
      (receipts : List WorkflowActionReceipt) (checks : WorkflowActions.Checks)
  | resolveUnknown (call : WorkflowRuns.Call) (binding : RunBinding)
      (receipt : WorkflowActionReceipt) (checks : WorkflowActions.Checks)

section

variable (digest : WorkflowLivePolicy → String) (sha256 : String → String)

/-- A refused operation leaves the rows as they were. -/
def step (s : WorkflowRecord) : Operation → WorkflowRecord
  | .rows op => Runs.commit s (s.onRows digest op)
  | .intent call binding actions checks =>
    Runs.commit s (s.intent sha256 call binding actions checks)
  | .recordReceipts call binding receipts checks =>
    Runs.commit s (s.receipts sha256 call binding false receipts checks)
  | .resolveUnknown call binding receipt checks =>
    if !resolves receipt then s
    else Runs.commit s (s.receipts sha256 call binding true [receipt] checks)

end

/-! ### Succeeded runs -/

/-- The run is finished as succeeded. -/
def Succeeded (rows : WorkflowState) (runId : String) : Prop :=
  ∃ run, rows.runs.lookup runId = some run ∧ run.status = .succeeded ∧ run.finishedAt ≠ none

/-- It is not known what became of an action. -/
def Unresolved (action : WorkflowAction) : Prop :=
  action.state = .intent ∨ action.state = .unknown

/-- No action of a run that is finished as succeeded is unresolved. -/
def Resolved (s : WorkflowRecord) : Prop :=
  ∀ id action, s.actions.lookup id = some action → Succeeded s.rows action.runId →
    ¬ Unresolved action

/-- The last receipt of a call that names an action. -/
def lastReceipt (receipts : List WorkflowActionReceipt) (actionId : String) :
    Option WorkflowActionReceipt :=
  (receipts.filter (·.actionId = actionId)).getLast?

/-- The operation records no uncertainty about a failed action of a run that is finished as
succeeded: the last receipt of the call on such an action does not say unknown. -/
def KeepsCertain (sha256 : String → String) (s : WorkflowRecord) : Operation → Prop
  | .recordReceipts call binding receipts checks =>
    (s.receipts sha256 call binding false receipts checks).isOk →
      ∀ id action, s.actions.lookup id = some action → Succeeded s.rows action.runId →
        action.state = .failed → ∀ receipt, lastReceipt receipts id = some receipt →
          receipt.state ≠ .unknown
  | _ => True

/-! ### What ends a run -/

variable {runId : String}

section

open WorkflowRuns

variable {digest : WorkflowLivePolicy → String} {rows rows' : WorkflowState}
  {call : WorkflowRuns.Call}

/-- How a run stands. -/
def outcome (run : WorkflowRun) : RunStatus × Option ℕ := (run.status, run.finishedAt)

lemma Succeeded.of_keeps (hkeeps : Table.Keeps outcome rows.runs rows'.runs)
    (h : Succeeded rows' runId) : Succeeded rows runId := by
  obtain ⟨run', hrun', hstatus, hfinished⟩ := h
  obtain ⟨run, hrun, hsame⟩ := hkeeps.back hrun'
  obtain ⟨hstatus', hfinished'⟩ := Prod.ext_iff.mp hsame
  exact ⟨run, hrun, hstatus'.trans hstatus, fun hnone => hfinished (hfinished'.symm.trans hnone)⟩

lemma keeps_moveRuns (rows : WorkflowState) (call : WorkflowRuns.Call)
    (installationId : String) :
    Table.Keeps outcome rows.runs (rows.moveRuns call installationId).runs :=
  Table.Keeps.updateMany fun _ => rfl

lemma keeps_takenOver (rows : WorkflowState) (call : WorkflowRuns.Call)
    (installationId : String) :
    Table.Keeps outcome rows.runs (rows.takenOver call installationId).runs := by
  have hmoved := keeps_moveRuns (rows.revokeOld installationId) call installationId
  rw [(revokeOld_eq rows installationId).2.1] at hmoved
  unfold WorkflowState.takenOver
  dsimp only
  split
  · rw [(activateOrderScope_eq _).2.1]
    exact hmoved
  · exact hmoved

lemma keeps_installation {op : InstallationOperation} (h : op.execute rows call = .ok rows') :
    Table.Keeps outcome rows.runs rows'.runs := by
  cases op with
  | register input =>
    unfold InstallationOperation.execute WorkflowState.register at h
    dsimp only at h
    split at h
    · cases h
      exact .refl _ _
    split at h
    · cases h
    split at h <;> cases h <;> exact .refl _ _
  | recordChecks installationId checks firstRunVerification =>
    obtain ⟨old, -, h⟩ := bind_ok.mp h
    split at h
    · cases h
    split at h
    · cases h
    cases h
    exact .refl _ _
  | recordHost installationId hostSnapshot =>
    obtain ⟨old, -, h⟩ := bind_ok.mp h
    cases h
    exact .refl _ _
  | setState installationId expectedVersion state =>
    obtain ⟨old, -, h⟩ := bind_ok.mp h
    split at h
    · cases h
    split at h
    · obtain ⟨install, -, h⟩ := bind_ok.mp h
      split at h
      · cases h
      cases h
      have hruns := (activateOrderScope_eq rows).2.1
      exact hruns ▸ Table.Keeps.refl _ _
    · cases h
      exact .refl _ _
  | prepareTakeover installationId epoch paused previewId confirmationDigest =>
    obtain ⟨⟨⟩, -, h⟩ := bind_ok.mp h
    split at h
    · cases h
    dsimp only at h
    split at h
    · cases h
    cases h
    exact .refl _ _
  | takeover input =>
    obtain ⟨⟨⟩, -, h⟩ := bind_ok.mp h
    split at h
    · split at h
      · cases h
      split at h
      · cases h
      cases h
      exact keeps_takenOver rows call input.installationId
    · cases h

lemma keeps_renew {binding : RunBinding} {resume : Bool}
    (h : rows.renew call binding resume = .ok rows') :
    Table.Keeps outcome rows.runs rows'.runs := by
  obtain ⟨run, install, -, -, rfl⟩ := renew_ok h
  exact Table.Keeps.update fun _ => rfl

lemma succeeded_start {input : StartInput} {id : String}
    (h : rows.start call input id = .ok rows') (hrun : Succeeded rows' runId) :
    Succeeded rows runId := by
  obtain ⟨-, -, -, -, -, run, runs, previews, hcreate, -, -, -, hopen, rfl⟩ := start_ok h
  obtain ⟨run', hrun', hstatus, hfinished⟩ := hrun
  rw [Table.lookup_create hcreate] at hrun'
  split at hrun'
  · obtain rfl := Option.some.inj hrun'
    exact absurd hopen hfinished
  · exact ⟨run', hrun', hstatus, hfinished⟩

lemma succeeded_summary {binding : RunBinding} {summary : RunSummary} {finish : Bool}
    (h : rows.recordSummary call binding summary finish = .ok rows')
    (hrun : Succeeded rows' runId) :
    Succeeded rows runId ∨
      (finish = true ∧ runId = binding.runId ∧ call.checks.pendingActions runId = 0) := by
  obtain ⟨run', hrun', hstatus, hfinished⟩ := hrun
  obtain ⟨before, install, hbound, -, rfl⟩ := recordSummary_ok h
  dsimp only at hrun'
  rw [Table.lookup_update] at hrun'
  by_cases hid : runId = binding.runId
  swap
  · rw [if_neg hid] at hrun'
    exact .inl ⟨run', hrun', hstatus, hfinished⟩
  rw [if_pos hid, hbound.row] at hrun'
  obtain rfl := Option.some.inj hrun'
  cases finish with
  | false => exact absurd hbound.unfinished hfinished
  | true =>
    refine .inr ⟨rfl, hid, ?_⟩
    -- the summary was not refused
    obtain ⟨⟨found, _⟩, -, h⟩ := bind_ok.mp h
    obtain ⟨⟨⟩, -, h⟩ := bind_ok.mp h
    dsimp only at h
    split at h
    · cases h
    rename_i hrefused
    unfold WorkflowState.summaryRefused at hrefused
    obtain ⟨-, hrefused⟩ := Option.or_eq_none_iff.mp hrefused
    have hsucceeded : summary.status = .succeeded := hstatus
    by_contra hpending
    rw [hid] at hpending
    split at hrefused
    · cases hrefused
    · rw [if_pos] at hrefused
      · cases hrefused
      · simp [hpending, hsucceeded]

/-- **A run is finished as succeeded** by its own finish, when no action of it is pending. -/
lemma succeeded_of_execute {op : WorkflowRuns.Operation} (h : op.execute digest rows = .ok rows')
    (hrun : Succeeded rows' runId) :
    Succeeded rows runId ∨ ∃ call op', op = .run call op' ∧
      call.checks.pendingActions runId = 0 := by
  cases op with
  | run call op =>
    have hdone : op.Done rows call rows' := done_of_execute h
    cases op with
    | prepareBackfill installationId epoch window allowed previewId confirmationDigest =>
      obtain ⟨previews, rfl⟩ := prepareBackfill_ok hdone
      exact .inl hrun
    | start input id => exact .inl (succeeded_start hdone hrun)
    | renew binding => exact .inl (hrun.of_keeps (keeps_renew hdone))
    | resume binding => exact .inl (hrun.of_keeps (keeps_renew hdone))
    | checkActions binding =>
      obtain rfl : rows' = rows := hdone
      exact .inl hrun
    | recordSummary binding summary =>
      rcases succeeded_summary hdone hrun with hbefore | ⟨hfinish, -, -⟩
      · exact .inl hbefore
      · cases hfinish
    | finish binding summary =>
      rcases succeeded_summary hdone hrun with hbefore | ⟨-, -, hpending⟩
      · exact .inl hbefore
      · exact .inr ⟨call, _, rfl, hpending⟩
    | release binding =>
      obtain ⟨run, -, -, -, -, -, rfl⟩ := release_ok hdone
      exact .inl hrun
  | installation call op => exact .inl (hrun.of_keeps (keeps_installation h))
  | pruneRetention runIds now =>
    cases h
    obtain ⟨run, hkept, hstatus, hfinished⟩ := hrun
    dsimp only at hkept
    rw [Table.lookup_deleteMany, Option.filter_eq_some_iff] at hkept
    exact .inl ⟨run, hkept.1, hstatus, hfinished⟩
  | _ =>
    have hkeeps := (onlyControl_of_execute rfl h).runs
    exact .inl (hrun.of_keeps (hkeeps.coarsen (fun facts => (facts.1, facts.2.2.2.2)) fun _ => rfl))

end

/-! ### What becomes of actions -/

variable {receipts : List WorkflowActionReceipt}

section

variable {sha256 : String → String} {t t' : WorkflowActions.WorkflowState}

variable {action : WorkflowAction}

lemma claimAction_run {intent : WorkflowActionIntent} {now : ℤ} {result : ClaimResult}
    (h : claimAction sha256 t runId intent now = .ok (t', result)) {id : String}
    (ha : t'.actions.lookup id = some action) :
    t.actions.lookup id = some action ∨ action.runId = runId := by
  rcases WorkflowActions.claimAction_cases h with rfl | ⟨claimed, hrun, -, hactions, -⟩
  · exact .inl ha
  rw [hactions] at ha
  split_ifs at ha
  · obtain rfl := Option.some.inj ha
    exact .inr hrun
  · exact .inl ha

lemma claimActions_run {intents : List WorkflowActionIntent} {now : ℤ} {results : List ClaimResult}
    (h : claimActions sha256 t runId now intents = .ok (t', results)) {id : String}
    (ha : t'.actions.lookup id = some action) :
    t.actions.lookup id = some action ∨ action.runId = runId := by
  refine WorkflowActions.claimActions_induction (fun t' => ∀ id action,
    t'.actions.lookup id = some action → t.actions.lookup id = some action ∨ action.runId = runId)
    (fun hclaim hkept id action ha => ?_) h (fun _ _ ha => .inl ha) id action ha
  rcases claimAction_run hclaim ha with hbefore | hrun
  · exact hkept id action hbefore
  · exact .inr hrun

/-- The run of an action, and its state. -/
def standing (action : WorkflowAction) : String × ActionState :=
  (action.runId, action.state)

/-- The state that the last receipt of a call says. -/
def stated (receipts : List WorkflowActionReceipt) (id : String)
    (before : ActionState) : ActionState :=
  ((lastReceipt receipts id).map (·.state.action)).getD before

lemma stated_cons (receipt : WorkflowActionReceipt) (receipts : List WorkflowActionReceipt)
    (id : String) (before : ActionState) :
    stated (receipt :: receipts) id before =
      stated receipts id (if receipt.actionId = id then receipt.state.action else before) := by
  unfold stated lastReceipt
  by_cases hid : receipt.actionId = id
  · rw [List.filter_cons, if_pos (decide_eq_true hid), if_pos hid, List.getLast?_cons]
    cases (receipts.filter (·.actionId = id)).getLast? <;> rfl
  · rw [List.filter_cons, if_neg (by simpa using hid), if_neg hid]

lemma recordReceipt_standing {call : ReceiptCall}
    {receipt : WorkflowActionReceipt}
    (h : recordReceipt sha256 call t receipt = .ok t') (id : String) :
    (t'.actions.lookup id).map standing = (t.actions.lookup id).map fun action =>
      (action.runId, if receipt.actionId = id then receipt.state.action else action.state) := by
  unfold recordReceipt at h
  split at h
  · cases h
  rename_i found hfound
  split at h
  · cases h
  split at h
  · rename_i hconfirmed
    split at h
    · cases h
    rename_i hsame
    cases h
    -- a confirmed action is confirmed again
    by_cases hid : receipt.actionId = id
    · subst hid
      rw [hfound, Option.map_some, Option.map_some, if_pos rfl]
      have hstate : receipt.state = .confirmed := by
        by_contra hother
        exact hsame (by simp [hother])
      rw [hstate]
      exact congrArg some (Prod.ext rfl hconfirmed)
    · exact Option.map_congr fun action _ => by rw [if_neg hid]; rfl
  split at h
  · cases h
  cases h
  unfold applyReceipt
  dsimp only
  rw [Table.lookup_update]
  by_cases hid : id = receipt.actionId
  · subst hid
    rw [if_pos rfl, hfound]
    rw [Option.map_some, Option.map_some, Option.map_some, if_pos rfl]
    rfl
  · rw [if_neg hid]
    exact Option.map_congr fun action _ => by rw [if_neg (Ne.symm hid)]; rfl

lemma recordReceipts_standing {call : ReceiptCall}
    (h : recordReceipts sha256 call t receipts = .ok t') (id : String) :
    (t'.actions.lookup id).map standing = (t.actions.lookup id).map fun action =>
      (action.runId, stated receipts id action.state) := by
  induction receipts generalizing t with
  | nil =>
    cases h
    rfl
  | cons receipt receipts ih =>
    obtain ⟨t₁, hfirst, hrest⟩ := bind_ok.mp h
    have hstep := recordReceipt_standing hfirst id
    rw [ih hrest]
    cases hbefore : t.actions.lookup id with
    | none =>
      rw [hbefore, Option.map_none, Option.map_eq_none_iff] at hstep
      rw [hstep]
      rfl
    | some action =>
      rw [hbefore, Option.map_some] at hstep
      obtain ⟨action', hafter, hstanding⟩ := Option.map_eq_some_iff.mp hstep
      obtain ⟨hrun, hstate⟩ := Prod.ext_iff.mp hstanding
      rw [hafter, Option.map_some, Option.map_some, stated_cons]
      exact congrArg some (Prod.ext hrun (congrArg (stated receipts id) hstate))

lemma recordReceipt_confirmed {call : ReceiptCall} {receipt : WorkflowActionReceipt}
    (h : recordReceipt sha256 call t receipt = .ok t')
    (ha : t.actions.lookup receipt.actionId = some action) (hconfirmed : action.state = .confirmed)
    : receipt.state = .confirmed := by
  unfold recordReceipt at h
  rw [ha] at h
  dsimp only at h
  split at h
  · cases h
  split at h
  · cases h
  rename_i hsame
  by_contra hother
  exact hsame (by simp [hother])

lemma recordReceipts_confirmed {call : ReceiptCall} {id : String}
    (h : recordReceipts sha256 call t receipts = .ok t') (ha : t.actions.lookup id = some action)
    (hconfirmed : action.state = .confirmed) : stated receipts id .confirmed = .confirmed := by
  induction receipts generalizing t action with
  | nil => rfl
  | cons receipt receipts ih =>
    obtain ⟨t₁, hfirst, hrest⟩ := bind_ok.mp h
    have hstep := recordReceipt_standing hfirst id
    rw [ha, Option.map_some] at hstep
    obtain ⟨action', hafter, hstanding⟩ := Option.map_eq_some_iff.mp hstep
    have htold : (if receipt.actionId = id then receipt.state.action else action.state) =
        .confirmed := by
      split
      · rename_i hid
        subst hid
        rw [recordReceipt_confirmed hfirst ha hconfirmed]
        rfl
      · exact hconfirmed
    have hrest := ih hrest hafter ((Prod.ext_iff.mp hstanding).2.trans htold)
    rw [hconfirmed] at htold
    rw [stated_cons, htold, hrest]

end

/-! ### Steps -/

section

variable {digest : WorkflowLivePolicy → String} {sha256 : String → String}
  {s s' : WorkflowRecord} {call : WorkflowRuns.Call} {binding : RunBinding}

lemma resolved_onRows {op : WorkflowRuns.Operation} (hs : Resolved s)
    (h : s.onRows digest op = .ok s') : Resolved s' := by
  obtain ⟨rows, hrows, h⟩ := bind_ok.mp h
  cases h
  intro id action ha hrun
  dsimp only at ha hrun
  rcases succeeded_of_execute hrows hrun with hbefore | ⟨call, op', hop, hpending⟩
  · split at ha
    · rw [Table.lookup_updateMany] at ha
      obtain ⟨before, hfound, rfl⟩ := Option.map_eq_some_iff.mp ha
      have hrunId : (if before.state = .intent then { before with state := .unknown }
          else before : WorkflowAction).runId = before.runId := by
        split <;> rfl
      have hresolved := hs id before hfound (by simpa [hrunId] using hbefore)
      have hintent : ¬ before.state = .intent := fun hintent => hresolved (.inl hintent)
      simpa [hintent] using hresolved
    · exact hs id action ha hbefore
  · -- its own finish has counted the actions of the run
    have hkept : WorkflowRecord.takesOver op = false := by
      cases op <;> first | rfl | cases hop
    rw [hkept, if_neg (by decide)] at ha
    cases op with
    | run call₀ op₀ =>
      obtain ⟨rfl, rfl⟩ : _ = call ∧ op₀ = op' := by simpa [WorkflowRecord.answered] using hop
      have hnone : s.count action.runId [.intent, .unknown] = 0 := hpending
      unfold WorkflowRecord.count at hnone
      intro hunresolved
      have hmem : (id, action) ∈ s.actions.findMany fun _ a =>
          a.runId = action.runId && [.intent, .unknown].contains a.state := by
        refine Table.mem_findMany.mpr ⟨ha, ?_⟩
        rcases hunresolved with hstate | hstate <;> simp [hstate]
      rw [List.length_eq_zero_iff.mp hnone] at hmem
      cases hmem
    | _ => cases hop

lemma ok_of_toOption {ε α : Type} {x : Except ε α} {a : α} (h : x.toOption = some a) :
    x = .ok a := by
  cases x with
  | error e => cases h
  | ok b => exact congrArg Except.ok (Option.some.inj h)

lemma resolved_intent {intents : List WorkflowActionIntent} {checks : WorkflowActions.Checks}
    (hs : Resolved s) (h : s.intent sha256 call binding intents checks = .ok s') :
    Resolved s' := by
  obtain ⟨⟨t, results⟩, hintent, h⟩ := bind_ok.mp h
  cases h
  unfold intentOperation at hintent
  split at hintent
  · cases hintent
  split at hintent
  · cases hintent
  rename_i hbound
  split at hintent
  · cases hintent
  split at hintent
  · cases hintent
  intro id action ha hrun
  rcases claimActions_run hintent ha with hbefore | hclaimed
  · exact hs id action hbefore hrun
  · exfalso
    obtain ⟨run, hrow, -, hfinished⟩ := hrun
    rw [hclaimed] at hrow
    have hfound : (s.bound call binding).isSome = true := by
      rw [Bool.not_eq_true, Bool.not_eq_false'] at hbound
      exact hbound
    obtain ⟨⟨run', install⟩, hrun'⟩ := Option.isSome_iff_exists.mp hfound
    obtain ⟨hopen, -⟩ := WorkflowRuns.requireBinding_ok (ok_of_toOption hrun')
    obtain rfl := Option.some.inj (hopen.row.symm.trans hrow)
    exact hfinished hopen.unfinished

lemma resolved_receipts {resolveUnknown : Bool} {checks : WorkflowActions.Checks} (hs : Resolved s)
    (h : s.receipts sha256 call binding resolveUnknown receipts checks = .ok s') :
    Resolved s' ↔ ∀ id action, s.actions.lookup id = some action → Succeeded s.rows action.runId →
      action.state = .failed → ∀ receipt, lastReceipt receipts id = some receipt →
        receipt.state ≠ .unknown := by
  obtain ⟨t, hreceipts, h⟩ := bind_ok.mp h
  cases h
  have hrecorded := WorkflowActions.receiptOperation_ok hreceipts
  have hstanding : ∀ id, (t.actions.lookup id).map standing = (s.actions.lookup id).map _ :=
    recordReceipts_standing hrecorded
  constructor
  · intro hafter id action ha hrun hfailed receipt hlast hunknown
    have hstate := hstanding id
    rw [ha, Option.map_some] at hstate
    obtain ⟨action', ha', hsame⟩ := Option.map_eq_some_iff.mp hstate
    obtain ⟨hrunId, hstated⟩ := Prod.ext_iff.mp hsame
    have hrunId : action'.runId = action.runId := hrunId
    refine hafter id action' ha' (hrunId ▸ hrun) (.inr (hstated.trans ?_))
    unfold stated
    rw [hlast, Option.map_some, Option.getD_some, hunknown]
    rfl
  · intro hcertain id action' ha' hrun
    have hstate := hstanding id
    have ha'' : t.actions.lookup id = some action' := ha'
    rw [ha'', Option.map_some] at hstate
    obtain ⟨action, ha, hsame⟩ := Option.map_eq_some_iff.mp hstate.symm
    obtain ⟨hrunId, hstated⟩ := Prod.ext_iff.mp hsame
    have hrunId : action.runId = action'.runId := hrunId
    have hstated : stated receipts id action.state = action'.state := hstated
    have hbefore := hs id action ha (hrunId ▸ hrun)
    unfold Unresolved
    rw [← hstated]
    cases hstate : action.state with
    | intent => exact absurd (.inl hstate) hbefore
    | unknown => exact absurd (.inr hstate) hbefore
    | confirmed =>
      rw [recordReceipts_confirmed hrecorded ha hstate]
      simp
    | failed =>
      unfold stated
      cases hlast : lastReceipt receipts id with
      | none => simp
      | some receipt =>
        have hknown := hcertain id action ha (hrunId ▸ hrun) hstate receipt hlast
        cases htold : receipt.state with
        | unknown => exact absurd htold hknown
        | confirmed => simp [htold, ReceiptState.action]
        | failed => simp [htold, ReceiptState.action]

/-- **A step keeps succeeded runs resolved if and only if** it makes no failed action of them
uncertain. -/
lemma resolved_step (hs : Resolved s) (op : Operation) :
    Resolved (step digest sha256 s op) ↔ KeepsCertain sha256 s op := by
  cases op with
  | rows op =>
    exact iff_of_true (Runs.commit_induction hs fun s' h => resolved_onRows hs h) trivial
  | intent call binding actions checks =>
    exact iff_of_true (Runs.commit_induction hs fun s' h => resolved_intent hs h) trivial
  | recordReceipts call binding receipts checks =>
    unfold step KeepsCertain
    dsimp only
    cases h : s.receipts sha256 call binding false receipts checks with
    | error e => exact iff_of_true hs nofun
    | ok s' => exact (resolved_receipts hs h).trans ⟨fun hcertain _ => hcertain, fun h => h rfl⟩
  | resolveUnknown call binding receipt checks =>
    refine iff_of_true ?_ trivial
    unfold step
    dsimp only
    split
    · exact hs
    rename_i hresolves
    refine Runs.commit_induction hs fun s' h => (resolved_receipts hs h).mpr ?_
    intro id action ha hrun hfailed last hlast hunknown
    have hmem : last ∈ [receipt] := List.mem_of_mem_filter (List.mem_of_getLast? hlast)
    obtain rfl := List.mem_singleton.mp hmem
    simp [resolves, hunknown] at hresolves

/-- A workflow that has just been made. -/
def WorkflowRecord.initial (integrationVersion : ℕ) (integration : EnterpriseIntegration)
    (orderScopeRequired : Bool) : WorkflowRecord where
  rows := .initial integrationVersion integration orderScopeRequired
  actions := ∅
  deduplication := ∅

/-- **Succeeded runs have nothing unresolved**, after any operations in any order in which no
receipt makes a failed action of a succeeded run uncertain. -/
theorem succeeded_runs_resolved (integrationVersion : ℕ) (integration : EnterpriseIntegration)
    (orderScopeRequired : Bool) (ops : List Operation)
    (hcertain : Runs.Along (step digest sha256) (KeepsCertain sha256)
      (.initial integrationVersion integration orderScopeRequired) ops) :
    Resolved (Runs.run (step digest sha256)
      (.initial integrationVersion integration orderScopeRequired) ops) := by
  have hstep : ∀ s op, KeepsCertain sha256 s op → Resolved s →
      Resolved (step digest sha256 s op) := fun s op hop hs => (resolved_step hs op).mpr hop
  refine Runs.run_invariant hstep hcertain fun id action ha => ?_
  cases ha

end

/-! ### A late receipt -/

section

/-- The other tables allow whatever is asked. -/
def exampleCall (now : ℕ) : WorkflowRuns.Call where
  actorId := "emp"
  now := now
  checks :=
    { enabled := true, launcherSupported := fun _ => true
      supportsWorkflowPackageVersion := fun _ => true, storesValid := fun _ => true
      valid := fun _ _ => true, readable := fun _ => true
      scheduledWindow := ⟨"2026-01-11", "2026-01-11"⟩, present := fun _ => false
      confirmedActions := fun _ => 0, pendingActions := fun _ => 0
      pending := ⟨[], 0, none⟩, authorizations := true, sameImpact := true }

def exampleChecks : WorkflowActions.Checks where
  bound := true
  authorized := fun _ => true
  mailReady := true
  installed := true
  unproven := fun _ _ => none
  previewMatches := true

/-- A daily ingestion is configured and activated, an installation takes it over, and it starts
the run of the day. -/
def startedRun : List Operation :=
  let host : WorkflowRuns.HostSnapshot := ⟨"task", "project", "0 6 * * *", "model", "high", true, 0⟩
  let ready (capability : String) : WorkflowRuns.ReadinessCheck := ⟨capability, true, 0⟩
  [.rows (.prepareChange (exampleCall 0) 0 0 0 (.configuration (.dailyIngestion ["N"] [.business]))
      "p1" "d1"),
    .rows (.saveChange (exampleCall 0) ⟨0, 0, 0, "p1", "d1"⟩),
    .rows (.prepareChange (exampleCall 0) 1 0 0 (.control .active) "p2" "d2"),
    .rows (.saveChange (exampleCall 0) ⟨1, 0, 0, "p2", "d2"⟩),
    .rows (.installation (exampleCall 0) (.register ⟨"host", "laptop", "1.0.0", "1", some host⟩)),
    .rows (.installation (exampleCall 0) (.recordChecks "host"
      ((WorkflowRuns.requiredCapabilities .dailyIngestion).map ready) .notRun)),
    .rows (.installation (exampleCall 0) (.prepareTakeover "host" 0 true "p3" "d3")),
    .rows (.installation (exampleCall 0) (.takeover ⟨"host", 0, "p3", "d3"⟩)),
    .rows (.run (exampleCall 0) (.start ⟨"host", 1, 1, 0, 1, "1", ⟨"2026-01-11", "2026-01-11"⟩,
      .scheduled, none⟩ "run"))]

def exampleBinding : RunBinding := ⟨"host", "run", 1, 1⟩

/-- An upload of the day. -/
def exampleUpload : WorkflowActionIntent where
  actionId := "upload"
  identity := .upload ["N"] ⟨"2026-01-11", "2026-01-11"⟩ .business false "source" "metadata"
  artifactHash := none
  correlationMarker := none

def exampleReceipt (state : ReceiptState) (evidence : Evidence) :
    WorkflowActionReceipt where
  actionId := "upload"
  state := state
  evidence := evidence
  receiptId := none
  jobId := none
  resultHash := none
  reason := none
  verifiedAt := ⟨"2026-01-12T00:00:00Z", 0⟩
  providerReadback := none

/-- The upload is rejected and the run finishes as succeeded. -/
def finishedRun : List Operation :=
  startedRun ++
    [.intent (exampleCall 1) exampleBinding [exampleUpload] exampleChecks,
      .recordReceipts (exampleCall 2) exampleBinding [exampleReceipt .failed .requestRejected]
        exampleChecks,
      .rows (.run (exampleCall 3) (.finish exampleBinding
        ⟨.finished, .succeeded, [], [], .retained⟩))]

/-- A receipt that arrives late does not know what became of the upload. -/
def lateReceipt : Operation :=
  .recordReceipts (exampleCall 4) exampleBinding [exampleReceipt .unknown .transportUnknown]
    exampleChecks

def exampleRecord (ops : List Operation) : WorkflowRecord :=
  Runs.run (step (fun _ => "") id) (.initial 0 ⟨[], []⟩ false) ops

/-- How the run and its action stand. -/
def exampleStanding (ops : List Operation) :
    Option ((RunStatus × Bool) × String × ActionState) := do
  let run ← (exampleRecord ops).rows.runs.lookup "run"
  let action ← (exampleRecord ops).actions.lookup "upload"
  return ((run.status, run.finishedAt.isSome), standing action)

lemma of_exampleStanding {ops : List Operation} {ends : RunStatus × Bool}
    {stands : String × ActionState}
    (h : exampleStanding ops = some (ends, stands)) :
    ∃ run action, (exampleRecord ops).rows.runs.lookup "run" = some run ∧
      (exampleRecord ops).actions.lookup "upload" = some action ∧
      (run.status, run.finishedAt.isSome) = ends ∧ standing action = stands := by
  obtain ⟨run, hrun, hrest⟩ := Option.bind_eq_some_iff.mp h
  obtain ⟨action, haction, hpair⟩ := Option.bind_eq_some_iff.mp hrest
  obtain ⟨hends, hstands⟩ := Prod.ext_iff.mp (Option.some.inj hpair)
  exact ⟨run, action, hrun, haction, hends, hstands⟩

lemma late_receipt_standing : exampleStanding (finishedRun ++ [lateReceipt]) =
    some ((.succeeded, true), "run", .unknown) := by
  decide +kernel

/-- **A succeeded run has an action that is unknown.** -/
theorem late_receipt_unresolved : ¬ ∀ (digest : WorkflowLivePolicy → String)
    (sha256 : String → String) (integrationVersion : ℕ) (integration : EnterpriseIntegration)
    (orderScopeRequired : Bool) (ops : List Operation),
    Resolved (Runs.run (step digest sha256)
      (.initial integrationVersion integration orderScopeRequired) ops) := by
  intro h
  have hlate := h (fun _ => "") id 0 ⟨[], []⟩ false (finishedRun ++ [lateReceipt])
  obtain ⟨run, action, hrun, haction, hends, hstands⟩ := of_exampleStanding late_receipt_standing
  obtain ⟨hstatus, hfinished⟩ := Prod.ext_iff.mp hends
  obtain ⟨hrunId, hstate⟩ := Prod.ext_iff.mp hstands
  refine hlate "upload" action haction ?_ (.inr hstate)
  have hsucceeded : Succeeded (exampleRecord (finishedRun ++ [lateReceipt])).rows "run" :=
    ⟨run, hrun, hstatus, fun hnone => by simp [hnone] at hfinished⟩
  have hrunId : action.runId = "run" := hrunId
  rw [hrunId]
  exact hsucceeded

/-- Without the late receipt, the run that succeeded has nothing unresolved. -/
theorem finished_run_resolved : Resolved (exampleRecord finishedRun) := by
  refine succeeded_runs_resolved 0 ⟨[], []⟩ false finishedRun ⟨trivial, trivial, trivial, trivial,
    trivial, trivial, trivial, trivial, trivial, trivial, ?_, trivial, trivial⟩
  intro _ id action _ _ _ receipt hlast
  have hmem : receipt ∈ [exampleReceipt .failed .requestRejected] :=
    List.mem_of_mem_filter (List.mem_of_getLast? hlast)
  obtain rfl := List.mem_singleton.mp hmem
  decide

end

end FinishedRuns
end SmeDataCenter
