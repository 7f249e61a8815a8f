import SmeDataCenter.FencedLease
import SmeDataCenter.WorkerCalls

/-!
# Lease fencing of processing runs

The lease columns of a processing run are a fenced lease, and each call of a worker moves it:
the claimed run is claimed, the run of a leased write is renewed, given back, completed or
failed by its token, and every other run stays. What holds of histories of a fenced lease then
holds of every run under any interleaving of calls.
-/

namespace SmeDataCenter

open Runs FencedLease

/-! ### The lease of a run -/

/-- Where a run stands for those who would work on it. -/
def ProcessingRunStatus.phase : ProcessingRunStatus → Phase
  | .queued | .retryScheduled => .waiting
  | .running => .running
  | .succeeded => .completed
  | .failed => .failed

def ProcessingRun.leaseRow (run : ProcessingRun) : LeaseRow String :=
  ⟨run.status.phase, run.attemptNumber, run.lockedBy, run.lockedUntil⟩

def Lease.token (lease : Lease) : Token String := ⟨lease.workerId, lease.attemptNumber⟩

lemma phase_eq_running {status : ProcessingRunStatus} :
    status.phase = .running ↔ status = .running := by
  cases status <;> simp [ProcessingRunStatus.phase]

variable {lease : Lease}

lemma leaseMatches_iff {now : ℕ} {run : ProcessingRun} :
    leaseMatches lease now run = true ↔ Active run.leaseRow lease.token now := by
  simp only [leaseMatches, Bool.and_eq_true, decide_eq_true_eq, Option.any_eq_true]
  constructor
  · rintro ⟨⟨⟨hstatus, hholder⟩, hattempt⟩, deadline, hd, hlt⟩
    exact ⟨phase_eq_running.mpr hstatus, hholder, hattempt, deadline, hd, hlt⟩
  · rintro ⟨hphase, hholder, hattempt, deadline, hd, hlt⟩
    exact ⟨⟨⟨phase_eq_running.mp hphase, hholder⟩, hattempt⟩, deadline, hd, hlt⟩

lemma claimable_of_guard {now : ℕ} {found run : ProcessingRun}
    (hdue : Database.runIsDue now found = true) (hguard : Database.claimGuard now found run = true) :
    Claimable run.leaseRow now := by
  simp only [Database.claimGuard, Bool.and_eq_true, decide_eq_true_eq] at hguard
  obtain ⟨⟨⟨⟨⟨-, hstatus⟩, -⟩, -⟩, -⟩, htime⟩ := hguard
  unfold Database.runIsDue at hdue
  cases hs : found.status with
  | queued =>
    exact .inl (by simp [ProcessingRun.leaseRow, hstatus, hs, ProcessingRunStatus.phase])
  | retryScheduled =>
    exact .inl (by simp [ProcessingRun.leaseRow, hstatus, hs, ProcessingRunStatus.phase])
  | running =>
    rw [if_pos hs] at htime
    simp only [Option.any_eq_true, decide_eq_true_eq] at htime
    exact .inr ⟨by simp [ProcessingRun.leaseRow, hstatus, hs, ProcessingRunStatus.phase], htime⟩
  | succeeded => simp [hs] at hdue
  | failed => simp [hs] at hdue

/-! ### One call -/

/-- What a call does to the run it is accepted for. -/
def Call.action : Call → Action String
  | .claimNextProcessingRun .. => .claim
  | .heartbeatProcessingRun lease .. => .renew lease.token
  | .completePartitionProcessing lease _ => .complete lease.token
  | .completeEvidenceIndexing lease .. => .complete lease.token
  | .beginStructuredImportApply lease .. => .renew lease.token
  | .completeStructuredImport lease .. => .complete lease.token
  | .rejectStructuredImport lease .. => .fail lease.token
  | .failProcessingRun lease input _ =>
    if input.willRetry then .giveBack lease.token else .fail lease.token
  | .finishJob lease .. => .renew lease.token
  | .publishSourceAtomically lease .. => .renew lease.token

/-- An accepted write of a lease: `f` over its run, which moves as the call says. -/
structure Writes (db : Database) (call : Call) (lease : Lease) (db' : Database) : Prop where
  leased : db.Leased lease call.now
  runs : ∃ f : ProcessingRun → ProcessingRun,
    (∀ id, db'.processingRuns.lookup id = (db.processingRuns.update lease.runId f).lookup id) ∧
    ∀ run, (f run).owner = run.owner ∧
      (leaseMatches lease call.now run = true →
        Move call.now run.leaseRow call.action (f run).leaseRow)

/-- The claim of a run for the worker. -/
structure Claims (db : Database) (call : Call) (claimed : ClaimedProcessingRun)
    (db' : Database) : Prop where
  action : call.action = .claim
  runs : ∃ run, ∃ f : ProcessingRun → ProcessingRun,
    db.processingRuns.lookup claimed.id = some run ∧
    (f run).owner = run.owner ∧
    claimed.attemptNumber = (f run).attemptNumber ∧
    Move call.now run.leaseRow .claim (f run).leaseRow ∧
    db'.processingRuns = db.processingRuns.update claimed.id f

variable {call : Call}

section

variable {config : Option String} {db db' : Database} {reply : Reply}

lemma writes_of_update (f : ProcessingRun → ProcessingRun) (hleased : db.Leased lease call.now)
    (hruns : db'.processingRuns = db.processingRuns.update lease.runId f)
    (hf : ∀ run, (f run).owner = run.owner) (hmove : ∀ run, leaseMatches lease call.now run = true →
      Move call.now run.leaseRow call.action (f run).leaseRow) : Writes db call lease db' :=
  ⟨hleased, f, fun id => by rw [hruns], fun run => ⟨hf run, hmove run⟩⟩

/-- **What a call does**: it is refused and changes nothing, or it claims a run, or it writes
the run of its lease. -/
theorem perform_cases (hdb : db.UniqueRuns) (h : perform config db call = (reply, db')) :
    (reply ≠ .done ∧ (∀ r, reply ≠ .claimed r) ∧ db' = db) ∨
      (∃ r, reply = .claimed r ∧ Claims db call r db') ∨
      (∃ lease, call.lease = some lease ∧ (∀ r, reply ≠ .claimed r) ∧
        (call.completes = true → reply = .done) ∧ Writes db call lease db') := by
  -- a leased write that throws is refused, and one that does not writes
  have hleased : ∀ {lease : Lease} {result : Except WorkerError Database},
      call.lease = some lease → replyTo db result = (reply, db') →
      (∀ db₁, result = .ok db₁ → Writes db call lease db₁) →
      (reply ≠ .done ∧ (∀ r, reply ≠ .claimed r) ∧ db' = db) ∨
        (∃ r, reply = .claimed r ∧ Claims db call r db') ∨
        (∃ lease, call.lease = some lease ∧ (∀ r, reply ≠ .claimed r) ∧
          (call.completes = true → reply = .done) ∧ Writes db call lease db') := by
    intro lease result hlease hreply hwrites
    cases result with
    | error e =>
      cases hreply
      exact .inl ⟨by simp, by simp, rfl⟩
    | ok db₁ =>
      cases hreply
      exact .inr (.inr ⟨lease, hlease, by simp, fun _ => rfl, hwrites _ rfl⟩)
  cases call with
  | claimNextProcessingRun seen workerId seconds now =>
    unfold perform at h
    dsimp only at h
    cases hclaim : Database.claimNextProcessingRun seen db config workerId seconds now with
    | error e =>
      simp only [hclaim, Prod.mk.injEq] at h
      exact .inl ⟨by simp [← h.1], by simp [← h.1], h.2.symm⟩
    | ok result =>
      obtain ⟨claimed, db₁⟩ := result
      rcases Database.claimNextProcessingRun_ok hclaim with ⟨rfl, rfl⟩ | ⟨found, run, r, rfl,
        hattempt, -, -, heligible, hrun, hguard, hwrites⟩
      · simp only [hclaim, Prod.mk.injEq] at h
        exact .inl ⟨by simp [← h.1], by simp [← h.1], h.2.symm⟩
      · simp only [hclaim, Prod.mk.injEq] at h
        obtain ⟨rfl, rfl⟩ := h
        simp only [Database.eligible, Bool.and_eq_true] at heligible
        have hmove : Move now run.leaseRow .claim
            (run.claimed workerId (addSeconds now seconds) now).leaseRow :=
          .claim (claimable_of_guard heligible.2 hguard) rfl rfl
        exact .inr (.inl ⟨r, rfl, rfl, run, (·.claimed workerId (addSeconds now seconds) now), hrun,
          rfl, hattempt, hmove, hwrites.runs⟩)
  | heartbeatProcessingRun lease seconds now =>
    refine hleased rfl h fun db₁ hok => ?_
    obtain ⟨hlease, rfl⟩ := Database.heartbeatProcessingRun_ok hok
    refine writes_of_update (Database.renew seconds now) hlease rfl (fun _ => rfl) fun run hmatch => ?_
    exact .renew (leaseMatches_iff.mp hmatch) rfl rfl rfl
  | completePartitionProcessing lease now =>
    refine hleased rfl h fun db₁ hok => ?_
    obtain ⟨hlease, rfl⟩ := Database.completePartitionProcessing_ok hok
    refine writes_of_update (Database.succeed now) hlease rfl (fun _ => rfl) fun run hmatch => ?_
    exact .complete (leaseMatches_iff.mp hmatch) rfl rfl
  | completeEvidenceIndexing lease documentId activation now =>
    refine hleased rfl h fun db₁ hok => ?_
    obtain ⟨hlease, -, rfl⟩ := Database.completeEvidenceIndexing_ok hok
    refine writes_of_update (Database.succeed now) hlease rfl (fun _ => rfl) fun run hmatch => ?_
    exact .complete (leaseMatches_iff.mp hmatch) rfl rfl
  | beginStructuredImportApply lease documentId importBatchId now =>
    refine hleased rfl h fun db₁ hok => ?_
    obtain ⟨hlease, -, rfl⟩ := Database.beginStructuredImportApply_ok hok
    refine writes_of_update (Database.touch now) hlease rfl (fun _ => rfl) fun run hmatch => ?_
    exact .renew (leaseMatches_iff.mp hmatch) rfl rfl rfl
  | completeStructuredImport lease documentId importBatchId persistence partitions now =>
    refine hleased rfl h fun db₁ hok => ?_
    obtain ⟨hlease, -, -, keys, rfl⟩ := Database.completeStructuredImport_ok hok
    refine writes_of_update (Database.succeed now) hlease rfl (fun _ => rfl) fun run hmatch => ?_
    exact .complete (leaseMatches_iff.mp hmatch) rfl rfl
  | rejectStructuredImport lease documentId importBatchId now =>
    refine hleased rfl h fun db₁ hok => ?_
    obtain ⟨hlease, -, rfl⟩ := Database.rejectStructuredImport_ok hok
    refine writes_of_update (Database.rejectRun now) hlease rfl (fun _ => rfl) fun run hmatch => ?_
    exact .fail (leaseMatches_iff.mp hmatch) rfl rfl
  | finishJob lease input now =>
    refine hleased rfl h fun db₁ hok => ?_
    obtain ⟨hlease, rfl⟩ := Database.finishJob_ok hok
    refine writes_of_update (Database.touch now) hlease.leased rfl (fun _ => rfl) fun run hmatch => ?_
    exact .renew (leaseMatches_iff.mp hmatch) rfl rfl rfl
  | publishSourceAtomically lease input refused transition now =>
    refine hleased rfl h fun db₁ hok => ?_
    obtain ⟨hlease, job, partitions, garbage, queue, n, -, -, -, -, rfl, -⟩ :=
      Database.publishSourceAtomically_ok hok
    refine writes_of_update (Database.touch now) hlease.leased rfl (fun _ => rfl) fun run hmatch => ?_
    exact .renew (leaseMatches_iff.mp hmatch) rfl rfl rfl
  | failProcessingRun lease input now =>
    unfold perform at h
    dsimp only at h
    cases hfail : db.failProcessingRun lease input now with
    | mk error db₁ =>
      have hreply : (∀ r, reply ≠ .claimed r) ∧ db' = db₁ ∧ (error ≠ none → reply ≠ .done) := by
        cases error with
        | none =>
          simp only [hfail, Prod.mk.injEq] at h
          exact ⟨by simp [← h.1], h.2.symm, by simp⟩
        | some e =>
          simp only [hfail, Prod.mk.injEq] at h
          exact ⟨by simp [← h.1], h.2.symm, by simp [← h.1]⟩
      obtain ⟨hclaimed, rfl, hdone⟩ := hreply
      rcases Database.failProcessingRun_cases hdb hfail with ⟨herror, rfl⟩ |
        ⟨run, hrun, hmatch, hruns, -⟩ | ⟨hend, ⟨run, code, hrun, hmatch, -, hruns⟩, -⟩
      · exact .inl ⟨hdone herror, hclaimed, rfl⟩
      · refine .inr (.inr ⟨lease, rfl, hclaimed, by simp [Call.completes],
          writes_of_update (Database.failedRun input now) ⟨run, hrun, hmatch⟩ hruns (fun _ => rfl) fun run hmatch => ?_⟩)
        have hactive := leaseMatches_iff.mp hmatch
        simp only [Call.action, Call.now] at hactive ⊢
        by_cases hretry : input.willRetry = true
        · rw [if_pos hretry]
          exact .giveBack hactive (by simp [ProcessingRun.leaseRow, Database.failedRun, hretry,
            ProcessingRunStatus.phase]) rfl
        · rw [if_neg hretry]
          exact .fail hactive (by simp [ProcessingRun.leaseRow, Database.failedRun, hretry,
            ProcessingRunStatus.phase]) rfl
      · refine .inr (.inr ⟨lease, rfl, hclaimed, by simp [Call.completes], ⟨run, hrun, hmatch⟩, _,
          hruns, fun run => ⟨rfl, fun hmatch => ?_⟩⟩)
        have hactive := leaseMatches_iff.mp hmatch
        simp only [Call.action, Call.now] at hactive ⊢
        rw [hend, if_neg (by simp)]
        exact .fail hactive rfl rfl

lemma perform_stale (hdb : db.UniqueRuns) (hlease : call.lease = some lease)
    (hstale : ¬ db.Leased lease call.now) : (perform config db call).2 = db := by
  rcases perform_cases hdb rfl with ⟨-, -, h⟩ | ⟨r, -, h⟩ | ⟨lease', hlease', -, -, h⟩
  · exact h
  · have haction := h.action
    cases call with
    | claimNextProcessingRun seen workerId seconds now => cases hlease
    | failProcessingRun lease input now =>
      simp only [Call.action] at haction
      split_ifs at haction
    | _ => cases haction
  · rw [hlease] at hlease'
    cases hlease'
    exact absurd h.leased hstale

end

/-! ### Histories -/

/-- The calls, each with the reply it got. -/
def history (config : Option String) : Database → List Call → List (Call × Reply)
  | _, [] => []
  | db, call :: calls =>
    (call, (perform config db call).1) :: history config (perform config db call).2 calls

/-- The database after the calls. -/
def afterCalls (config : Option String) (db : Database) (calls : List Call) : Database :=
  run (fun db call => (perform config db call).2) db calls

/-- The attempts of the run that were handed to workers. -/
def runAttempts (runId : String) (entries : List (Call × Reply)) : List ℕ :=
  entries.filterMap fun (_, reply) =>
    match reply with
    | .claimed r => if r.id = runId then some r.attemptNumber else none
    | _ => none

/-- The successful completions of the run. -/
def runCompletions (runId : String) (entries : List (Call × Reply)) : List (Token String) :=
  entries.filterMap fun (call, reply) =>
    match call.lease with
    | some lease =>
      if lease.runId = runId ∧ call.completes = true ∧ reply = .done then some lease.token
      else none
    | none => none

section

variable {config : Option String} {db db' : Database} {reply : Reply} {runId : String}
  {run : ProcessingRun}

lemma runAttempts_cons (entry : Call × Reply) (entries : List (Call × Reply)) :
    runAttempts runId (entry :: entries) =
      runAttempts runId [entry] ++ runAttempts runId entries := by
  rw [runAttempts, runAttempts, runAttempts, ← List.filterMap_append]
  rfl

lemma runCompletions_cons (entry : Call × Reply) (entries : List (Call × Reply)) :
    runCompletions runId (entry :: entries) =
      runCompletions runId [entry] ++ runCompletions runId entries := by
  rw [runCompletions, runCompletions, runCompletions, ← List.filterMap_append]
  rfl

lemma action_of_completes (hlease : call.lease = some lease) :
    (call.completes = true → call.action = .complete lease.token) ∧
      (call.completes = false → ∀ token, call.action ≠ .complete token) ∧
      call.action ≠ .claim := by
  cases call with
  | failProcessingRun lease input now =>
    simp only [Call.completes, Call.action]
    refine ⟨by simp, fun _ token => ?_, ?_⟩ <;> split_ifs <;> simp
  | claimNextProcessingRun seen workerId seconds now => cases hlease
  | _ =>
    cases hlease
    simp [Call.completes, Call.action]

/-- **The simulation**: every call moves every run by a move of its fenced lease, and the move
records what the call was for. -/
theorem perform_move (hdb : db.UniqueRuns) (h : perform config db call = (reply, db'))
    (hrun : db.processingRuns.lookup runId = some run) :
    ∃ run' action, db'.processingRuns.lookup runId = some run' ∧
      run'.owner = run.owner ∧
      (action = .none ∨ action = call.action) ∧ Move call.now run.leaseRow action run'.leaseRow ∧
      claimedAttempts [(call.now, action, run'.leaseRow)] = runAttempts runId [(call, reply)] ∧
      completions [(call.now, action, run'.leaseRow)] = runCompletions runId [(call, reply)] := by
  rcases perform_cases hdb h with ⟨hdone, hnone, rfl⟩ | ⟨r, rfl, hclaims⟩ |
    ⟨lease, hlease, hnone, hcompletes, hwrites⟩
  · refine ⟨run, .none, hrun, rfl, .inl rfl, .none, ?_, ?_⟩
    · cases reply with
      | claimed r => exact absurd rfl (hnone r)
      | _ => simp [claimedAttempts, runAttempts]
    · cases hl : call.lease <;> simp [completions, runCompletions, hl, hdone]
  · obtain ⟨old, f, hold, howner, hattempt, hmove, hruns⟩ := hclaims.runs
    have hlease : call.lease = none := by
      have haction := hclaims.action
      cases hl : call.lease with
      | none => rfl
      | some lease => exact absurd haction (action_of_completes hl).2.2
    by_cases hid : r.id = runId
    · subst hid
      rw [hrun] at hold
      cases hold
      refine ⟨f run, .claim, by rw [hruns, Table.lookup_update, if_pos rfl, hrun]; rfl, howner,
        .inr hclaims.action.symm, hmove, ?_, ?_⟩
      · simp [claimedAttempts, runAttempts, hattempt, ProcessingRun.leaseRow]
      · simp [completions, runCompletions, hlease]
    · refine ⟨run, .none, ?_, rfl, .inl rfl, .none, ?_, ?_⟩
      · rw [hruns, Table.lookup_update, if_neg (Ne.symm hid), hrun]
      · simp [claimedAttempts, runAttempts, hid]
      · simp [completions, runCompletions, hlease]
  · obtain ⟨leasedRun, hleasedRun, hmatch⟩ := hwrites.leased
    obtain ⟨f, hruns, hf⟩ := hwrites.runs
    obtain ⟨hcomplete, hother, hclaim⟩ := action_of_completes hlease
    have hattempts : ∀ (row : LeaseRow String) (action : Action String), action ≠ .claim →
        claimedAttempts [(call.now, action, row)] = runAttempts runId [(call, reply)] := by
      intro row action haction
      cases reply with
      | claimed r => exact absurd rfl (hnone r)
      | _ => cases action <;> simp_all [claimedAttempts, runAttempts]
    by_cases hid : lease.runId = runId
    · subst hid
      rw [hrun] at hleasedRun
      cases hleasedRun
      refine ⟨f run, call.action, ?_, (hf run).1, .inr rfl, (hf run).2 hmatch,
        hattempts _ _ hclaim, ?_⟩
      · rw [hruns, Table.lookup_update, if_pos rfl, hrun]
        rfl
      · cases hc : call.completes with
        | true => simp [completions, runCompletions, hlease, hc, hcomplete hc, hcompletes hc]
        | false =>
          have := hother hc
          cases ha : call.action with
          | complete token => exact absurd ha (this token)
          | _ => simp [completions, runCompletions, hlease, hc]
    · refine ⟨run, .none, ?_, rfl, .inl rfl, .none, hattempts _ _ (by simp), ?_⟩
      · rw [hruns, Table.lookup_update, if_neg (Ne.symm hid), hrun]
      · simp [completions, runCompletions, hlease, hid]

lemma perform_lookup_none (hdb : db.UniqueRuns) (h : perform config db call = (reply, db'))
    (hrun : db.processingRuns.lookup runId = none) : db'.processingRuns.lookup runId = none := by
  rcases perform_cases hdb h with ⟨-, -, rfl⟩ | ⟨r, -, hclaims⟩ | ⟨lease, -, -, -, hwrites⟩
  · exact hrun
  · obtain ⟨old, f, hold, -, -, -, hruns⟩ := hclaims.runs
    rw [hruns, Table.lookup_update]
    split_ifs with hid
    · rw [hid, hold] at hrun
      cases hrun
    · exact hrun
  · obtain ⟨f, hruns, -⟩ := hwrites.runs
    rw [hruns, Table.lookup_update]
    split_ifs with hid
    · rw [← hid, hrun]
      rfl
    · exact hrun

lemma perform_unique (hdb : db.UniqueRuns) (h : perform config db call = (reply, db')) :
    db'.UniqueRuns := by
  have hback : ∀ id run', db'.processingRuns.lookup id = some run' →
      ∃ run, db.processingRuns.lookup id = some run ∧
        run'.owner = run.owner := by
    intro id run' hrun'
    cases hrun : db.processingRuns.lookup id with
    | none => simp [perform_lookup_none hdb h hrun] at hrun'
    | some run =>
      obtain ⟨run'', action, hrun'', howner, -⟩ := perform_move hdb h hrun
      rw [hrun''] at hrun'
      cases hrun'
      exact ⟨run, rfl, howner⟩
  intro id id' run run' hrun hrun' hclash
  obtain ⟨old, hold, hreq⟩ := hback id run hrun
  obtain ⟨old', hold', hreq'⟩ := hback id' run' hrun'
  exact hdb id id' old old' hold hold' (by rwa [← hreq, ← hreq'])

variable (config) in
lemma afterCalls_unique (hdb : db.UniqueRuns) (calls : List Call) :
    (afterCalls config db calls).UniqueRuns :=
  run_invariant' (fun _ _ h => perform_unique h rfl) calls hdb

variable (config) in
/-- Under any calls a run goes through a history of its fenced lease. -/
theorem history_moves (hdb : db.UniqueRuns) (hrun : db.processingRuns.lookup runId = some run)
    (calls : List Call) :
    ∃ moves run', (afterCalls config db calls).processingRuns.lookup runId = some run' ∧
      History run.leaseRow moves run'.leaseRow ∧ moves.map (·.1) = calls.map (·.now) ∧
      claimedAttempts moves = runAttempts runId (history config db calls) ∧
      completions moves = runCompletions runId (history config db calls) := by
  induction calls generalizing db run with
  | nil => exact ⟨[], run, hrun, .nil _, rfl, rfl, rfl⟩
  | cons call calls ih =>
    cases hperform : perform config db call with
    | mk reply db₁ =>
      obtain ⟨run₁, action, hrun₁, -, -, hmove, hattempts, hcompletions⟩ :=
        perform_move hdb hperform hrun
      obtain ⟨moves, run', hrun', hhistory, htimes, hclaims, hdone⟩ :=
        ih (perform_unique hdb hperform) hrun₁
      refine ⟨(call.now, action, run₁.leaseRow) :: moves, run', ?_, .cons hmove hhistory, ?_, ?_, ?_⟩
      · rw [afterCalls, run_cons, ← afterCalls, hperform]
        exact hrun'
      · rw [List.map_cons, List.map_cons, htimes]
      · rw [history, hperform, claimedAttempts_cons, runAttempts_cons, hattempts, hclaims]
      · rw [history, hperform, completions_cons, runCompletions_cons, hcompletions, hdone]

lemma afterCalls_append (calls calls' : List Call) :
    afterCalls config db (calls ++ calls') =
      afterCalls config (afterCalls config db calls) calls' :=
  run_append db calls calls'

lemma perform_fenced (hdb : db.UniqueRuns) (hrun : db.processingRuns.lookup runId = some run)
    (before : List Call) (call : Call)
    (hne : (perform config (afterCalls config db before) call).2.processingRuns.lookup runId ≠
      (afterCalls config db before).processingRuns.lookup runId) :
    call.lease = none ∨ ∃ lease, call.lease = some lease ∧ lease.runId = runId ∧
      (afterCalls config db before).Leased lease call.now ∧
      ∀ attempt ∈ runAttempts runId (history config db before), attempt ≤ lease.attemptNumber := by
  cases hlease : call.lease with
  | none => exact .inl rfl
  | some lease =>
    right
    have hunique := afterCalls_unique config hdb before
    have hleased : (afterCalls config db before).Leased lease call.now := by
      by_contra hstale
      exact hne (by rw [perform_stale hunique hlease hstale])
    have hid : lease.runId = runId := by
      by_contra hid
      cases hperform : perform config (afterCalls config db before) call with
      | mk reply db' =>
        rw [hperform] at hne
        rcases perform_cases hunique hperform with ⟨-, -, h⟩ | ⟨r, -, hclaims⟩ |
          ⟨lease', hlease', -, -, hwrites⟩
        · exact hne (by rw [h])
        · exact (action_of_completes hlease).2.2 hclaims.action
        · rw [hlease] at hlease'
          cases hlease'
          obtain ⟨f, hruns, -⟩ := hwrites.runs
          exact hne (by rw [hruns, Table.lookup_update, if_neg (Ne.symm hid)])
    refine ⟨lease, rfl, hid, hleased, fun attempt hattempt => ?_⟩
    obtain ⟨moves, run', hrun', hhistory, -, hclaims, -⟩ :=
      history_moves config hdb hrun before
    obtain ⟨leasedRun, hleasedRun, hmatch⟩ := hleased
    rw [hid, hrun'] at hleasedRun
    cases hleasedRun
    have hlatest : run'.attemptNumber = lease.attemptNumber := (leaseMatches_iff.mp hmatch).attempt
    obtain ⟨hle, hrange⟩ := hhistory.claimedAttempts_eq
    rw [← hclaims, hrange, List.mem_range'_1] at hattempt
    simp only [ProcessingRun.leaseRow] at hattempt hle
    omega

lemma stays_stale (hdb : db.UniqueRuns) (hrun : db.processingRuns.lookup runId = some run)
    {before middle : List Call} {call' : Call} (hid : lease.runId = runId)
    (htimes : ((call :: middle ++ [call']).map (·.now)).Pairwise (· ≤ ·))
    (hissued : lease.attemptNumber ∈ runAttempts runId (history config db before))
    (hstale : ¬ (afterCalls config db before).Leased lease call.now) :
    ¬ (afterCalls config db (before ++ call :: middle)).Leased lease call'.now := by
  obtain ⟨moves, run₁, hrun₁, hhistory, -, hclaims, -⟩ :=
    history_moves config hdb hrun before
  obtain ⟨moves', run₂, hrun₂, hhistory', hnow, -, -⟩ :=
    history_moves config (afterCalls_unique config hdb before) hrun₁ (call :: middle)
  rw [← afterCalls_append] at hrun₂
  have hle : lease.token.attempt ≤ run₁.leaseRow.attempt := by
    obtain ⟨hle, hrange⟩ := hhistory.claimedAttempts_eq
    rw [← hclaims, hrange, List.mem_range'_1] at hissued
    simp only [ProcessingRun.leaseRow, Lease.token] at hissued hle ⊢
    omega
  have hlost : ¬ Active run₁.leaseRow lease.token call.now := fun hactive =>
    hstale ⟨run₁, by rw [hid]; exact hrun₁, leaseMatches_iff.mpr hactive⟩
  rintro ⟨run, hrun, hmatch⟩
  rw [hid, hrun₂] at hrun
  cases hrun
  refine hhistory'.not_active hle hlost ?_ (leaseMatches_iff.mp hmatch)
  rw [hnow]
  simp only [List.map_cons, List.map_append, List.map_nil, List.cons_append] at htimes ⊢
  rw [List.pairwise_cons]
  exact ⟨fun t ht => by
    rcases List.mem_cons.mp ht with rfl | ht
    · exact Nat.le_refl _
    · exact (List.pairwise_cons.mp htimes).1 t ht, htimes⟩

variable (config) in
/-- **Lease fencing**: under any calls of any workers, in the order of their times, the attempts
of a run increase from claim to claim; at most one attempt completes it; every write to it is a
claim, or is made for the latest attempt while its lease is active; a call with a lease that is
not active changes nothing in the database, and such a lease never becomes active again. -/
theorem lease_fencing (hdb : db.UniqueRuns)
    (hrun : db.processingRuns.lookup runId = some run) (calls : List Call)
    (htimes : (calls.map (·.now)).Pairwise (· ≤ ·)) :
    (run.attemptNumber :: runAttempts runId (history config db calls)).Pairwise (· < ·) ∧
    (runCompletions runId (history config db calls)).length ≤ 1 ∧
    (∀ before call after, calls = before ++ call :: after →
      ((perform config (afterCalls config db before) call).2.processingRuns.lookup runId ≠
          (afterCalls config db before).processingRuns.lookup runId →
        call.lease = none ∨ ∃ lease, call.lease = some lease ∧ lease.runId = runId ∧
          (afterCalls config db before).Leased lease call.now ∧
          ∀ attempt ∈ runAttempts runId (history config db before),
            attempt ≤ lease.attemptNumber) ∧
      ∀ lease, call.lease = some lease → ¬ (afterCalls config db before).Leased lease call.now →
        (perform config (afterCalls config db before) call).2 = afterCalls config db before) ∧
    ∀ before call middle call' after lease, calls = before ++ call :: (middle ++ call' :: after) →
      lease.runId = runId → lease.attemptNumber ∈ runAttempts runId (history config db before) →
      ¬ (afterCalls config db before).Leased lease call.now →
      ¬ (afterCalls config db (before ++ call :: middle)).Leased lease call'.now := by
  obtain ⟨moves, run', hrun', hhistory, -, hclaims, hdone⟩ :=
    history_moves config hdb hrun calls
  refine ⟨?_, ?_, ?_, ?_⟩
  · rw [List.pairwise_cons, ← hclaims]
    refine ⟨fun attempt hattempt => ?_, hhistory.claimedAttempts_sorted⟩
    rw [hhistory.claimedAttempts_eq.2, List.mem_range'_1] at hattempt
    exact hattempt.1
  · rw [← hdone]
    exact hhistory.completions_le_one
  · rintro before call after rfl
    exact ⟨perform_fenced hdb hrun before call,
      fun lease hlease hstale => perform_stale (afterCalls_unique config hdb before) hlease hstale⟩
  · rintro before call middle call' after lease rfl hid hissued hstale
    refine stays_stale hdb hrun hid ?_ hissued hstale
    rw [List.map_append, List.pairwise_append] at htimes
    refine htimes.2.1.sublist (List.Sublist.map _ ?_)
    simp

end

section Example

/-- A queued import of a job. -/
def queuedImport : Database where
  processingRuns := (∅ : Table String ProcessingRun).insert "run"
    { orgId := "org", jobKey := "key", jobType := .structuredPartitionImport
      partitionImportJobId := some "job", availableAt := 0, createdAt := 0 }
  partitionImportJobs := (∅ : Table String PartitionImportJob).insert "job"
    { orgId := "org", uploaderId := "emp", dataset := .dishes, enterpriseKey := "e"
      enterpriseName := "E", confidentialityLevel := 0, idempotencyKey := "k"
      requestFingerprint := "f", sourceChecksumSha256 := "c", sourceStartDate := "2026-01-01"
      sourceEndDate := "2026-01-01", temporaryObjectKey := some (.staging "org" "job")
      multipartUploadId := none, status := .queued, expiresAt := 9999 }

lemma queuedImport_unique : queuedImport.UniqueRuns := by
  intro id id' run run' hrun hrun' _
  simp only [queuedImport, Table.lookup_insert'] at hrun hrun'
  split_ifs at hrun with hid
  · split_ifs at hrun' with hid'
    · rw [hid, hid']
    · cases hrun'
  · cases hrun

/-- A worker claims, its lease runs out, another claims, and the first fails to complete. -/
def twoWorkers : List Call :=
  let db := afterCalls none queuedImport [.claimNextProcessingRun queuedImport "w1" 1 0]
  [.claimNextProcessingRun queuedImport "w1" 1 0, .claimNextProcessingRun db "w2" 1 2000,
    .completePartitionProcessing ⟨"run", "w1", 1⟩ 2100,
    .completePartitionProcessing ⟨"run", "w2", 2⟩ 2200]

/-- Two attempts, the second completed. -/
theorem lease_fencing_two_workers :
    runAttempts "run" (history none queuedImport twoWorkers) = [1, 2] ∧
      runCompletions "run" (history none queuedImport twoWorkers) = [⟨"w2", 2⟩] ∧
      (0 :: runAttempts "run" (history none queuedImport twoWorkers)).Pairwise (· < ·) ∧
      (runCompletions "run" (history none queuedImport twoWorkers)).length ≤ 1 :=
  have hrun : queuedImport.processingRuns.lookup "run" = some _ := rfl
  have h := lease_fencing none queuedImport_unique hrun twoWorkers (by decide)
  ⟨by decide +kernel, by decide +kernel, h.1, h.2.1⟩

end Example

end SmeDataCenter
