import SmeDataCenter.LeaseFencing

/-!
# The attempts of a run

A worker that catches an error asks for another attempt only before the last one allowed. A
claim asks nothing of the kind: it takes a run over from an attempt whose lease has run out
whatever the number of the attempt. So the number of attempts is bounded exactly when every
takeover finds an attempt before the last one allowed.
-/

namespace SmeDataCenter

open Runs FencedLease

structure WorkerOptions where
  maxAttempts : ℕ := 3
  retryBaseMs : ℕ
  retryMaxMs : ℕ

/-- What `toProcessingError` makes of an error. -/
structure ProcessingError where
  code : String
  summary : String
  retryable : Bool

def leaseLostCode : String := "PROCESSING_LEASE_LOST"

def retryDelayMs (attemptNumber retryBaseMs retryMaxMs : ℕ) : ℕ :=
  min (retryBaseMs * 2 ^ (attemptNumber - 1)) retryMaxMs

def willRetry (options : WorkerOptions) (run : ClaimedProcessingRun) (error : ProcessingError) :
    Bool :=
  error.retryable && run.attemptNumber < options.maxAttempts

/-- How `runWorkerOnce` ends an attempt that threw. An attempt whose lease is lost ends
silently. -/
def failureCall (options : WorkerOptions) (run : ClaimedProcessingRun) (workerId : String)
    (error : ProcessingError) (failedAt : ℕ) : Option Call :=
  if error.code = leaseLostCode then none
  else
    some (.failProcessingRun ⟨run.id, workerId, run.attemptNumber⟩
      { documentId := run.documentId, errorCode := error.code, errorSummary := error.summary
        willRetry := willRetry options run error
        nextAvailableAt := if willRetry options run error then
          failedAt + retryDelayMs run.attemptNumber options.retryBaseMs options.retryMaxMs
        else failedAt } failedAt)

def Call.isFailure : Call → Bool
  | .failProcessingRun .. => true
  | _ => false

/-- What befalls a worker. -/
inductive WorkerEvent where
  /-- It makes a call other than one for a failed attempt. -/
  | called (call : Call) (h : call.isFailure = false)
  /-- The attempt throws. -/
  | threw (run : ClaimedProcessingRun) (workerId : String) (error : ProcessingError)
      (failedAt : ℕ)
  /-- It dies, with no word to the database. -/
  | crashed (workerId : String)

def WorkerEvent.call (options : WorkerOptions) : WorkerEvent → Option Call
  | called call _ => some call
  | threw run workerId error failedAt => failureCall options run workerId error failedAt
  | crashed _ => none

/-- The calls that the database sees of the events. -/
def callsOf (options : WorkerOptions) (events : List WorkerEvent) : List Call :=
  events.filterMap (·.call options)

/-- The claim takes the run over from an attempt whose lease has run out. -/
def TakesOver (config : Option String) (runId : String) (db : Database) (call : Call)
    (row : ProcessingRun) : Prop :=
  (∃ claimed, (perform config db call).1 = .claimed claimed ∧ claimed.id = runId) ∧
    db.processingRuns.lookup runId = some row ∧ row.status = .running

/-- A takeover of the run finds an attempt below the bound. -/
def TakesOverBelow (config : Option String) (runId : String) (bound : ℕ) (db : Database)
    (call : Call) : Prop :=
  ∀ row, TakesOver config runId db call row → row.attemptNumber < bound

section

variable {config : Option String} {options : WorkerOptions} {db : Database} {runId : String}
  {run : ProcessingRun} {bound : ℕ}

lemma giveBack_lt {event : WorkerEvent} {call : Call} {token : Token String}
    (hcall : event.call options = some call) (hback : call.action = .giveBack token) :
    token.attempt < options.maxAttempts := by
  cases event with
  | called c h =>
    cases hcall
    cases call with
    | failProcessingRun lease input now => cases h
    | _ => cases hback
  | threw run workerId error failedAt =>
    simp only [WorkerEvent.call, failureCall] at hcall
    split at hcall
    · cases hcall
    cases hcall
    simp only [Call.action] at hback
    have hretry : willRetry options run error = true := by
      by_contra hretry
      rw [if_neg hretry] at hback
      cases hback
    rw [if_pos hretry] at hback
    simp only [willRetry, Bool.and_eq_true, decide_eq_true_eq] at hretry
    cases hback
    exact hretry.2
  | crashed workerId => cases hcall

lemma mem_callsOf {events : List WorkerEvent} {call : Call} (h : call ∈ callsOf options events) :
    ∃ event : WorkerEvent, event.call options = some call := by
  obtain ⟨event, -, hcall⟩ := List.mem_filterMap.mp h
  exact ⟨event, hcall⟩

variable (config) in
lemma length_runAttempts (hdb : db.UniqueRuns)
    (hrun : db.processingRuns.lookup runId = some run) (calls : List Call) :
    ∃ run', (afterCalls config db calls).processingRuns.lookup runId = some run' ∧
      run.attemptNumber + (runAttempts runId (history config db calls)).length =
        run'.attemptNumber := by
  obtain ⟨moves, run', hrun', hhistory, -, hclaims, -⟩ := history_moves config hdb hrun calls
  obtain ⟨hle, hrange⟩ := hhistory.claimedAttempts_eq
  refine ⟨run', hrun', ?_⟩
  rw [← hclaims, hrange, List.length_range']
  simp only [ProcessingRun.leaseRow] at hle ⊢
  omega

/-- One call keeps the run within a bound at which it is not given back, when it is not taken
over at it. -/
lemma perform_capped (hdb : db.UniqueRuns)
    (hrun : db.processingRuns.lookup runId = some run) (hcap : Move.Capped bound run.leaseRow)
    {call : Call} (hback : ∀ token, call.action = .giveBack token → token.attempt < bound)
    (hover : TakesOverBelow config runId bound db call) :
    ∃ run', (perform config db call).2.processingRuns.lookup runId = some run' ∧
      Move.Capped bound run'.leaseRow := by
  cases hperform : perform config db call with
  | mk reply db' =>
    obtain ⟨run', action, hrun', -, haction, hmove, hclaims, -⟩ := perform_move hdb hperform hrun
    refine ⟨run', hrun', hmove.capped hcap (fun token hgive => ?_) fun hclaim hphase => ?_⟩
    · rcases haction with rfl | rfl
      · cases hgive
      · exact hback token hgive
    · have hclaimed : ∃ claimed, reply = .claimed claimed ∧ claimed.id = runId := by
        subst hclaim
        cases reply with
        | claimed r =>
          by_cases hid : r.id = runId
          · exact ⟨r, rfl, hid⟩
          · simp [claimedAttempts, runAttempts, hid] at hclaims
        | _ => simp [claimedAttempts, runAttempts] at hclaims
      exact hover run ⟨by rwa [hperform], hrun, phase_eq_running.mp hphase⟩

lemma afterCalls_capped (hdb : db.UniqueRuns)
    (hrun : db.processingRuns.lookup runId = some run) (hcap : Move.Capped bound run.leaseRow)
    {calls : List Call}
    (hback : ∀ call ∈ calls, ∀ token, call.action = .giveBack token → token.attempt < bound)
    (hover : Along (fun db call => (perform config db call).2) (TakesOverBelow config runId bound)
      db calls) :
    ∃ run', (afterCalls config db calls).processingRuns.lookup runId = some run' ∧
      Move.Capped bound run'.leaseRow := by
  induction calls generalizing db run with
  | nil => exact ⟨run, hrun, hcap⟩
  | cons call calls ih =>
    obtain ⟨run₁, hrun₁, hcap₁⟩ :=
      perform_capped hdb hrun hcap (hback call List.mem_cons_self) hover.1
    exact ih (perform_unique hdb rfl) hrun₁ hcap₁
      (fun c hc => hback c (List.mem_cons_of_mem _ hc)) hover.2

variable (config options) in
/-- **The attempts of a run**: a run is claimed at most `maxAttempts` times,
whatever befalls the workers, if and only if every claim that takes it over from an expired
lease finds fewer than `maxAttempts` attempts made. -/
theorem claims_le_maxAttempts_iff (hdb : db.UniqueRuns)
    (hrun : db.processingRuns.lookup runId = some run) (hmax : 0 < options.maxAttempts)
    (events : List WorkerEvent) :
    (runAttempts runId (history config db (callsOf options events))).length ≤
        options.maxAttempts ↔
      Along (fun db call => (perform config db call).2)
        (TakesOverBelow config runId (run.attemptNumber + options.maxAttempts)) db
        (callsOf options events) := by
  obtain ⟨last, hlast, hcount⟩ := length_runAttempts config hdb hrun
    (callsOf options events)
  constructor
  · intro hle
    rw [along_iff]
    rintro before call after heq row ⟨⟨claimed, hclaimed, hid⟩, hrow, hstatus⟩
    -- the takeover starts one more attempt, and attempts never go down
    obtain ⟨last', hlast', hcount'⟩ := length_runAttempts config
      (afterCalls_unique config hdb before) hrow (call :: after)
    rw [← afterCalls_append, ← heq, hlast] at hlast'
    cases hlast'
    have hone : 1 ≤ (runAttempts runId
        (history config (afterCalls config db before) (call :: after))).length := by
      rw [history, runAttempts_cons, List.length_append]
      have hfirst : runAttempts runId
          [(call, (perform config (afterCalls config db before) call).1)] =
          [claimed.attemptNumber] := by
        rw [show (perform config (afterCalls config db before) call).1 = _ from hclaimed]
        simp [runAttempts, hid]
      rw [hfirst, List.length_singleton]
      omega
    omega
  · intro halong
    have hcap : Move.Capped (run.attemptNumber + options.maxAttempts) run.leaseRow := by
      refine ⟨?_, fun _ => ?_⟩
      · simp only [ProcessingRun.leaseRow]
        omega
      · simp only [ProcessingRun.leaseRow]
        omega
    obtain ⟨last', hlast', hle, -⟩ := afterCalls_capped hdb hrun hcap (fun call hcall token hback => by
      obtain ⟨event, hevent⟩ := mem_callsOf hcall
      have := giveBack_lt hevent hback
      omega) halong
    rw [hlast] at hlast'
    cases hlast'
    simp only [ProcessingRun.leaseRow] at hle
    omega

end

section Example

/-- Every worker that claims the run dies, and the next claim comes after its lease. -/
def dyingWorkers : List WorkerEvent :=
  let claim (calls : List Call) (workerId : String) (now : ℕ) : Call :=
    .claimNextProcessingRun (afterCalls none queuedImport calls) workerId 1 now
  let first := claim [] "w1" 0
  let second := claim [first] "w2" 2000
  let third := claim [first, second] "w3" 4000
  let fourth := claim [first, second, third] "w4" 6000
  [.called first rfl, .crashed "w1", .called second rfl, .crashed "w2", .called third rfl,
    .crashed "w3", .called fourth rfl]

/-- With three attempts allowed, the run is claimed a fourth time. -/
theorem dying_workers_claim_again :
    ¬ (runAttempts "run" (history none queuedImport
      (callsOf ⟨3, 1000, 60000⟩ dyingWorkers))).length ≤ 3 := by
  decide +kernel

/-- With four attempts allowed, the four claims are within the bound, for no takeover finds four
attempts made. -/
theorem claims_le_maxAttempts_dying_workers :
    Along (fun db call => (perform none db call).2) (TakesOverBelow none "run" 4) queuedImport
      (callsOf ⟨4, 1000, 60000⟩ dyingWorkers) :=
  have hrun : queuedImport.processingRuns.lookup "run" = some _ := rfl
  (claims_le_maxAttempts_iff none ⟨4, 1000, 60000⟩ queuedImport_unique hrun (by decide)
    dyingWorkers).mp (by decide +kernel)

end Example

end SmeDataCenter
