import SmeDataCenter.OperationWrites

/-!
# What the operations do to the runs

Every operation rewrites runs that are there, which keep their owner and never come back to life,
creates runs of the job types it is for, or deletes runs of partition imports. So the unique
columns stay unique and every run has the owner of its job type.
-/

namespace SmeDataCenter

open Runs FencedLease
open Table (Keeps)

namespace Database

/-- The runs of `db'` are those of `db`, with their owners and none of them come back to life,
and new ones whose owners meet `new`; only runs of partition imports are gone. -/
structure RunsMove (new : RunOwner → Prop) (db db' : Database) : Prop where
  back : ∀ id run', db'.processingRuns.lookup id = some run' →
    (∃ run, db.processingRuns.lookup id = some run ∧ run'.owner = run.owner ∧
      (run'.status.isLive = true → run.status.isLive = true)) ∨ new run'.owner
  forth : ∀ id run, db.processingRuns.lookup id = some run → run.partitionImportJobId = none →
    ∃ run', db'.processingRuns.lookup id = some run' ∧ run'.owner = run.owner
  unique : db.UniqueRuns → db'.UniqueRuns

section

variable {new new' : RunOwner → Prop} {db db' db'' : Database} {id : String} {run : ProcessingRun}

lemma UniqueRuns.of_back (h : db.UniqueRuns)
    (hback : ∀ id run', db'.processingRuns.lookup id = some run' →
      ∃ run, db.processingRuns.lookup id = some run ∧ run'.owner = run.owner) :
    db'.UniqueRuns := by
  intro id id' run run' hrun hrun' hclash
  obtain ⟨old, hold, howner⟩ := hback id run hrun
  obtain ⟨old', hold', howner'⟩ := hback id' run' hrun'
  exact h id id' old old' hold hold' (by rwa [← howner, ← howner'])

variable {f : ProcessingRun → ProcessingRun}

namespace RunsMove

lemma of_kept
    (hback : ∀ id run', db'.processingRuns.lookup id = some run' →
      ∃ run, db.processingRuns.lookup id = some run ∧ run'.owner = run.owner ∧
        (run'.status.isLive = true → run.status.isLive = true))
    (hforth : ∀ id run, db.processingRuns.lookup id = some run → run.partitionImportJobId = none →
      ∃ run', db'.processingRuns.lookup id = some run' ∧ run'.owner = run.owner) :
    RunsMove new db db' :=
  ⟨fun id run' h => .inl (hback id run' h), hforth, fun h => h.of_back fun id run' hrun' => by
    obtain ⟨run, hrun, howner, -⟩ := hback id run' hrun'
    exact ⟨run, hrun, howner⟩⟩

lemma of_eq (h : db'.processingRuns = db.processingRuns) : RunsMove new db db' :=
  of_kept (fun _ run' hrun' => ⟨run', h ▸ hrun', rfl, fun hl => hl⟩)
    fun _ run hrun _ => ⟨run, h ▸ hrun, rfl⟩

lemma refl (new : RunOwner → Prop) (db : Database) : RunsMove new db db := of_eq rfl

lemma trans (h : RunsMove new db db') (h' : RunsMove new db' db'') : RunsMove new db db'' := by
  refine ⟨fun id run'' hrun'' => ?_, fun id run hrun hjob => ?_, fun hu => h'.unique (h.unique hu)⟩
  · rcases h'.back id run'' hrun'' with ⟨run', hrun', howner', hlive'⟩ | hnew
    · rcases h.back id run' hrun' with ⟨run, hrun, howner, hlive⟩ | hnew
      · exact .inl ⟨run, hrun, howner'.trans howner, fun hl => hlive (hlive' hl)⟩
      · exact .inr (howner' ▸ hnew)
    · exact .inr hnew
  · obtain ⟨run', hrun', howner'⟩ := h.forth id run hrun hjob
    have hjob' : run'.partitionImportJobId = none :=
      (congrArg RunOwner.partitionImportJobId howner').trans hjob
    obtain ⟨run'', hrun'', howner''⟩ := h'.forth id run' hrun' hjob'
    exact ⟨run'', hrun'', howner''.trans howner'⟩

lemma of_runs_eq (h : RunsMove new db' db'') (heq : db'.processingRuns = db.processingRuns) :
    RunsMove new db db'' := (of_eq heq).trans h

lemma of_updateMany {p : String → ProcessingRun → Bool}
    (hruns : ∀ k, db'.processingRuns.lookup k = (db.processingRuns.updateMany p f).lookup k)
    (howner : ∀ run, (f run).owner = run.owner)
    (hlive : ∀ k run, db.processingRuns.lookup k = some run → p k run = true →
      (f run).status.isLive = true → run.status.isLive = true) : RunsMove new db db' := by
  refine of_kept (fun k run' hrun' => ?_) fun k run hrun _ => ?_
  · rw [hruns, Table.lookup_updateMany, Option.map_eq_some_iff] at hrun'
    obtain ⟨run, hrun, rfl⟩ := hrun'
    refine ⟨run, hrun, ?_⟩
    split_ifs with hp
    · exact ⟨howner run, hlive k run hrun hp⟩
    · exact ⟨rfl, fun hl => hl⟩
  · rw [hruns, Table.lookup_updateMany, hrun, Option.map_some]
    refine ⟨_, rfl, ?_⟩
    split_ifs
    · exact howner run
    · rfl

lemma of_update (hruns : db'.processingRuns = db.processingRuns.update id f)
    (howner : ∀ run, (f run).owner = run.owner)
    (hlive : ∀ run, db.processingRuns.lookup id = some run →
      (f run).status.isLive = true → run.status.isLive = true) : RunsMove new db db' := by
  refine of_updateMany (p := fun k _ => decide (k = id)) (fun k => by rw [hruns]; rfl) howner ?_
  intro k run hrun hk hl
  obtain rfl : k = id := by simpa using hk
  exact hlive run hrun hl

end RunsMove

/-! ### Created runs -/

lemma clash_symm (a b : RunOwner) : a.clash b = b.clash a := by
  have hsame : ∀ x y : Option String, sameId x y = sameId y x := by
    intro x y
    unfold sameId
    cases x <;> cases y <;> simp [eq_comm]
  unfold RunOwner.clash
  simp only [hsame a.partitionImportJobId, hsame a.partitionDownloadRequestId,
    hsame a.ledgerArtifactRequestItemId, hsame a.ledgerArtifactRequestId,
    hsame a.ledgerPdfReconciliationRunId, eq_comm (a := a.jobKey)]

lemma runsMove_createRun (h : db.createRun id run = .ok db') (hnew : new run.owner) :
    RunsMove new db db' := by
  obtain ⟨hfresh, hapart, runs, rfl, hlookup⟩ := createRun_ok h
  refine ⟨fun k run' hrun' => ?_, fun k old hold _ => ?_, fun hu => ?_⟩
  · dsimp only at hrun'
    rw [hlookup] at hrun'
    split_ifs at hrun'
    · cases hrun'
      exact .inr hnew
    · exact .inl ⟨run', hrun', rfl, fun hl => hl⟩
  · refine ⟨old, ?_, rfl⟩
    dsimp only
    rw [hlookup, if_neg]
    · exact hold
    · rintro rfl
      rw [hfresh] at hold
      cases hold
  · intro k k' r r' hr hr' hclash
    dsimp only at hr hr'
    rw [hlookup] at hr hr'
    split_ifs at hr with hk
    · split_ifs at hr' with hk'
      · rw [hk, hk']
      · cases hr
        rw [clash_symm, hapart k' r' hr'] at hclash
        cases hclash
    · split_ifs at hr' with hk'
      · cases hr'
        rw [hapart k r hr] at hclash
        cases hclash
      · exact hu k k' r r' hr hr' hclash

/-! ### Calls -/

lemma isLive_iff {status : ProcessingRunStatus} :
    status.isLive = true ↔ ¬ (status.phase = .completed ∨ status.phase = .failed) := by
  cases status <;> simp [ProcessingRunStatus.isLive, ProcessingRunStatus.phase]

lemma isLive_of_leaseMatches {lease : Lease} {now : ℕ} (h : leaseMatches lease now run = true) :
    run.status.isLive = true := by
  simp only [leaseMatches, Bool.and_eq_true, decide_eq_true_eq] at h
  rw [h.1.1.1]
  rfl

lemma runsMove_perform {config : Option String} {call : Call} (hdb : db.UniqueRuns) :
    RunsMove new db (perform config db call).2 := by
  cases hperform : perform config db call with
  | mk reply db' =>
    refine RunsMove.of_kept (fun id run' hrun' => ?_) fun id run hrun _ => ?_
    · cases hrun : db.processingRuns.lookup id with
      | none =>
        have := perform_lookup_none hdb hperform hrun
        rw [this] at hrun'
        cases hrun'
      | some run =>
        obtain ⟨run'', action, hrun'', howner, -, hmove, -⟩ := perform_move hdb hperform hrun
        rw [hrun''] at hrun'
        cases hrun'
        refine ⟨run, rfl, howner, fun hlive => ?_⟩
        rw [isLive_iff] at hlive ⊢
        intro hover
        have heq := (hmove.eq_of_over hover).2
        have hphase : run'.status.phase = run.status.phase := congrArg LeaseRow.phase heq
        exact hlive (hphase ▸ hover)
    · obtain ⟨run', action, hrun', howner, -⟩ := perform_move hdb hperform hrun
      exact ⟨run', hrun', howner⟩

/-! ### Operations -/

lemma runsMove_deleteTerminalJobs (before limit : ℕ) :
    RunsMove new db (db.deleteTerminalJobs before limit) := by
  refine .of_kept (fun k run' hrun' => ?_) fun k run hrun hjob => ?_
  · dsimp only [deleteTerminalJobs] at hrun'
    rw [Table.lookup_deleteMany, Option.filter_eq_some_iff] at hrun'
    exact ⟨run', hrun'.1, rfl, fun hl => hl⟩
  · refine ⟨run, ?_, rfl⟩
    dsimp only [deleteTerminalJobs]
    rw [Table.lookup_deleteMany, hrun]
    simp [hjob, Option.filter_some]

lemma runsMove_terminate (requestId : String) (row : PartitionDownloadRequest)
    (status : PartitionDownloadStatus) (code : String) (now : ℕ) :
    RunsMove new db (db.terminate requestId row status code now) := by
  obtain ⟨downloads, queue, n, hterminate⟩ := db.terminate_eq now requestId row status code
  refine .of_updateMany (f := terminatedRun code now) (fun k => by rw [hterminate])
    (fun _ => rfl) fun k run _ _ hlive => ?_
  cases hlive

lemma runsMove_leased {lease : Lease} {now : ℕ} (hleased : db.Leased lease now)
    (hruns : db'.processingRuns = db.processingRuns.update lease.runId f)
    (howner : ∀ run, (f run).owner = run.owner) : RunsMove new db db' := by
  obtain ⟨run, hrun, hmatch⟩ := hleased
  refine .of_update hruns howner fun run' hrun' _ => ?_
  rw [hrun] at hrun'
  cases hrun'
  exact isLive_of_leaseMatches hmatch

/-- Every write beside the calls moves the runs so. -/
lemma runsMove_ofRequests (new : RunOwner → Prop) (paged : String → Prop) :
    OfRequests new paged (RunsMove new) where
  refl := .refl new
  trans := .trans
  beside hruns _ := .of_eq hruns
  created hnew hrun := runsMove_createRun hrun hnew
  leased hleased hruns howner _ := runsMove_leased hleased hruns howner
  terminated _ := runsMove_terminate
  deleted _ := runsMove_deleteTerminalJobs
  changed db keys := by
    obtain ⟨partitions, heq, -⟩ := db.markLedgerPartitionsChanged_eq keys
    exact .of_eq (by rw [heq])
  locked db key := by
    obtain ⟨partitions, heq, -⟩ := db.lockPartition_eq key
    exact .of_eq (by rw [heq])
  requested db key := by
    obtain ⟨partitions, heq, -⟩ := db.requestGeneration_eq key
    exact .of_eq (by rw [heq])
  request _ h := by
    obtain ⟨requests, -, rfl⟩ := createRequest_ok h
    exact .of_eq rfl
  item hnew h := by
    obtain ⟨partition, item, items, -, -, -, -, hrun⟩ := enqueuePartition_ok h
    exact .of_runs_eq (runsMove_createRun hrun (hnew _)) rfl
  page _ _ _ := .of_eq rfl

end

variable {config : Option String} {db db' : Database}

lemma EndsGeneration.runsMove {new : RunOwner → Prop} {input : PublishLedgerPdfInput}
    {itemId : String} {superseded : Bool} {finishedAt now : ℕ}
    (h : db.EndsGeneration input itemId superseded finishedAt db')
    (hleased : db.Leased input.leaseToken now) : RunsMove new db db' := by
  obtain ⟨requests, -, rfl⟩ := h
  exact runsMove_leased hleased rfl fun _ => rfl

lemma publishPartition_eq {input : PublishLedgerPdfInput} {partition : LedgerPdfPartition}
    {sourcesCurrent : Bool} {refused : Option String} {productLevel : Option ℕ} {now : ℕ}
    (h : db.publishPartition input partition sourcesCurrent refused productLevel now = .ok db') :
    ∃ queue n, db' = { db with
      ledgerPdfPartitions := db.ledgerPdfPartitions.update input.partitionId
        (publishedPartition input productLevel now)
      storageGarbage := queue
      nextGarbageId := n } := by
  obtain ⟨-, db₁, htake, rfl⟩ := publishPartition_ok h
  obtain ⟨queue, n, hreplaced⟩ := db.enqueueReplaced_eq partition input.candidate now
  rw [hreplaced] at htake
  rcases takeCandidate_ok htake with ⟨-, rfl⟩ | ⟨c, garbage, -, -, -, rfl⟩
  · exact ⟨_, _, rfl⟩
  · exact ⟨_, _, rfl⟩

lemma runsMove_ledgerObjectStep (op : LedgerObjectOperation) :
    RunsMove (Operation.newOwner (.ledgerObjects op)) db (db.ledgerObjectStep op) := by
  cases op with
  | registerCandidate orgId token objectKey now =>
    refine commit_induction (.refl _ _) fun db' h => ?_
    obtain ⟨-, rfl⟩ := registerCandidate_ok h
    exact .of_eq rfl
  | publishLedgerPdf input sourcesCurrent refused productLevel now finishedAt =>
    refine after_induction (.refl _ _) fun status db' h => ?_
    obtain ⟨itemId, partition, hfound, ⟨-, -, hends⟩ | ⟨-, -, db₁, hpublish, hends⟩⟩ :=
      publishLedgerPdf_ok h
    · obtain ⟨run, hrun, hmatch, -⟩ := hfound.run
      exact hends.runsMove ⟨run, hrun, hmatch⟩
    · obtain ⟨run, hrun, hmatch, -⟩ := hfound.run
      obtain ⟨queue, n, rfl⟩ := publishPartition_eq hpublish
      exact .of_runs_eq (hends.runsMove ⟨run, hrun, hmatch⟩) rfl
  | registerBundleCandidate requestId lease key now =>
    refine after_induction (.refl _ _) fun ok db' h => ?_
    rcases registerBundleCandidate_ok h with ⟨-, rfl⟩ | ⟨-, -, requests, -, rfl⟩
    · exact .refl _ _
    · exact .of_eq rfl
  | completeBundle requestId lease key current expiresAt now finishedAt =>
    refine after_induction (.refl _ _) fun ok db' h => ?_
    rcases completeBundle_ok h with ⟨-, rfl⟩ | ⟨-, hleased, rfl⟩
    · exact .refl _ _
    · exact runsMove_leased hleased.leased rfl fun _ => rfl
  | failBundle requestId lease code now =>
    refine after_induction (.refl _ _) fun ok db' h => ?_
    rcases failBundle_ok h with ⟨-, rfl⟩ | ⟨-, hleased, requests, -, rfl⟩
    · exact .refl _ _
    · exact runsMove_leased hleased.leased rfl fun _ => rfl
  | enqueueExpiredLedgerBundles now =>
    obtain ⟨requests, queue, n, heq⟩ := db.enqueueExpiredLedgerBundles_eq now
    exact .of_eq (by rw [ledgerObjectStep, heq])

/-- **What an operation does to the runs.** -/
theorem runsMove_step (hdb : db.UniqueRuns) (op : Operation) :
    RunsMove op.newOwner db (db.step config op) := by
  cases op with
  | call call =>
    rw [step, performed]
    split
    · exact runsMove_perform hdb
    · exact .refl _ _
  | imports op => exact (runsMove_ofRequests _ fun _ => False).importStep
  | documents op => exact (runsMove_ofRequests _ fun _ => False).documentStep
  | downloads op => exact (runsMove_ofRequests _ fun _ => False).downloadStep
  | ledgerRequests op => exact (runsMove_ofRequests _ _).ledgerRequestStep
  | ledgerObjects op => exact runsMove_ledgerObjectStep op

/-- The unique columns of the runs are unique, and every run has the owner of its job type. -/
structure SoundRuns (db : Database) : Prop where
  unique : db.UniqueRuns
  formed : ∀ id run, db.processingRuns.lookup id = some run → run.owner.formed = true

lemma RunsMove.sound {new : RunOwner → Prop} (h : RunsMove new db db')
    (hnew : ∀ o, new o → o.formed = true) (hdb : db.SoundRuns) : db'.SoundRuns := by
  refine ⟨h.unique hdb.unique, fun id run' hrun' => ?_⟩
  rcases h.back id run' hrun' with ⟨run, hrun, howner, -⟩ | hcreated
  · exact howner ▸ hdb.formed id run hrun
  · exact hnew _ hcreated

lemma soundRuns_empty : SoundRuns {} := by
  refine ⟨fun id id' run run' hrun => ?_, fun id run hrun => ?_⟩
  · cases hrun
  · cases hrun

end Database
end SmeDataCenter
