import SmeDataCenter.ImportsInStep

/-!
# Calls of workers on imports

A call of a worker writes the rows of the import of its run, or none: the run has the lease, so it
is live, and the call is about the document of the run. A claim takes up the batch that it has seen
in an earlier database, which is the batch of the document still.
-/

namespace SmeDataCenter

open Runs
open Table (Keeps)

namespace Database

section

variable {db db' db'' seen : Database} {id : String} {run run' : ProcessingRun}

variable {documentId : String} {f : ProcessingRun → ProcessingRun}

lemma RunWrite.of_updates {g : Document → Document} {p : String → ImportBatch → Bool}
    {e : ImportBatch → ImportBatch} (hrun : db.processingRuns.lookup id = some run)
    (hlive : run.status.isLive = true) (hdocument : run.documentId = some documentId)
    (howner : (f run).owner = run.owner)
    (hdeadline : (f run).status = .running → (f run).lockedUntil.isSome = true)
    (hruns : db'.processingRuns = db.processingRuns.update id f)
    (hdocuments : ∀ k, db'.documents.lookup k =
      if k = documentId then (db.documents.lookup k).map g else db.documents.lookup k)
    (hg : ∀ d, (g d).archivedAt = d.archivedAt)
    (hbatches : ∀ k, db'.importBatches.lookup k =
      (db.importBatches.lookup k).map fun b => if p k b then e b else b)
    (he : ∀ b, (e b).fixed = b.fixed)
    (hp : ∀ k b, db.importBatches.lookup k = some b → p k b = true →
      b.sourceDocumentId = documentId)
    (hagrees : ∀ k b d, run.jobType = .structuredImport → run.orgId = b.orgId →
      db.importBatches.lookup k = some b → b.sourceDocumentId = documentId →
      db.documents.lookup documentId = some d → Agrees run.status b.status d →
      Agrees (f run).status (if p k b then e b else b).status (g d))
    (hwaits : run.jobType = .structuredImport → (f run).status.isLive = true →
      ∀ d : Document, d.status.waits = true → (g d).status.waits = true) :
    RunWrite db db' id run (f run) := by
  refine ⟨hrun, hlive, howner, hdeadline, fun k => ?_, fun k => ?_, fun k b hb hne => ?_,
    fun k hne => ?_, fun k => ?_, fun k b b' d d' hkind hD horg hb hb' hd hd' hstatus => ?_,
    fun D d d' hkind hD hd hd' hlive' hwait => ?_⟩
  · rw [hruns, Table.lookup_update, hrun]
    rfl
  · rw [hbatches, Option.map_map]
    congr 1
    funext b
    simp only [Function.comp_apply]
    split_ifs
    · exact he b
    · rfl
  · rw [hbatches, hb, Option.map_some, if_neg]
    intro hpb
    exact hne (hdocument.trans (congrArg some (hp k b hb hpb).symm))
  · rw [hdocuments, if_neg]
    rintro rfl
    exact hne hdocument
  · rw [hdocuments]
    split_ifs
    · rw [Option.map_map]
      congr 1
      funext d
      exact hg d
    · rfl
  · obtain rfl : documentId = b.sourceDocumentId := Option.some.inj (hdocument.symm.trans hD)
    rw [hbatches, hb] at hb'
    rw [hdocuments, if_pos rfl, hd] at hd'
    cases hb'
    cases hd'
    exact hagrees k b d hkind horg hb rfl hd hstatus
  · obtain rfl : documentId = D := Option.some.inj (hdocument.symm.trans hD)
    rw [hdocuments, if_pos rfl, hd] at hd'
    cases hd'
    exact hwaits hkind hlive' d hwait

lemma RunWrite.of_run (h : db.InStep) (hrun : db.processingRuns.lookup id = some run)
    (hlive : run.status.isLive = true) (howner : (f run).owner = run.owner)
    (hstatus : (f run).status = run.status)
    (hdeadline : (f run).status = .running → (f run).lockedUntil.isSome = true)
    (hruns : db'.processingRuns = db.processingRuns.update id f)
    (hdocuments : db'.documents = db.documents) (hbatches : db'.importBatches = db.importBatches) :
    RunWrite db db' id run (f run) := by
  obtain ⟨-, -, -, documentId, -, hdocument, -⟩ := h.kinds id run hrun
  refine .of_updates (g := fun d => d) (p := fun _ _ => false) (e := fun b => b) hrun hlive
    hdocument howner hdeadline hruns (fun k => ?_) (fun _ => rfl) (fun k => ?_) (fun _ => rfl)
    (fun _ _ _ hp => nomatch hp) (fun k b d _ _ _ _ _ hagrees => ?_) fun _ _ _ hwait => hwait
  · rw [hdocuments, Option.map_id', ite_self]
  · rw [hbatches]
    simp
  · rw [hstatus]
    exact hagrees

/-- The tables of the imports are as they were. -/
def SameRows (db db' : Database) : Prop :=
  db'.processingRuns = db.processingRuns ∧ db'.importBatches = db.importBatches ∧
    db'.documents = db.documents

/-- A call writes the rows of one import, or none. -/
def WritesImport (db db' : Database) : Prop :=
  SameRows db db' ∨ ∃ id run run', RunWrite db db' id run run'

variable {lease : Lease} {now : ℕ}

lemma WritesImport.replyTo {result : Except WorkerError Database}
    (hok : ∀ db', result = .ok db' → WritesImport db db') :
    WritesImport db (replyTo db result).2 := by
  cases result with
  | ok db' => exact hok db' rfl
  | error e => exact .inl ⟨rfl, rfl, rfl⟩

lemma lease_of_matches (h : leaseMatches lease now run = true) :
    run.status = .running ∧ run.lockedUntil.isSome = true := by
  simp only [leaseMatches, Bool.and_eq_true, decide_eq_true_eq] at h
  obtain ⟨⟨⟨hstatus, -⟩, -⟩, hdeadline⟩ := h
  cases hlocked : run.lockedUntil with
  | none => simp [hlocked] at hdeadline
  | some time => exact ⟨hstatus, rfl⟩

lemma lookup_update_document {k : String} {g : Document → Document}
    {documents : Table String Document} :
    (documents.update documentId g).lookup k =
      if k = documentId then (documents.lookup k).map g else documents.lookup k := by
  rw [Table.lookup_update]
  split_ifs with hk
  · rw [hk]
  · rfl

variable {seconds : ℕ}

lemma writes_heartbeat (h : db.InStep)
    (hok : db.heartbeatProcessingRun lease seconds now = .ok db') : WritesImport db db' := by
  obtain ⟨⟨run, hrun, hmatches⟩, rfl⟩ := heartbeatProcessingRun_ok hok
  have hrunning := (lease_of_matches hmatches).1
  refine .inr ⟨lease.runId, run, _, .of_run h hrun (by rw [hrunning]; rfl) rfl rfl ?_ rfl rfl rfl⟩
  exact fun _ => rfl

lemma writes_completeEvidence {activation : Option String}
    (hsuits : ∀ run, db.processingRuns.lookup lease.runId = some run →
      run.jobType = .evidenceDocumentIndex ∧ run.documentId = some documentId)
    (hok : db.completeEvidenceIndexing lease documentId activation now = .ok db') :
    WritesImport db db' := by
  obtain ⟨⟨run, hrun, hmatches⟩, -, hdb'⟩ := completeEvidenceIndexing_ok hok
  obtain ⟨hkind, hdocument⟩ := hsuits run hrun
  have hrunning := (lease_of_matches hmatches).1
  have hnot : run.jobType ≠ .structuredImport := by
    rw [hkind]
    exact nofun
  refine .inr ⟨lease.runId, run, succeed now run, .of_updates (g := fun d =>
    { d with status := .active }) (p := fun _ _ => false) (e := fun b => b) hrun
    (by rw [hrunning]; rfl) hdocument rfl (fun hr => nomatch hr) (by rw [hdb']) (fun k => ?_)
    (fun _ => rfl) (fun k => ?_) (fun _ => rfl) (fun _ _ _ hp => nomatch hp)
    (fun _ _ _ himport => absurd himport hnot) fun himport => absurd himport hnot⟩
  · rw [hdb']
    exact lookup_update_document
  · rw [hdb']
    simp

variable {importBatchId : String}

lemma writes_beginApply
    (hsuits : ∀ run, db.processingRuns.lookup lease.runId = some run →
      run.jobType = .structuredImport ∧ run.documentId = some documentId)
    (hok : db.beginStructuredImportApply lease documentId importBatchId now = .ok db') :
    WritesImport db db' := by
  obtain ⟨⟨run, hrun, hmatches⟩, ⟨batch, hbatch, hsource⟩, rfl⟩ :=
    beginStructuredImportApply_ok hok
  obtain ⟨-, hdocument⟩ := hsuits run hrun
  obtain ⟨hrunning, hdeadline⟩ := lease_of_matches hmatches
  refine .inr ⟨lease.runId, run, touch now run, .of_updates (g := fun d => d)
    (p := fun k _ => decide (k = importBatchId)) (e := fun b => { b with status := .applying }) hrun
    (by rw [hrunning]; rfl) hdocument rfl (fun _ => hdeadline) rfl (fun k => ?_) (fun _ => rfl)
    (fun k => ?_) (fun _ => rfl) (fun k b hb hk => ?_) (fun k b d _ _ hb _ _ hagrees => ?_)
    fun _ _ _ hwait => hwait⟩
  · rw [Option.map_id', ite_self]
  · exact Table.lookup_updateMany ..
  · obtain rfl : k = importBatchId := by simpa using hk
    rw [hbatch] at hb
    cases hb
    exact hsource
  · change Agrees run.status _ d
    rw [hrunning] at hagrees ⊢
    by_cases hk : k = importBatchId
    · rw [if_pos (decide_eq_true hk)]
      exact .applying d
    · rw [if_neg (by simpa using hk)]
      exact hagrees

lemma persistRequirements_none {orgId : String} {others : Option String}
    (h : db.persistRequirements orgId documentId others = none) :
    ∃ d, db.documents.lookup documentId = some d ∧ d.archivedAt = none := by
  unfold persistRequirements at h
  split at h
  · cases h
  rename_i d hd
  obtain ⟨hlookup, hopen⟩ := Option.filter_eq_some_iff.mp hd
  simp only [Bool.and_eq_true, Option.isNone_iff_eq_none] at hopen
  exact ⟨d, hlookup, hopen.1.2⟩

lemma writes_applied (h : db.InStep) {runId : String} {batch : ImportBatch} {d : Document}
    (hrun : db.processingRuns.lookup runId = some run) (hrunning : run.status = .running)
    (hdocument : run.documentId = some documentId) (howner : (f run).owner = run.owner)
    (hsucceeded : (f run).status = .succeeded)
    (hbatch : db.importBatches.lookup importBatchId = some batch)
    (hsource : batch.sourceDocumentId = documentId) (hd : db.documents.lookup documentId = some d)
    (hopen : d.archivedAt = none) (hruns : db'.processingRuns = db.processingRuns.update runId f)
    (hdocuments : db'.documents =
      db.documents.update documentId fun d => { d with status := .active })
    (hbatches : db'.importBatches = db.importBatches.update importBatchId fun b =>
      { b with status := .applied, errorCode := none, errorSummary := none }) :
    WritesImport db db' := by
  refine .inr ⟨runId, run, f run, .of_updates (g := fun d => { d with status := .active })
    (p := fun k _ => decide (k = importBatchId))
    (e := fun b => { b with status := .applied, errorCode := none, errorSummary := none }) hrun
    (by rw [hrunning]; rfl) hdocument howner (fun hr => ?_) hruns (fun k => ?_) (fun _ => rfl)
    (fun k => ?_) (fun _ => rfl) (fun k b hb hk => ?_) (fun k b e _ _ hb hb' he _ => ?_)
    fun _ hlive => ?_⟩
  · rw [hsucceeded] at hr
    cases hr
  · rw [hdocuments, lookup_update_document]
  · rw [hbatches]
    exact Table.lookup_updateMany ..
  · obtain rfl : k = importBatchId := by simpa using hk
    rw [hbatch] at hb
    cases hb
    exact hsource
  · have hk : k = importBatchId := h.sources k _ b batch hb hbatch (hb'.trans hsource.symm)
    rw [hd] at he
    cases he
    rw [hsucceeded, if_pos (decide_eq_true hk)]
    exact .applied (by simp [hopen])
  · rw [hsucceeded] at hlive
    cases hlive

lemma writes_complete {others : Option String} {partitions : List LedgerPartitionKey}
    (h : db.InStep)
    (hsuits : ∀ run, db.processingRuns.lookup lease.runId = some run →
      run.jobType = .structuredImport ∧ run.documentId = some documentId)
    (hok : db.completeStructuredImport lease documentId importBatchId
      (db.persistRequirements (db.runOrg lease.runId) documentId others) partitions now =
        .ok db') : WritesImport db db' := by
  obtain ⟨⟨run, hrun, hmatches⟩, hpersisted, ⟨batch, hbatch, hsource⟩, keys, hdb'⟩ :=
    completeStructuredImport_ok hok
  obtain ⟨d, hd, hopen⟩ := persistRequirements_none hpersisted
  exact writes_applied h hrun (lease_of_matches hmatches).1 (hsuits run hrun).2 rfl rfl hbatch hsource
    hd hopen (by rw [hdb']; rfl) (by rw [hdb']; rfl) (by rw [hdb']; rfl)

lemma writes_reject (h : db.InStep)
    (hsuits : ∀ run, db.processingRuns.lookup lease.runId = some run →
      run.jobType = .structuredImport ∧ run.documentId = some documentId)
    (hok : db.rejectStructuredImport lease documentId importBatchId now = .ok db') :
    WritesImport db db' := by
  obtain ⟨⟨run, hrun, hmatches⟩, ⟨batch, hbatch, hsource⟩, hdb'⟩ :=
    rejectStructuredImport_ok hok
  refine .inr ⟨lease.runId, run, rejectRun now run, .of_updates
    (g := fun d => { d with status := .processingFailed })
    (p := fun k _ => decide (k = importBatchId))
    (e := fun b => { b with
      status := .rejected, errorCode := some structuredImportRejected
      errorSummary := some "Structured import validation failed." }) hrun
    (by rw [(lease_of_matches hmatches).1]; rfl) (hsuits run hrun).2 rfl (fun hr => nomatch hr)
    (by rw [hdb']) (fun k => ?_) (fun _ => rfl) (fun k => ?_) (fun _ => rfl) (fun k b hb hk => ?_)
    (fun k b e _ _ hb hb' _ _ => ?_) fun _ hlive => nomatch hlive⟩
  · rw [hdb']
    exact lookup_update_document
  · rw [hdb']
    exact Table.lookup_updateMany ..
  · obtain rfl : k = importBatchId := by simpa using hk
    rw [hbatch] at hb
    cases hb
    exact hsource
  · have hk : k = importBatchId := h.sources k _ b batch hb hbatch (hb'.trans hsource.symm)
    rw [if_pos (decide_eq_true hk)]
    exact .rejected _

lemma writes_failLeased {input : FailProcessingRunInput} (h : db.InStep)
    (hsuits : ∀ run, db.processingRuns.lookup lease.runId = some run →
      input.documentId = (run.documentId <|> run.partitionImportJobId).getD lease.runId)
    (hok : db.failLeasedRun lease input now = .ok db') : WritesImport db db' := by
  obtain ⟨run, hrun, -, hruns, hwrites⟩ := failLeasedRun_ok hok
  obtain ⟨hkinds, -, -, documentId, -, hdocument, -⟩ := h.kinds _ run hrun
  obtain ⟨run', hrun', hactive, -⟩ := failLeasedRun_active hok
  rw [hrun] at hrun'
  cases hrun'
  obtain ⟨hrunning, -⟩ := lease_of_matches (Bool.and_eq_true_iff.mp hactive).2
  have hlive : run.status.isLive = true := by
    rw [hrunning]
    rfl
  have hdeadline : (failedRun input now run).status = .running →
      (failedRun input now run).lockedUntil.isSome = true := by
    intro hr
    unfold failedRun at hr
    cases hretry : input.willRetry <;> simp [hretry] at hr
  rcases hkinds with hevidence | himport
  · -- a run of evidence has no batch
    have hnot : run.jobType ≠ .structuredImport := by
      rw [hevidence]
      exact nofun
    have hbatches : db'.importBatches = db.importBatches := by
      rcases hwrites.batches with ⟨-, hsame⟩ | ⟨himport, -⟩
      · exact hsame
      · exact absurd himport hnot
    have hdocuments : ∃ g : Document → Document, (∀ d, (g d).archivedAt = d.archivedAt) ∧
        ∀ k, db'.documents.lookup k =
          if k = documentId then (db.documents.lookup k).map g else db.documents.lookup k := by
      rcases hwrites.documents with ⟨hsame, -⟩ | ⟨id', hid', -, -, hwritten'⟩
      · refine ⟨fun d => d, fun _ => rfl, fun k => ?_⟩
        rw [hsame, Option.map_id', ite_self]
      · rw [hdocument] at hid'
        cases hid'
        refine ⟨_, fun _ => ?_, fun k => by rw [hwritten', lookup_update_document]⟩
        rfl
    obtain ⟨g, hg, hlookup⟩ := hdocuments
    refine .inr ⟨lease.runId, run, failedRun input now run, .of_updates (g := g)
      (p := fun _ _ => false) (e := fun b => b) hrun hlive hdocument rfl hdeadline hruns hlookup hg
      (fun k => ?_) (fun _ => rfl) (fun _ _ _ hp => nomatch hp)
      (fun _ _ _ himport => absurd himport hnot) fun himport => absurd himport hnot⟩
    rw [hbatches]
    simp
  · rcases hwrites.batches with ⟨hnot, -⟩ | ⟨-, hbatches⟩
    · exact absurd himport hnot
    rcases hwrites.documents with ⟨-, hnone⟩ | ⟨id', hid', -, -, hdocuments⟩
    · rw [hnone himport] at hdocument
      cases hdocument
    rw [hdocument] at hid'
    cases hid'
    have hinput : input.documentId = documentId := by
      have hsuits := hsuits run hrun
      rwa [hdocument] at hsuits
    refine .inr ⟨lease.runId, run, failedRun input now run, .of_updates
      (g := fun d => { d with
        status := if input.willRetry then .pendingProcessing else .processingFailed })
      (p := fun _ b => failedWhere run input b) (e := failedBatch input) hrun
      hlive hdocument rfl hdeadline hruns (fun k => ?_) (fun _ => rfl) (fun k => ?_) (fun b => ?_)
      (fun k b hb hp => ?_) (fun k b d _ horg hb hb' hd hagrees => ?_) fun _ hlive' d _ => ?_⟩
    · rw [hdocuments]
      exact lookup_update_document
    · rw [hbatches]
      exact Table.lookup_updateMany ..
    · unfold failedBatch
      split <;> rfl
    · unfold failedWhere at hp
      simp only [Bool.and_eq_true, decide_eq_true_eq] at hp
      rw [hp.1.1, hinput]
    · have hclaimable := hagrees.claimable hlive
      have hp : failedWhere run input b = true := by
        unfold failedWhere
        simp only [Bool.and_eq_true, decide_eq_true_eq]
        exact ⟨⟨hb'.trans hinput.symm, horg.symm⟩, hclaimable⟩
      rw [if_pos hp]
      unfold failedBatch failedRun
      cases input.willRetry
      · exact .failed _
      · exact .scheduled _
    · unfold failedRun at hlive'
      cases hretry : input.willRetry with
      | false => simp [hretry, ProcessingRunStatus.isLive] at hlive'
      | true => simp [DocumentStatus.waits]

lemma writes_fail {input : FailProcessingRunInput} {error : Option WorkerError} (h : db.InStep)
    (hsuits : ∀ run, db.processingRuns.lookup lease.runId = some run →
      input.documentId = (run.documentId <|> run.partitionImportJobId).getD lease.runId)
    (hok : db.failProcessingRun lease input now = (error, db')) : WritesImport db db' := by
  rcases failProcessingRun_ways hok with ⟨-, rfl⟩ | hleased | ⟨owner, -, -, howner, hbundle, -⟩
  · exact .inl ⟨rfl, rfl, rfl⟩
  · exact writes_failLeased h hsuits hleased
  · -- there are no bundles here
    obtain ⟨hkind, -⟩ := h.kinds _ owner howner
    rw [hbundle] at hkind
    rcases hkind with hkind | hkind <;> cases hkind

variable {config : Option String} {workerId : String}

lemma claimGuard_live {found : ProcessingRun} (hdue : runIsDue now found = true)
    (hguard : claimGuard now found run = true) : run.status.isLive = true := by
  simp only [claimGuard, Bool.and_eq_true, decide_eq_true_eq] at hguard
  rw [hguard.1.1.1.1.2]
  unfold runIsDue at hdue
  cases hs : found.status <;> simp [hs, ProcessingRunStatus.isLive] at hdue ⊢

lemma writes_claimRun {found : ProcessingRun} {claimed : ClaimedProcessingRun} (h : db.InStep)
    (hseen : Older seen db) (hfound : seen.processingRuns.lookup id = some found)
    (hrun : db.processingRuns.lookup id = some run) (hlive : run.status.isLive = true)
    (hclaim : claimRun seen db config workerId seconds now id found = .ok (claimed, db')) :
    WritesImport db db' := by
  obtain ⟨-, -, -, hwrites⟩ := claimRun_ok hrun hclaim
  -- the run that was found is the one that is there, and so is its batch
  have howner : run.owner = found.owner := by
    obtain ⟨run', hrun', howner⟩ := hseen.runs id found hfound
    rw [hrun] at hrun'
    cases hrun'
    exact howner
  obtain ⟨-, -, -, documentId, -, hdocument, -⟩ := h.kinds id run hrun
  have hfoundDocument : found.documentId = some documentId :=
    (owner_documentId howner).symm.trans hdocument
  have hkind : found.jobType = run.jobType := (congrArg RunOwner.jobType howner).symm
  have hdocuments : ∃ g : Document → Document, (∀ d, (g d).archivedAt = d.archivedAt) ∧
      (∀ d, d.status.waits = true → (g d).status.waits = true) ∧
      ∀ k, db'.documents.lookup k =
        if k = documentId then (db.documents.lookup k).map g else db.documents.lookup k := by
    rcases hwrites.documents with hsame | ⟨id', hid', -, -, hwritten⟩
    · refine ⟨fun d => d, fun _ => rfl, fun _ hwait => hwait, fun k => ?_⟩
      rw [hsame, Option.map_id', ite_self]
    · rw [hfoundDocument] at hid'
      cases hid'
      refine ⟨fun d => { d with status := .processing }, fun _ => rfl, fun _ _ => rfl,
        fun k => by rw [hwritten, lookup_update_document]⟩
  obtain ⟨g, hg, hwaits, hlookup⟩ := hdocuments
  rcases hwrites.batches with ⟨hnot, hsame⟩ | ⟨himport, documentId', batchId, batch,
    hdocument', hmem, hbatches⟩
  · rw [hkind] at hnot
    refine .inr ⟨id, run, run.claimed workerId (addSeconds now seconds) now, .of_updates (g := g)
      (p := fun _ _ => false) (e := fun b => b) hrun hlive hdocument rfl (fun _ => rfl)
      hwrites.runs hlookup hg (fun k => ?_) (fun _ => rfl) (fun _ _ _ hp => nomatch hp)
      (fun _ _ _ himport => absurd himport hnot) fun himport => absurd himport hnot⟩
    rw [hsame]
    simp
  · rw [hfoundDocument] at hdocument'
    cases hdocument'
    obtain ⟨hseenBatch, hfilter⟩ := Table.mem_findMany.mp hmem
    simp only [Bool.and_eq_true, decide_eq_true_eq] at hfilter
    obtain ⟨current, hcurrent, hfixed⟩ := hseen.batches batchId batch hseenBatch
    have hsource : current.sourceDocumentId = documentId :=
      (fixed_source hfixed).trans hfilter.1.1
    refine .inr ⟨id, run, run.claimed workerId (addSeconds now seconds) now, .of_updates (g := g)
      (p := fun k _ => decide (k = batchId))
      (e := fun b => { b with status := .validating, errorCode := none, errorSummary := none })
      hrun hlive hdocument rfl (fun _ => rfl) hwrites.runs hlookup hg (fun k => ?_) (fun _ => rfl)
      (fun k b hb hk => ?_) (fun k b d _ _ hb hb' _ _ => ?_) fun _ _ => hwaits⟩
    · rw [hbatches]
      exact Table.lookup_updateMany ..
    · obtain rfl : k = batchId := by simpa using hk
      rw [hcurrent] at hb
      cases hb
      exact hsource
    · have hk : k = batchId := h.sources k _ b current hb hcurrent (hb'.trans hsource.symm)
      rw [if_pos (decide_eq_true hk)]
      exact .validating _

lemma writes_claim {claimed : Option ClaimedProcessingRun} (h : db.InStep) (hseen : Older seen db)
    (hok : claimNextProcessingRun seen db config workerId seconds now = .ok (claimed, db')) :
    WritesImport db db' := by
  rcases claimNextProcessingRun_cases hok with ⟨-, rfl⟩ | ⟨id, found, run, r, -, hfind, hrun,
    hguard, hclaim⟩
  · exact .inl ⟨rfl, rfl, rfl⟩
  obtain ⟨hfound, heligible⟩ := findNextRun_some hfind
  simp only [eligible, Bool.and_eq_true] at heligible
  exact writes_claimRun h hseen hfound hrun (claimGuard_live heligible.2 hguard) hclaim

/-- **A call of a worker** writes the rows of one import, or none. -/
lemma writes_call {call : Call} (h : db.InStep)
    (hseen : ∀ seen workerId seconds now,
      call = .claimNextProcessingRun seen workerId seconds now → Older seen db) :
    WritesImport db (sourceStep config db (.call call)) := by
  change WritesImport db (performed config db (db.persisted call))
  unfold performed
  split_ifs with hdispatched
  swap
  · exact .inl ⟨rfl, rfl, rfl⟩
  -- what a call suits is its run
  have hsuits : ∀ (lease : Lease) (run : ProcessingRun),
      (db.persisted call).lease = some lease → db.processingRuns.lookup lease.runId = some run →
        Call.suits run (db.persisted call) = true := by
    intro lease run hlease hrun
    unfold Call.dispatched at hdispatched
    rw [hlease, Option.bind_some, hrun, Option.all_some] at hdispatched
    exact hdispatched
  have hnone : ∀ (lease : Lease) (run : ProcessingRun),
      db.processingRuns.lookup lease.runId = some run →
      run.jobType ≠ .structuredPartitionImport := by
    intro lease run hrun heq
    obtain ⟨hkind, -⟩ := h.kinds _ run hrun
    rw [heq] at hkind
    rcases hkind with hkind | hkind <;> cases hkind
  cases call with
  | claimNextProcessingRun seen workerId leaseSeconds now =>
    have hseen := hseen seen workerId leaseSeconds now rfl
    dsimp only [persisted, perform]
    split
    · rename_i hclaim
      exact writes_claim h hseen hclaim
    · rename_i hclaim
      exact writes_claim h hseen hclaim
    · exact .inl ⟨rfl, rfl, rfl⟩
  | heartbeatProcessingRun lease leaseSeconds now =>
    exact .replyTo fun db' hok => writes_heartbeat h hok
  | completePartitionProcessing lease now =>
    refine .replyTo fun db' hok => ?_
    obtain ⟨⟨run, hrun, -⟩, -⟩ := completePartitionProcessing_ok hok
    have hkind := hsuits lease run rfl hrun
    exact absurd (by simpa [Call.suits, persisted] using hkind) (hnone lease run hrun)
  | completeEvidenceIndexing lease documentId activation now =>
    refine .replyTo fun db' hok => writes_completeEvidence (fun run hrun => ?_) hok
    simpa [Call.suits, persisted] using hsuits lease run rfl hrun
  | beginStructuredImportApply lease documentId importBatchId now =>
    refine .replyTo fun db' hok => writes_beginApply (fun run hrun => ?_) hok
    simpa [Call.suits, persisted] using hsuits lease run rfl hrun
  | completeStructuredImport lease documentId importBatchId others partitions now =>
    refine .replyTo fun db' hok => writes_complete h (fun run hrun => ?_) hok
    simpa [Call.suits, persisted] using hsuits lease run rfl hrun
  | rejectStructuredImport lease documentId importBatchId now =>
    refine .replyTo fun db' hok => writes_reject h (fun run hrun => ?_) hok
    simpa [Call.suits, persisted] using hsuits lease run rfl hrun
  | failProcessingRun lease input now =>
    have hsuits : ∀ run, db.processingRuns.lookup lease.runId = some run →
        input.documentId = (run.documentId <|> run.partitionImportJobId).getD lease.runId := by
      intro run hrun
      simpa [Call.suits, persisted] using hsuits lease run rfl hrun
    dsimp only [persisted, perform]
    split
    · rename_i hfail
      exact writes_fail h hsuits hfail
    · rename_i hfail
      exact writes_fail h hsuits hfail
  | finishJob lease input now =>
    refine .replyTo fun db' hok => ?_
    obtain ⟨⟨run, hrun, -, -, hkind, -⟩, -⟩ := finishJob_ok hok
    exact absurd hkind (hnone lease run hrun)
  | publishSourceAtomically lease input refused transition now =>
    refine .replyTo fun db' hok => ?_
    obtain ⟨⟨run, hrun, -, -, hkind, -⟩, -⟩ := publishSourceAtomically_ok hok
    exact absurd hkind (hnone lease run hrun)

end

end Database
end SmeDataCenter
