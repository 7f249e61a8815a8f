import SmeDataCenter.DownloadRequests

/-!
# States of a download request

The API prepares requests, workers claim their runs and build the bundles, the sweep expires
requests and the operator invalidates them, in any order. A request keeps what it was made for;
its progress only rises, its time is only cut, and once it is over only an expiry or an
invalidation gives it another status.
-/

namespace SmeDataCenter

open Runs

namespace Operation

/-- Does the operation belong to downloads? The queue serves their runs as it does any other. -/
def ofDownloads : Operation → Bool
  | downloads _ => true
  | call (.claimNextProcessingRun ..) | call (.heartbeatProcessingRun ..)
  | call (.failProcessingRun ..) => true
  | _ => false

/-- Which status the operation may give a request that is over. -/
def mayEnd : Operation → PartitionDownloadRequest → PartitionDownloadStatus → Prop
  | downloads (.prepare _ _ _ _ _ now), r, status => status = .expired ∧ r.expiresAt ≤ now
  | downloads (.expire _ _ clock _), r, status => status = .expired ∧ r.expiresAt ≤ clock
  | downloads (.invalidate ..), _, status => status = .failed
  | _, _, _ => False

/-- May the operation create a request? -/
def mayCreate : Operation → Bool
  | downloads (.prepare ..) => true
  | _ => false

end Operation

/-- The lease that an operation shows, and the times at which it is looked at. -/
def DownloadOperation.lease : DownloadOperation → Option (PartitionDownloadLease × ℕ × ℕ)
  | markRunning lease _ now finishedAt | recordProgress lease _ now finishedAt
  | fail lease _ now finishedAt | registerCandidate lease _ now finishedAt
  | publish lease _ _ now finishedAt => some (lease, now, finishedAt)
  | prepare .. | expire .. | invalidate .. => none

namespace Database

/-- The lease is that of the run of the request. -/
def HoldsDownload (db : Database) (lease : PartitionDownloadLease) (now : ℕ) : Prop :=
  ∃ run, db.processingRuns.lookup lease.runId = some run ∧
    downloadOwner lease.orgId lease.requestId run = true ∧
    leaseMatches lease.toLease now run = true

section

variable {config : Option String} {mayEnd : PartitionDownloadRequest → PartitionDownloadStatus → Prop}
  {creates : Prop} {db db' : Database} {now finishedAt : ℕ} {lease : PartitionDownloadLease}
  {row : PartitionDownloadRequest}

lemma DownloadLeased.ended (hleased : db.DownloadLeased lease now row)
    (h : db.EndsRequest lease row now db') : DownloadsStep mayEnd creates db db' := by
  obtain ⟨status, code, hstatus, rfl⟩ := h
  exact step_terminate code hleased.row hstatus (.inl hleased.active)

lemma isDownloadKey_request {key : ObjectKey} (h : isDownloadKey lease key = true) :
    key.downloadRequest = some lease.requestId := by
  unfold isDownloadKey at h
  split at h
  · simp only [Bool.and_eq_true, decide_eq_true_eq] at h
    rw [ObjectKey.downloadRequest, h.1.2]
  · cases h

/-! ### What each operation does to the requests -/

lemma soundRequest_prepared (limits : PartitionDownloadLimits) (input : PrepareDownloadInput)
    (id : String) (now : ℕ) : SoundRequest id (preparedDownload limits input now) := by
  unfold preparedDownload
  by_cases hempty : input.partitionIds.length = 0
  · refine ⟨⟨nofun, ?_⟩, Nat.zero_le _, ?_, ?_, nofun⟩
    · simp [hempty]
    · simp [hempty]
    · simp [hempty, PartitionDownloadStatus.isActive]
  · refine ⟨⟨nofun, ?_⟩, Nat.zero_le _, ?_, fun _ => Nat.pos_of_ne_zero hempty, nofun⟩
    · simp [hempty]
    · simp [hempty]

lemma step_create {requestId : String}
    {downloads : Table String PartitionDownloadRequest}
    (hcreate : db.partitionDownloadRequests.create requestId row = some downloads)
    (hrow : SoundRequest requestId row) (hkey : row.objectKey = none)
    (hdownloads : db'.partitionDownloadRequests = downloads)
    (hgarbage : db'.storageGarbage = db.storageGarbage) (hcreates : creates) :
    DownloadsStep mayEnd creates db db' := by
  refine ⟨fun h => ⟨fun id r hr => ?_, fun id r key g hr hk hg => ?_⟩, fun _ id r hr => ?_,
    fun _ _ => .inr hcreates⟩
  · rw [hdownloads, Table.lookup_create hcreate] at hr
    split_ifs at hr with hid
    · subst hid
      cases hr
      exact hrow
    · exact h.requests id r hr
  · rw [hgarbage] at hg
    rw [hdownloads, Table.lookup_create hcreate] at hr
    split_ifs at hr with hid
    · cases hr
      rw [hkey] at hk
      cases hk
    · exact h.archives id r key g hr hk hg
  · rw [hdownloads, Table.lookup_create hcreate, if_neg]
    · exact ⟨r, hr, requestMoves_refl r⟩
    · rintro rfl
      rw [Table.create_fresh hcreate] at hr
      cases hr

lemma createRun_keeps {runId : String} {run : ProcessingRun} (h : db.createRun runId run = .ok db') :
    db'.partitionDownloadRequests = db.partitionDownloadRequests ∧
      db'.storageGarbage = db.storageGarbage := by
  obtain ⟨-, -, runs, rfl, -⟩ := createRun_ok h
  exact ⟨rfl, rfl⟩

lemma step_prepare (limits : PartitionDownloadLimits) (input : PrepareDownloadInput)
    (requestId runId : String) (refused : Option String) (now : ℕ) :
    DownloadsStep (fun r status => status = .expired ∧ r.expiresAt ≤ now) (true = true) db
      (commit db (db.prepareDownload limits input requestId runId refused now)) := by
  refine commit_induction (.refl _) fun db' h => ?_
  rcases prepareDownload_ok h with rfl | ⟨id, row, hrow, hexpired, rfl⟩ |
    ⟨downloads, hcreate, rfl | hrun⟩
  · exact .refl _
  · exact step_terminate _ hrow (.inr rfl) (.inr ⟨rfl, hexpired⟩)
  · exact step_create hcreate (soundRequest_prepared limits input requestId now) rfl rfl rfl
      rfl
  · obtain ⟨hdownloads, hgarbage⟩ := createRun_keeps hrun
    exact step_create hcreate (soundRequest_prepared limits input requestId now) rfl hdownloads
      hgarbage rfl

lemma step_release (orgId requestId : String) (now : ℕ) :
    DownloadsStep mayEnd creates db (db.releaseDownloadCandidates orgId requestId now) := by
  refine ⟨fun h => ⟨h.requests, fun id r key g hr hk hg => ?_⟩,
    fun _ id r hr => ⟨r, hr, requestMoves_refl r⟩, fun _ hid => .inl hid⟩
  rw [releaseDownloadCandidates, Table.lookup_updateMany, Option.map_eq_some_iff] at hg
  obtain ⟨g', hg', rfl⟩ := hg
  obtain ⟨havailable, hrun⟩ := h.archives id r key g' hr hk hg'
  rw [hrun]
  exact ⟨havailable, hrun⟩

lemma step_invalidate (orgId : String) (partitionIds : List String) (now : ℕ) :
    DownloadsStep (fun _ status => status = .failed) creates db
      (db.invalidateDownloads orgId partitionIds now) := by
  have hmono : ∀ (_ _ : PartitionDownloadRequest) (status : PartitionDownloadStatus),
      status = .failed → status = .failed := fun _ _ _ h => h
  refine invalidateDownloads_keeps (.refl db) orgId partitionIds now fun db' id h =>
    h.trans hmono ?_
  rcases db'.invalidateDownload_cases orgId id now with heq | ⟨row, hrow, heq⟩
  · rw [heq]
    exact .refl _
  · rw [heq]
    have hrelease : DownloadsStep (fun _ status => status = .failed) creates db'
        (db'.releaseDownloadCandidates orgId id now) := step_release orgId id now
    exact hrelease.trans hmono (step_terminate _ hrow (.inl rfl) (.inr rfl))

lemma step_downloads (op : DownloadOperation) :
    DownloadsStep (Operation.mayEnd (.downloads op)) (Operation.mayCreate (.downloads op)) db
      (db.downloadStep op) := by
  cases op with
  | prepare limits input requestId runId refused now =>
    exact step_prepare limits input requestId runId refused now
  | markRunning lease current now finishedAt =>
    refine after_induction (.refl _) fun ok db' h => ?_
    rcases markDownloadRunning_ok h with rfl | ⟨row, hleased, hends | rfl⟩
    · exact .refl _
    · exact hleased.ended hends
    · exact step_running hleased.row hleased.active
  | recordProgress lease completed now finishedAt =>
    refine after_induction (.refl _) fun ok db' h => ?_
    rcases recordDownloadProgress_ok h with rfl | ⟨row, hleased, hends | ⟨hleast, hmost, rfl⟩⟩
    · exact .refl _
    · exact hleased.ended hends
    · exact step_progress hleased.row hleased.active hleast hmost
  | fail lease errorCode now finishedAt =>
    refine after_induction (.refl _) fun ok db' h => ?_
    rcases failDownload_ok h with rfl | ⟨row, hleased, hends | ⟨⟨⟩⟩⟩
    · exact .refl _
    · exact hleased.ended hends
  | registerCandidate lease objectKey now finishedAt =>
    refine after_induction (.refl _) fun ok db' h => ?_
    rcases registerDownloadCandidate_ok h with rfl | ⟨row, hleased, hends | ⟨hkey, rfl⟩⟩
    · exact .refl _
    · exact hleased.ended hends
    · exact step_candidate hleased.row hleased.active (isDownloadKey_request hkey)
  | publish lease artifact current now finishedAt =>
    refine after_induction (.refl _) fun ok db' h => ?_
    rcases publishDownload_ok h with rfl |
      ⟨row, hleased, hends | ⟨hkey, hexpiry, garbage, -, rfl⟩⟩
    · exact .refl _
    · exact hleased.ended hends
    · exact step_published hleased.row hleased.active (isDownloadKey_request hkey) hexpiry
  | expire orgId requestId clock now =>
    rw [downloadStep]
    rcases db.expireDownload_cases orgId requestId clock now with heq | ⟨row, hrow, hexpired, heq⟩
    · rw [heq]
      exact .refl _
    · rw [heq]
      exact step_terminate _ hrow (.inr rfl) (.inr ⟨rfl, hexpired⟩)
  | invalidate orgId partitionIds now => exact step_invalidate orgId partitionIds now

/-! ### The queue -/

lemma step_failPartitionDownload {lease : Lease} {orgId requestId errorCode : String} {ok : Bool}
    (h : db.failPartitionDownload lease orgId requestId errorCode now = (ok, db')) :
    DownloadsStep mayEnd creates db db' := by
  unfold failPartitionDownload at h
  split at h
  · rename_i row run hrow hrun
    rw [Option.filter_eq_some_iff] at hrow
    split_ifs at h with hover hexpired
    · cases h
      exact .refl _
    · cases h
      exact step_terminate _ hrow.1 (.inr rfl) (.inl (by simpa using hover))
    · cases h
      exact step_terminate _ hrow.1 (.inl rfl) (.inl (by simpa using hover))
  · cases h
    exact .refl _

lemma step_failProcessingRun {lease : Lease} {input : FailProcessingRunInput}
    {error : Option WorkerError} (h : db.failProcessingRun lease input now = (error, db')) :
    DownloadsStep mayEnd creates db db' := by
  rcases failProcessingRun_ways h with ⟨-, rfl⟩ | hleased | ⟨owner, requestId, ok, -, -, -, hfail, -⟩
  · exact .refl _
  · obtain ⟨run, -, -, -, hwrites⟩ := failLeasedRun_ok hleased
    exact .of_eq hwrites.downloads hwrites.garbage
  · exact step_failPartitionDownload hfail

lemma step_call (call : Call) (hcall : (Operation.call call).ofDownloads = true) :
    DownloadsStep mayEnd creates db (performed config db call) := by
  unfold performed
  split_ifs
  · cases call with
    | claimNextProcessingRun seen workerId leaseSeconds now =>
      dsimp only [perform]
      split
      · rename_i hclaim
        rcases claimNextProcessingRun_ok hclaim with ⟨-, rfl⟩ |
          ⟨found, run, r, -, -, -, -, -, -, -, hwrites⟩
        · exact .refl _
        · exact .of_eq hwrites.downloads hwrites.garbage
      · rename_i hclaim
        rcases claimNextProcessingRun_ok hclaim with ⟨-, rfl⟩ |
          ⟨found, run, r, hnone, -⟩
        · exact .refl _
        · cases hnone
      · exact .refl _
    | heartbeatProcessingRun lease leaseSeconds now =>
      dsimp only [perform, replyTo]
      split
      · rename_i hbeat
        obtain ⟨-, rfl⟩ := heartbeatProcessingRun_ok hbeat
        exact .of_eq rfl rfl
      · exact .refl _
    | failProcessingRun lease input now =>
      dsimp only [perform]
      split
      · rename_i hfail
        exact step_failProcessingRun hfail
      · rename_i hfail
        exact step_failProcessingRun hfail
    | _ => cases hcall
  · exact .refl _

/-- **One operation on downloads** keeps the requests sound and moves them. -/
theorem step_download_operation (op : Operation) (hop : op.ofDownloads = true) :
    DownloadsStep op.mayEnd op.mayCreate db (db.step config op) := by
  cases op with
  | call c => exact step_call c hop
  | downloads op => exact step_downloads op
  | _ => cases hop

/-! ### Lost leases -/

lemma downloadLeased_none (h : ¬ db.HoldsDownload lease now) :
    db.downloadLeased lease now = none := by
  unfold downloadLeased
  cases hrow : (db.partitionDownloadRequests.lookup lease.requestId).filter
      (·.orgId = lease.orgId) with
  | none => rfl
  | some row =>
    have hrun : ((db.processingRuns.lookup lease.runId).filter fun run =>
        downloadOwner lease.orgId lease.requestId run && leaseMatches lease.toLease now run) =
          none := by
      rw [Option.filter_eq_none_iff]
      intro run hrun howner
      exact h ⟨run, hrun, Bool.and_eq_true_iff.mp howner⟩
    simp only [Option.bind_eq_bind, Option.bind_some, hrun, Option.bind_none]

variable {fn : PartitionDownloadRequest → Except WorkerError (Bool × Database)}

lemma fencedDownload_stale (h : ¬ db.HoldsDownload lease now) :
    db.after (db.fencedDownload lease now finishedAt fn) = db := by
  rw [fencedDownload, downloadLeased_none h]
  rfl

lemma fencedDownload_lost (h : ¬ db.HoldsDownload lease finishedAt) :
    db.after (db.fencedDownload lease now finishedAt fn) = db ∨
      ∃ row, db.partitionDownloadRequests.lookup lease.requestId = some row ∧
        row.expiresAt ≤ now := by
  by_cases hnow : db.HoldsDownload lease now
  · unfold fencedDownload
    split
    · exact .inl rfl
    rename_i row run hleased
    by_cases hexpired : row.expiresAt ≤ now
    · exact .inr ⟨row, (downloadLeased_some hleased).row, hexpired⟩
    rw [if_neg hexpired]
    left
    have hlocked : run.lockedUntil.any (finishedAt < ·) = false := by
      rw [Bool.eq_false_iff]
      intro hlocked
      unfold downloadLeased at hleased
      simp only [Option.bind_eq_bind, Option.bind_eq_some_iff, Option.filter_eq_some_iff] at hleased
      obtain ⟨row', hrow, run', hrun, hleased⟩ := hleased
      split_ifs at hleased
      cases hleased
      obtain ⟨howner, hmatch⟩ := Bool.and_eq_true_iff.mp hrun.2
      refine h ⟨run, hrun.1, howner, ?_⟩
      simp only [leaseMatches, Bool.and_eq_true] at hmatch ⊢
      exact ⟨hmatch.1, hlocked⟩
    cases fn row with
    | error error => rfl
    | ok result =>
      simp only [bind, Except.bind, hlocked]
      rfl
  · exact .inl (fencedDownload_stale hnow)

lemma downloadStep_fenced {op : DownloadOperation} (h : op.lease = some (lease, now, finishedAt)) :
    ∃ fn, db.downloadStep op = db.after (db.fencedDownload lease now finishedAt fn) := by
  cases op <;> cases h <;> exact ⟨_, rfl⟩

/-! ### Every run -/

lemma soundDownloads_empty : SoundDownloads {} := by
  refine ⟨fun id r h => ?_, fun id r key g h => ?_⟩
  all_goals cases h

lemma soundDownloads_run {ops : List Operation} (hops : ∀ op ∈ ops, op.ofDownloads = true) :
    SoundDownloads (Runs.run (step config) {} ops) := by
  have halong : Along (step config) (fun _ op => op.ofDownloads = true) {} ops := by
    rw [along_iff]
    rintro before op after rfl
    exact hops op (by simp)
  exact run_invariant (fun db op hop h => (step_download_operation op hop).sound h) halong
    soundDownloads_empty

lemma SoundDownloads.collected {id : String} {key : ObjectKey} {t : ℕ} (h : db.SoundDownloads)
    (hrow : db.partitionDownloadRequests.lookup id = some row) (hkey : row.objectKey = some key) :
    (∀ limit g, (key, g) ∈ db.listDueStorageGarbage t limit → row.expiresAt ≤ t) ∧
      ∀ garbageId leaseNow, db.canDeleteStorageGarbage garbageId key t leaseNow = true →
        row.expiresAt ≤ t := by
  constructor
  · intro limit g hg
    have hmem := List.mem_of_mem_take hg
    rw [List.mem_insertionSort, Table.mem_findMany] at hmem
    have hdue := hmem.2
    simp only [Bool.and_eq_true, decide_eq_true_eq] at hdue
    exact (h.archives id row key g hrow hkey hmem.1).1.trans hdue.1
  · intro garbageId leaseNow hdelete
    unfold canDeleteStorageGarbage at hdelete
    split at hdelete
    · cases hdelete
    rename_i g hg
    simp only [Bool.and_eq_true, decide_eq_true_eq] at hdelete
    exact (h.archives id row key g hrow hkey hg).1.trans hdelete.2

/-- **The states of a download request.** After any operations on downloads, whatever comes next:
a request points to an archive exactly while it has succeeded with partitions, its progress is
within its partitions, all of them when it has succeeded, and only rises; its time is only cut,
and no archive is collected before it. A request that is over is given another status only when
it has expired, or fails for an invalidation. A lease that is not the run's changes nothing. -/
theorem download_request_states (ops : List Operation)
    (hops : ∀ op ∈ ops, op.ofDownloads = true) (next : Operation)
    (hnext : next.ofDownloads = true) :
    let db := Runs.run (step config) {} ops
    (∀ id r, db.partitionDownloadRequests.lookup id = some r →
      (r.objectKey.isSome = true ↔ r.status = .succeeded ∧ 0 < r.partitionCount) ∧
      r.completedPartitionCount ≤ r.partitionCount ∧
      (r.status = .succeeded → r.completedPartitionCount = r.partitionCount) ∧
      (∀ key t, r.objectKey = some key →
        (∀ limit g, (key, g) ∈ db.listDueStorageGarbage t limit → r.expiresAt ≤ t) ∧
        ∀ garbageId leaseNow, db.canDeleteStorageGarbage garbageId key t leaseNow = true →
          r.expiresAt ≤ t) ∧
      ∃ r', (db.step config next).partitionDownloadRequests.lookup id = some r' ∧
        r'.partitionCount = r.partitionCount ∧
        r.completedPartitionCount ≤ r'.completedPartitionCount ∧ r'.expiresAt ≤ r.expiresAt ∧
        (r.status.isActive = false → r'.status = r.status ∨ next.mayEnd r r'.status)) ∧
    ∀ op lease now finishedAt, next = .downloads op → op.lease = some (lease, now, finishedAt) →
      (¬ db.HoldsDownload lease now → db.step config next = db) ∧
      (¬ db.HoldsDownload lease finishedAt → db.step config next = db ∨
        ∃ row, db.partitionDownloadRequests.lookup lease.requestId = some row ∧
          row.expiresAt ≤ now) := by
  intro db
  have hsound : db.SoundDownloads := soundDownloads_run hops
  constructor
  · intro id r hr
    have hr' := hsound.requests id r hr
    obtain ⟨r', hafter, hmoves⟩ := (step_download_operation next hnext).forth hsound id r hr
    have hcount : r'.partitionCount = r.partitionCount := by
      have hidentity := hmoves.identity
      simp only [PartitionDownloadRequest.identity, Prod.mk.injEq] at hidentity
      exact hidentity.2.2.2.2.2
    refine ⟨hr'.pointer, hr'.progress, hr'.complete, fun key t hkey => hsound.collected hr hkey,
      r', hafter, hcount, hmoves.progress, hmoves.expiry, fun hover => ?_⟩
    rcases hmoves.status with heq | hactive | hend
    · exact .inl heq
    · rw [hover] at hactive
      cases hactive
    · exact .inr hend
  · rintro op lease now finishedAt rfl hlease
    have hfenced : ∃ fn, db.step config (.downloads op) =
        db.after (db.fencedDownload lease now finishedAt fn) := downloadStep_fenced hlease
    obtain ⟨fn, hstep⟩ := hfenced
    rw [hstep]
    exact ⟨fencedDownload_stale, fencedDownload_lost⟩

end

section Example

private def oneLimit : PartitionDownloadLimits := ⟨10, 1000, 2, 2, 60⟩

private def oneInput : PrepareDownloadInput := ⟨"org", "emp", "key", "print", ["p"], 100⟩

/-- A request is prepared, and its partition is taken away. -/
private def invalidatedRun : List Operation :=
  [.downloads (.prepare oneLimit oneInput "request" "run" none 0),
    .downloads (.invalidate "org" ["p"] 1000)]

/-- The sweep comes by when the time is over. -/
private def sweep : Operation := .downloads (.expire "org" "request" 60000 60000)

theorem download_request_states_invalidated :
    (∀ op ∈ invalidatedRun, op.ofDownloads = true) ∧ sweep.ofDownloads = true ∧
      ∀ r, (Runs.run (step none) {} invalidatedRun).partitionDownloadRequests.lookup "request" =
        some r → r.completedPartitionCount ≤ r.partitionCount :=
  ⟨by decide, by decide, fun r hr =>
    ((@download_request_states none invalidatedRun (by decide) sweep (by decide)).1
      "request" r hr).2.1⟩

/-- A failed request expires, and an expired one fails. -/
theorem over_is_not_final :
    ∃ before after : List Operation, (∀ op ∈ before ++ after, op.ofDownloads = true) ∧
      ((Runs.run (step none) {} before).partitionDownloadRequests.lookup "request").map
        (·.status) = some .failed ∧
      ((Runs.run (step none) {} (before ++ after)).partitionDownloadRequests.lookup "request").map
        (·.status) = some .expired :=
  ⟨invalidatedRun, [sweep], by decide, by decide +kernel, by decide +kernel⟩

end Example

end Database
end SmeDataCenter
