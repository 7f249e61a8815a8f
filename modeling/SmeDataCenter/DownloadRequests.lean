import SmeDataCenter.RunMoves

/-!
# The life of a download request

What the fields of a request say together, and how a request may change, whoever writes it: the
API, the worker under its lease, the maintenance and the operator. A request points to an archive
exactly while it has succeeded with partitions, and the archive is not due for deletion before the
request expires.
-/

namespace SmeDataCenter

open Runs

/-- The request a bundle is made for. -/
def ObjectKey.downloadRequest : ObjectKey → Option String
  | .download _ requestId _ _ => some requestId
  | _ => none

/-- The columns of a request that are written once. -/
def PartitionDownloadRequest.identity (r : PartitionDownloadRequest) :
    String × String × String × String × List String × ℕ :=
  (r.orgId, r.requesterId, r.idempotencyKey, r.requestFingerprint, r.manifest, r.partitionCount)

/-- What the fields of a request say together. -/
structure SoundRequest (id : String) (r : PartitionDownloadRequest) : Prop where
  pointer : r.objectKey.isSome = true ↔ r.status = .succeeded ∧ 0 < r.partitionCount
  progress : r.completedPartitionCount ≤ r.partitionCount
  complete : r.status = .succeeded → r.completedPartitionCount = r.partitionCount
  nonempty : r.status.isActive = true → 0 < r.partitionCount
  owned : ∀ key, r.objectKey = some key → key.downloadRequest = some id

lemma SoundRequest.no_archive {id : String} {r : PartitionDownloadRequest}
    (h : SoundRequest id r) (hactive : r.status.isActive = true) : r.objectKey = none := by
  cases hkey : r.objectKey with
  | none => rfl
  | some key =>
    have hstatus := (h.pointer.mp (by rw [hkey]; rfl)).1
    rw [hstatus] at hactive
    cases hactive

/-- How a request may change. `mayEnd` says which status a request that is over may be given. -/
structure RequestMoves (mayEnd : PartitionDownloadRequest → PartitionDownloadStatus → Prop)
    (r r' : PartitionDownloadRequest) : Prop where
  identity : r'.identity = r.identity
  progress : r.completedPartitionCount ≤ r'.completedPartitionCount
  expiry : r'.expiresAt ≤ r.expiresAt
  status : r'.status = r.status ∨ r.status.isActive = true ∨ mayEnd r r'.status
  active : r'.status.isActive = true → r.status.isActive = true

namespace Database

/-- The requests and their archives: an archive that is queued is not due before its request
expires, and belongs to no run. -/
structure SoundDownloads (db : Database) : Prop where
  requests : ∀ id r, db.partitionDownloadRequests.lookup id = some r → SoundRequest id r
  archives : ∀ id r key g, db.partitionDownloadRequests.lookup id = some r →
    r.objectKey = some key → db.storageGarbage.lookup key = some g →
    r.expiresAt ≤ g.availableAt ∧ g.processingRunId = none

/-- A write that keeps the requests sound, moves them, and creates one only if it `creates`. -/
structure DownloadsStep (mayEnd : PartitionDownloadRequest → PartitionDownloadStatus → Prop)
    (creates : Prop) (db db' : Database) : Prop where
  sound : db.SoundDownloads → db'.SoundDownloads
  forth : db.SoundDownloads → ∀ id r, db.partitionDownloadRequests.lookup id = some r →
    ∃ r', db'.partitionDownloadRequests.lookup id = some r' ∧ RequestMoves mayEnd r r'
  back : ∀ id, id ∈ db'.partitionDownloadRequests → id ∈ db.partitionDownloadRequests ∨ creates

section

variable {mayEnd : PartitionDownloadRequest → PartitionDownloadStatus → Prop} {creates : Prop}
  {db db' db'' : Database} {id : String} {r : PartitionDownloadRequest} {now : ℕ}

lemma requestMoves_refl (r : PartitionDownloadRequest) : RequestMoves mayEnd r r :=
  ⟨rfl, le_rfl, le_rfl, .inl rfl, fun h => h⟩

lemma DownloadsStep.of_eq
    (hrequests : db'.partitionDownloadRequests = db.partitionDownloadRequests)
    (hgarbage : db'.storageGarbage = db.storageGarbage) : DownloadsStep mayEnd creates db db' := by
  refine ⟨fun h => ⟨?_, ?_⟩, ?_, ?_⟩
  · rw [hrequests]
    exact h.requests
  · rw [hrequests, hgarbage]
    exact h.archives
  · rw [hrequests]
    exact fun _ id r hr => ⟨r, hr, requestMoves_refl r⟩
  · rw [hrequests]
    exact fun id hid => .inl hid

lemma DownloadsStep.refl (db : Database) : DownloadsStep mayEnd creates db db := .of_eq rfl rfl

lemma DownloadsStep.trans (hend : ∀ r r' status, mayEnd r' status → mayEnd r status)
    (h : DownloadsStep mayEnd creates db db') (h' : DownloadsStep mayEnd creates db' db'') :
    DownloadsStep mayEnd creates db db'' := by
  refine ⟨fun hs => h'.sound (h.sound hs), fun hs id r hr => ?_, fun id hid => ?_⟩
  · obtain ⟨r', hr', hmoves⟩ := h.forth hs id r hr
    obtain ⟨r'', hr'', hmoves'⟩ := h'.forth (h.sound hs) id r' hr'
    refine ⟨r'', hr'', hmoves'.identity.trans hmoves.identity,
      hmoves.progress.trans hmoves'.progress, hmoves'.expiry.trans hmoves.expiry, ?_,
      fun hactive => hmoves.active (hmoves'.active hactive)⟩
    rcases hmoves'.status with heq | hactive | hmay
    · rw [heq]
      exact hmoves.status
    · exact .inr (.inl (hmoves.active hactive))
    · exact .inr (.inr (hend r r' _ hmay))
  · rcases h'.back id hid with hid | hcreates
    · exact h.back id hid
    · exact .inr hcreates

/-! ### The end of a request -/

/-- The row of a request that is over. -/
def endedDownload (status : PartitionDownloadStatus) (code : String)
    (r : PartitionDownloadRequest) : PartitionDownloadRequest :=
  { r with
    status, errorCode := some code, objectKey := none, byteSize := none, checksumSha256 := none }

lemma terminate_requests (db : Database) (id : String) (row : PartitionDownloadRequest)
    (status : PartitionDownloadStatus) (code : String) (now : ℕ) :
    (db.terminate id row status code now).partitionDownloadRequests =
      db.partitionDownloadRequests.update id (endedDownload status code) := by
  unfold terminate
  cases row.objectKey <;> rfl

lemma terminate_garbage (db : Database) (id : String) (row : PartitionDownloadRequest)
    (status : PartitionDownloadStatus) (code : String) (now : ℕ) {key : ObjectKey}
    (h : row.objectKey ≠ some key) :
    (db.terminate id row status code now).storageGarbage.lookup key =
      db.storageGarbage.lookup key := by
  unfold terminate
  cases hkey : row.objectKey with
  | none => rfl
  | some key' =>
    have hne : key ≠ key' := fun heq => h (heq ▸ hkey)
    exact (db.lookup_enqueueStorageGarbage key' code now none key).1 hne

lemma soundRequest_ended {status : PartitionDownloadStatus} (code : String)
    (hstatus : status = .failed ∨ status = .expired) (h : SoundRequest id r) :
    SoundRequest id (endedDownload status code r) := by
  refine ⟨?_, h.progress, ?_, ?_, nofun⟩
  · rcases hstatus with rfl | rfl
    · exact ⟨nofun, nofun⟩
    · exact ⟨nofun, nofun⟩
  · rcases hstatus with rfl | rfl
    · exact nofun
    · exact nofun
  · rcases hstatus with rfl | rfl
    · exact nofun
    · exact nofun

/-- Writing one request leaves the others sound, and where their archives are queued. -/
lemma step_rewrite {f : PartitionDownloadRequest → PartitionDownloadRequest}
    (hr : db.partitionDownloadRequests.lookup id = some r)
    (hrequests : db'.partitionDownloadRequests = db.partitionDownloadRequests.update id f)
    (hsound : SoundRequest id r → SoundRequest id (f r) ∧ RequestMoves mayEnd r (f r))
    (hself : db.SoundDownloads → ∀ key g, (f r).objectKey = some key →
      db'.storageGarbage.lookup key = some g →
      (f r).expiresAt ≤ g.availableAt ∧ g.processingRunId = none)
    (hothers : SoundRequest id r → ∀ key g, key.downloadRequest ≠ some id →
      db'.storageGarbage.lookup key = some g → db.storageGarbage.lookup key = some g) :
    DownloadsStep mayEnd creates db db' := by
  refine ⟨fun h => ⟨fun id' r' hr' => ?_, fun id' r' key g hr' hkey hg => ?_⟩,
    fun h id' r' hr' => ?_, fun id' hid' => ?_⟩
  · rw [hrequests, Table.lookup_update] at hr'
    split_ifs at hr' with hid
    · subst hid
      rw [hr] at hr'
      cases hr'
      exact (hsound (h.requests id' r hr)).1
    · exact h.requests id' r' hr'
  · rw [hrequests, Table.lookup_update] at hr'
    split_ifs at hr' with hid
    · subst hid
      rw [hr] at hr'
      cases hr'
      exact hself h key g hkey hg
    · have hown := (h.requests id' r' hr').owned key hkey
      have hne : key.downloadRequest ≠ some id := by simp [hown, hid]
      exact h.archives id' r' key g hr' hkey (hothers (h.requests id r hr) key g hne hg)
  · rw [hrequests, Table.lookup_update]
    by_cases hid : id' = id
    · subst hid
      rw [hr] at hr'
      cases hr'
      rw [if_pos rfl, hr]
      exact ⟨_, rfl, (hsound (h.requests id' r hr)).2⟩
    · rw [if_neg hid]
      exact ⟨r', hr', requestMoves_refl r'⟩
  · rw [← AList.lookup_isSome, hrequests, Table.lookup_update] at hid'
    left
    rw [← AList.lookup_isSome]
    split_ifs at hid' with hid
    · subst hid
      simpa using hid'
    · exact hid'

lemma step_terminate {status : PartitionDownloadStatus} (code : String)
    (hr : db.partitionDownloadRequests.lookup id = some r)
    (hstatus : status = .failed ∨ status = .expired)
    (hwhy : r.status.isActive = true ∨ mayEnd r status) :
    DownloadsStep mayEnd creates db (db.terminate id r status code now) := by
  have hover : status.isActive ≠ true := by
    rcases hstatus with rfl | rfl
    · exact nofun
    · exact nofun
  refine step_rewrite hr (terminate_requests ..) (fun h => ⟨soundRequest_ended code hstatus h,
    rfl, le_rfl, le_rfl, .inr hwhy, fun h => absurd h hover⟩) (fun _ key g hkey => ?_)
    fun h key g hne hg => ?_
  · cases hkey
  · rwa [terminate_garbage db id r status code now fun heq => hne (h.owned key heq)] at hg

/-! ### Writes to an active request -/

lemma step_running (hr : db.partitionDownloadRequests.lookup id = some r)
    (hactive : r.status.isActive = true) :
    DownloadsStep mayEnd creates db { db with
      partitionDownloadRequests := db.partitionDownloadRequests.update id fun r =>
        { r with status := .running } } := by
  refine step_rewrite (f := fun r => { r with status := .running }) hr rfl
    (fun h => ⟨⟨?_, h.progress, fun hstatus => ?_, fun _ => h.nonempty hactive, h.owned⟩, rfl,
    le_rfl, le_rfl, .inr (.inl hactive), fun _ => hactive⟩)
    (fun h key g => h.archives id r key g hr) fun _ _ _ _ hg => hg
  · rw [show ({ r with status := .running } : PartitionDownloadRequest).objectKey = none from
      h.no_archive hactive]
    exact ⟨nofun, nofun⟩
  · cases hstatus

lemma step_progress {completed : ℤ} (hr : db.partitionDownloadRequests.lookup id = some r)
    (hactive : r.status.isActive = true) (hleast : (r.completedPartitionCount : ℤ) ≤ completed)
    (hmost : completed ≤ r.partitionCount) :
    DownloadsStep mayEnd creates db { db with
      partitionDownloadRequests := db.partitionDownloadRequests.update id fun r =>
        { r with completedPartitionCount := completed.toNat } } := by
  refine step_rewrite (f := fun r => { r with completedPartitionCount := completed.toNat }) hr rfl
    (fun h => ⟨⟨h.pointer, ?_, fun hstatus => ?_, h.nonempty, h.owned⟩,
    rfl, ?_, le_rfl, .inl rfl, fun h => h⟩) (fun h key g => h.archives id r key g hr)
    fun _ _ _ _ hg => hg
  · change completed.toNat ≤ r.partitionCount
    omega
  · rw [show r.status = .succeeded from hstatus] at hactive
    cases hactive
  · change r.completedPartitionCount ≤ completed.toNat
    omega

lemma step_candidate {key : ObjectKey} {reason : String} {runId : Option String}
    (hr : db.partitionDownloadRequests.lookup id = some r) (hactive : r.status.isActive = true)
    (hkey : key.downloadRequest = some id) :
    DownloadsStep mayEnd creates db (db.enqueueStorageGarbage key reason now runId) := by
  refine ⟨fun h => ⟨h.requests, fun id' r' key' g hr' hkey' hg => ?_⟩,
    fun _ id' r' hr' => ⟨r', hr', requestMoves_refl r'⟩, fun id' hid' => .inl hid'⟩
  have hrow : db.partitionDownloadRequests.lookup id' = some r' := hr'
  have hne : key' ≠ key := by
    rintro rfl
    have hown := (h.requests id' r' hrow).owned key' hkey'
    obtain rfl : id' = id := Option.some.inj (hown.symm.trans hkey)
    rw [hrow] at hr
    cases hr
    rw [(h.requests _ _ hrow).no_archive hactive] at hkey'
    cases hkey'
  rw [(db.lookup_enqueueStorageGarbage key reason now runId key').1 hne] at hg
  exact h.archives id' r' key' g hrow hkey' hg

/-! ### The publication -/

lemma soundRequest_published {artifact : PartitionDownloadArtifact} (h : SoundRequest id r)
    (hactive : r.status.isActive = true) (hkey : artifact.objectKey.downloadRequest = some id) :
    SoundRequest id (publishedDownload artifact r) := by
  refine ⟨?_, le_rfl, fun _ => rfl, nofun, fun key hk => ?_⟩
  · exact ⟨fun _ => ⟨rfl, h.nonempty hactive⟩, fun _ => rfl⟩
  · cases hk
    exact hkey

lemma step_published {artifact : PartitionDownloadArtifact} {garbageId : ℕ}
    {runs : Table String ProcessingRun}
    (hr : db.partitionDownloadRequests.lookup id = some r) (hactive : r.status.isActive = true)
    (hkey : artifact.objectKey.downloadRequest = some id)
    (hexpiry : artifact.expiresAt ≤ r.expiresAt) :
    DownloadsStep mayEnd creates db (({ db with
      processingRuns := runs
      partitionDownloadRequests := db.partitionDownloadRequests.update id
        (publishedDownload artifact)
      storageGarbage := db.storageGarbage.deleteMany fun _ g => g.id = garbageId } :
        Database).enqueueStorageGarbage artifact.objectKey "partition_download_expired"
          artifact.expiresAt none) := by
  refine step_rewrite hr rfl (fun h => ⟨soundRequest_published h hactive hkey, rfl, h.progress,
    hexpiry, .inr (.inl hactive), nofun⟩) (fun _ key g hk hg => ?_) fun _ key g hother hg => ?_
  · -- the request itself: its archive is queued for the time it expires
    cases hk
    obtain ⟨-, row, hrow, havailable, hrun, -⟩ :=
      lookup_enqueueStorageGarbage _ _ _ _ _ artifact.objectKey
    rw [hrow] at hg
    cases hg
    exact ⟨havailable.ge, hrun⟩
  · have hne : key ≠ artifact.objectKey := by
      rintro rfl
      exact hother hkey
    rw [(lookup_enqueueStorageGarbage _ _ _ _ _ _).1 hne, Table.lookup_deleteMany,
      Option.filter_eq_some_iff] at hg
    exact hg.1

end

end Database
end SmeDataCenter
