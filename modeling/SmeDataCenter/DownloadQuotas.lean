import SmeDataCenter.DownloadPreparation

/-!
# Quotas and idempotency of preparations

A call that has counted relies on the count until it creates its request. Meanwhile no other call
of the organization holds the lock, so none creates a request, and whatever else happens only ends
requests: the counts can only fall, and the key stays unknown.
-/

namespace SmeDataCenter

open Runs

/-- The columns of the unique index of the requests. -/
def PartitionDownloadRequest.requestKey (r : PartitionDownloadRequest) :
    String × String × String := (r.orgId, r.requesterId, r.idempotencyKey)

def PrepareDownloadInput.requestKey (input : PrepareDownloadInput) : String × String × String :=
  (input.orgId, input.requesterId, input.idempotencyKey)

def PrepareCall.requestKey (call : PrepareCall) : String × String × String :=
  (call.orgId, call.requesterId, call.idempotencyKey)

variable {r r' : PartitionDownloadRequest}

namespace Database

section

variable {mayEnd : PartitionDownloadRequest → PartitionDownloadStatus → Prop}
  {db db' : Database} {orgId : String} {requesterId : Option String} {now later : ℕ}

/-- No request has the key. -/
def Unknown (db : Database) (key : String × String × String) : Prop :=
  ∀ id r, db.partitionDownloadRequests.lookup id = some r → r.requestKey ≠ key

lemma existingDownload_none {input : PrepareDownloadInput} (h : db.existingDownload input = none) :
    db.Unknown input.requestKey := by
  intro id r hr hkey
  simp only [PartitionDownloadRequest.requestKey, PrepareDownloadInput.requestKey,
    Prod.mk.injEq] at hkey
  have hmem : (id, r) ∈ db.partitionDownloadRequests.findMany fun _ r => r.orgId = input.orgId &&
      r.requesterId = input.requesterId && r.idempotencyKey = input.idempotencyKey :=
    Table.mem_findMany.mpr ⟨hr, by simp [hkey]⟩
  rw [existingDownload, List.head?_eq_none_iff] at h
  rw [h] at hmem
  cases hmem

lemma existingDownload_some {input : PrepareDownloadInput} {id : String}
    (h : db.existingDownload input = some (id, r)) :
    db.partitionDownloadRequests.lookup id = some r ∧ r.requestKey = input.requestKey := by
  obtain ⟨hr, hkey⟩ := Table.mem_findMany.mp (List.mem_of_mem_head? h)
  simp only [Bool.and_eq_true, decide_eq_true_eq] at hkey
  refine ⟨hr, ?_⟩
  rw [PartitionDownloadRequest.requestKey, PrepareDownloadInput.requestKey, hkey.1.1, hkey.1.2,
    hkey.2]

lemma isActiveDownload_iff :
    isActiveDownload orgId requesterId now r = true ↔
      r.orgId = orgId ∧ (∀ id, requesterId = some id → r.requesterId = id) ∧
        r.status.isActive = true ∧ now < r.expiresAt := by
  cases requesterId with
  | none => simp [isActiveDownload, and_assoc]
  | some id => simp [isActiveDownload, and_assoc]

lemma requestKey_of_identity (h : r'.identity = r.identity) :
    r'.requestKey = r.requestKey ∧ r'.requestFingerprint = r.requestFingerprint := by
  simp only [PartitionDownloadRequest.identity, Prod.mk.injEq] at h
  refine ⟨?_, h.2.2.2.1⟩
  rw [PartitionDownloadRequest.requestKey, PartitionDownloadRequest.requestKey, h.1, h.2.1,
    h.2.2.1]

lemma DownloadsStep.back_row (hs : db.SoundDownloads) (h : DownloadsStep mayEnd False db db')
    {id : String} (hr' : db'.partitionDownloadRequests.lookup id = some r') :
    ∃ r, db.partitionDownloadRequests.lookup id = some r ∧ RequestMoves mayEnd r r' := by
  have hmem : id ∈ db'.partitionDownloadRequests := by
    rw [← AList.lookup_isSome, hr']
    rfl
  rcases h.back id hmem with hold | hfalse
  · rw [← AList.lookup_isSome, Option.isSome_iff_exists] at hold
    obtain ⟨r, hr⟩ := hold
    obtain ⟨r'', hr'', hmoves⟩ := h.forth hs id r hr
    rw [hr'] at hr''
    cases hr''
    exact ⟨r, hr, hmoves⟩
  · exact hfalse.elim

lemma activeDownloads_kept (hs : db.SoundDownloads) (h : DownloadsStep mayEnd False db db')
    (hlater : now ≤ later) :
    db'.activeDownloads orgId requesterId later ≤ db.activeDownloads orgId requesterId now := by
  refine Table.length_findMany_le [] fun id r' _ hr' hactive => ?_
  obtain ⟨r, hr, hmoves⟩ := h.back_row hs hr'
  refine ⟨r, hr, ?_⟩
  have hidentity := hmoves.identity
  simp only [PartitionDownloadRequest.identity, Prod.mk.injEq] at hidentity
  rw [isActiveDownload_iff] at hactive ⊢
  obtain ⟨horg, hrequester, hstatus, hexpires⟩ := hactive
  have hexpiry := hmoves.expiry
  refine ⟨hidentity.1 ▸ horg, ?_, hmoves.active hstatus, by omega⟩
  rw [← hidentity.2.1]
  exact hrequester

/-! ### The created request -/

variable {limits : PartitionDownloadLimits} {input : PrepareDownloadInput} {requestId runId : String}

lemma createDownload_ok (h : db.createDownload limits input requestId runId now = .ok db') :
    db.partitionDownloadRequests.lookup requestId = none ∧
      (∀ id, db'.partitionDownloadRequests.lookup id =
        if id = requestId then some (preparedDownload limits input now)
        else db.partitionDownloadRequests.lookup id) ∧
      DownloadsStep (fun _ _ => False) True db db' := by
  unfold createDownload at h
  obtain ⟨downloads, hdownloads, h⟩ := bind_eq_ok.mp h
  have hcreate := createOrThrow_eq_ok.mp hdownloads
  have hsound := soundRequest_prepared limits input requestId now
  have hkeeps : db'.partitionDownloadRequests = downloads ∧
      db'.storageGarbage = db.storageGarbage := by
    split_ifs at h
    · cases h
      exact ⟨rfl, rfl⟩
    · exact createRun_keeps h
  refine ⟨Table.create_fresh hcreate, fun id => ?_,
    step_create hcreate hsound rfl hkeeps.1 hkeeps.2 trivial⟩
  rw [hkeeps.1]
  exact Table.lookup_create hcreate id

lemma active_prepared
    (h : isActiveDownload orgId requesterId later (preparedDownload limits input now) = true) :
    input.partitionIds.length ≠ 0 ∧ orgId = input.orgId ∧
      ∀ id, requesterId = some id → id = input.requesterId := by
  rw [isActiveDownload_iff] at h
  obtain ⟨horg, hrequester, hstatus, -⟩ := h
  refine ⟨fun hempty => ?_, horg.symm, fun id hid => (hrequester id hid).symm⟩
  simp [preparedDownload, hempty, PartitionDownloadStatus.isActive] at hstatus

lemma activeDownloads_created (h : db.createDownload limits input requestId runId now = .ok db') :
    db'.activeDownloads orgId requesterId later ≤
      db.activeDownloads orgId requesterId later + 1 := by
  obtain ⟨-, hlookup, -⟩ := createDownload_ok h
  refine Table.length_findMany_le [requestId] fun id r' hne hr' hactive => ⟨r', ?_, hactive⟩
  rwa [hlookup, if_neg (mt List.mem_singleton.mpr hne)] at hr'

lemma activeDownloads_created_other
    (h : db.createDownload limits input requestId runId now = .ok db')
    (hother : isActiveDownload orgId requesterId later (preparedDownload limits input now) ≠ true) :
    db'.activeDownloads orgId requesterId later ≤ db.activeDownloads orgId requesterId later := by
  obtain ⟨-, hlookup, -⟩ := createDownload_ok h
  refine Table.length_findMany_le [] fun id r' _ hr' hactive => ⟨r', ?_, hactive⟩
  rw [hlookup] at hr'
  split_ifs at hr' with hid
  · cases hr'
    exact absurd hactive hother
  · exact hr'

end

end Database

namespace PrepareSystem

/-! ### The invariant -/

/-- A call that has found no request under its key. -/
structure Waiting (services : PrepareServices) (db : Database) (call : PrepareCall)
    (input : PrepareDownloadInput) : Prop where
  key : input.requestKey = call.requestKey
  fingerprint : call.fingerprint services.normalize services.hash = .ok input.fingerprint
  unknown : db.Unknown input.requestKey

/-- What a call that has come to a stage relies on. -/
def SoundStage (services : PrepareServices) (db : Database) (clock : ℕ) (p : Preparation) : Prop :=
  match p.stage with
  | .called | .locked =>
    ∃ fingerprint, p.call.fingerprint services.normalize services.hash = .ok fingerprint
  | .absent input => Waiting services db p.call input
  | .counted input countedAt =>
    Waiting services db p.call input ∧ countedAt ≤ clock ∧
      db.activeDownloads input.orgId none clock < services.limits.maxActivePerOrg
  | .admitted input =>
    Waiting services db p.call input ∧ (input.partitionIds.length = 0 ∨
      (db.activeDownloads input.orgId none clock < services.limits.maxActivePerOrg ∧
        db.activeDownloads input.orgId (some input.requesterId) clock <
          services.limits.maxActivePerRequester))
  | .returned requestId =>
    ∃ r, db.partitionDownloadRequests.lookup requestId = some r ∧
      r.requestKey = p.call.requestKey ∧
      p.call.fingerprint services.normalize services.hash = .ok r.requestFingerprint
  | .refused _ => True

/-- At most one call of an organization holds its lock. -/
def Alone (calls : Table ℕ Preparation) : Prop :=
  ∀ i j p q, calls.lookup i = some p → calls.lookup j = some q → p.stage.holdsLock = true →
    q.stage.holdsLock = true → p.call.orgId = q.call.orgId → i = j

/-- What holds in every state of the system. -/
structure Sound (services : PrepareServices) (s : PrepareSystem) : Prop where
  downloads : s.db.SoundDownloads
  organizations : ∀ orgId,
    s.db.activeDownloads orgId none s.clock ≤ services.limits.maxActivePerOrg
  requesters : ∀ orgId requesterId, s.db.activeDownloads orgId (some requesterId) s.clock ≤
    services.limits.maxActivePerRequester
  distinct : ∀ id id' r r', s.db.partitionDownloadRequests.lookup id = some r →
    s.db.partitionDownloadRequests.lookup id' = some r' → r.requestKey = r'.requestKey → id = id'
  alone : Alone s.calls
  stages : ∀ i p, s.calls.lookup i = some p → SoundStage services s.db s.clock p

/-- Time passes, and no request is created. -/
def Kept (db : Database) (clock : ℕ) (db' : Database) (clock' : ℕ) : Prop :=
  clock ≤ clock' ∧ ∃ mayEnd, Database.DownloadsStep mayEnd False db db'

section

variable {services : PrepareServices} {s : PrepareSystem} {db db' : Database} {clock clock' : ℕ}
  {p : Preparation} {id : ℕ}

lemma Kept.refl (db : Database) (clock : ℕ) : Kept db clock db clock :=
  ⟨le_rfl, fun _ _ => False, .refl db⟩

lemma Kept.active (hs : db.SoundDownloads) (h : Kept db clock db' clock') (orgId : String)
    (requesterId : Option String) :
    db'.activeDownloads orgId requesterId clock' ≤ db.activeDownloads orgId requesterId clock := by
  obtain ⟨hclock, mayEnd, hstep⟩ := h
  exact Database.activeDownloads_kept hs hstep hclock

lemma Kept.back (hs : db.SoundDownloads) (h : Kept db clock db' clock') {id : String}
    (hr' : db'.partitionDownloadRequests.lookup id = some r') :
    ∃ r, db.partitionDownloadRequests.lookup id = some r ∧ r'.identity = r.identity := by
  obtain ⟨-, mayEnd, hstep⟩ := h
  obtain ⟨r, hr, hmoves⟩ := hstep.back_row hs hr'
  exact ⟨r, hr, hmoves.identity⟩

lemma Kept.forth (hs : db.SoundDownloads) (h : Kept db clock db' clock') {id : String}
    (hr : db.partitionDownloadRequests.lookup id = some r) :
    ∃ r', db'.partitionDownloadRequests.lookup id = some r' ∧ r'.identity = r.identity := by
  obtain ⟨-, mayEnd, hstep⟩ := h
  obtain ⟨r', hr', hmoves⟩ := hstep.forth hs id r hr
  exact ⟨r', hr', hmoves.identity⟩

lemma Waiting.kept {call : PrepareCall} {input : PrepareDownloadInput} (hs : db.SoundDownloads)
    (h : Kept db clock db' clock') (hw : Waiting services db call input) :
    Waiting services db' call input := by
  refine ⟨hw.key, hw.fingerprint, fun id r' hr' hkey => ?_⟩
  obtain ⟨r, hr, hidentity⟩ := h.back hs hr'
  exact hw.unknown id r hr ((Database.requestKey_of_identity hidentity).1.symm.trans hkey)

lemma SoundStage.kept (hs : db.SoundDownloads) (h : Kept db clock db' clock')
    (hp : SoundStage services db clock p) : SoundStage services db' clock' p := by
  unfold SoundStage at hp ⊢
  split at hp
  · exact hp
  · exact hp
  · exact hp.kept hs h
  · rename_i input countedAt _
    obtain ⟨hw, hcounted, horg⟩ := hp
    exact ⟨hw.kept hs h, hcounted.trans h.1, (h.active hs _ _).trans_lt horg⟩
  · rename_i input _
    obtain ⟨hw, hroom⟩ := hp
    refine ⟨hw.kept hs h, hroom.imp_right fun hroom => ?_⟩
    exact ⟨(h.active hs _ _).trans_lt hroom.1, (h.active hs _ _).trans_lt hroom.2⟩
  · obtain ⟨r, hr, hkey, hfingerprint⟩ := hp
    obtain ⟨r', hr', hidentity⟩ := h.forth hs hr
    obtain ⟨hkey', hfingerprint'⟩ := Database.requestKey_of_identity hidentity
    exact ⟨r', hr', hkey'.trans hkey, hfingerprint' ▸ hfingerprint⟩
  · trivial

lemma Sound.of_kept {calls : Table ℕ Preparation} (h : Sound services s)
    (hkept : Kept s.db s.clock db' clock') (halone : Alone calls)
    (hstages : ∀ i p, calls.lookup i = some p → SoundStage services db' clock' p) :
    Sound services ⟨db', clock', calls⟩ := by
  have hs := h.downloads
  refine ⟨?_, fun orgId => (hkept.active hs _ _).trans (h.organizations orgId),
    fun orgId requesterId => (hkept.active hs _ _).trans (h.requesters orgId requesterId),
    fun id id' r r' hr hr' hkey => ?_, halone, hstages⟩
  · obtain ⟨-, mayEnd, hstep⟩ := hkept
    exact hstep.sound hs
  · obtain ⟨r₀, hr₀, hidentity⟩ := hkept.back hs hr
    obtain ⟨r₀', hr₀', hidentity'⟩ := hkept.back hs hr'
    refine h.distinct id id' r₀ r₀' hr₀ hr₀' ?_
    rw [← (Database.requestKey_of_identity hidentity).1,
      ← (Database.requestKey_of_identity hidentity').1, hkey]

lemma Alone.insert {calls : Table ℕ Preparation} {stage : PrepareStage} (h : Alone calls)
    (hp : calls.lookup id = some p)
    (hstage : stage.holdsLock = true → p.stage.holdsLock = true ∨
      ∀ j q, calls.lookup j = some q → q.stage.holdsLock = true → q.call.orgId ≠ p.call.orgId) :
    Alone (calls.insert id { p with stage }) := by
  -- a call that holds the lock beside the one that goes on would have held it with it
  have hother : ∀ j q, calls.lookup j = some q → j ≠ id → q.stage.holdsLock = true →
      stage.holdsLock = true → q.call.orgId ≠ p.call.orgId := by
    intro j q hq hne hlock hnew horg
    rcases hstage hnew with hold | hfree
    · exact hne (h j id q p hq hp hlock hold horg)
    · exact hfree j q hq hlock horg
  intro i j q q' hi hj hlock hlock' horg
  rw [Table.lookup_insert'] at hi hj
  split_ifs at hi with hiid
  · split_ifs at hj with hjid
    · rw [hiid, hjid]
    · cases hi
      exact absurd horg.symm (hother j q' hj hjid hlock' hlock)
  · split_ifs at hj with hjid
    · cases hj
      exact absurd horg (hother i q hi hiid hlock hlock')
    · exact h i j q q' hi hj hlock hlock' horg

lemma Sound.advance (h : Sound services s) {f : Advance}
    (hf : ∀ p stage db, s.calls.lookup id = some p → SoundStage services s.db s.clock p →
      f s p = some (stage, db) → Kept s.db s.clock db s.clock ∧
        SoundStage services db s.clock { p with stage } ∧
        (stage.holdsLock = true → p.stage.holdsLock = true ∨ ∀ j q, s.calls.lookup j = some q →
          q.stage.holdsLock = true → q.call.orgId ≠ p.call.orgId)) :
    Sound services (s.advance id f) := by
  unfold PrepareSystem.advance
  split
  · exact h
  rename_i p hp
  split
  · exact h
  rename_i stage db hstage
  obtain ⟨hkept, hsound, hlock⟩ := hf p stage db hp (h.stages id p hp) hstage
  refine h.of_kept hkept (h.alone.insert hp hlock) fun i q hq => ?_
  rw [Table.lookup_insert'] at hq
  split_ifs at hq with hid
  · cases hq
    exact hsound
  · exact (h.stages i q hq).kept h.downloads hkept

/-! ### Every step -/

lemma SoundStage.fingerprint (h : SoundStage services db clock p)
    (hstage : p.stage.holdsLock = true) :
    ∃ fingerprint, p.call.fingerprint services.normalize services.hash = .ok fingerprint := by
  unfold SoundStage at h
  split at h
  · exact h
  · exact h
  · exact ⟨_, h.fingerprint⟩
  · exact ⟨_, h.1.fingerprint⟩
  · exact ⟨_, h.1.fingerprint⟩
  · rename_i hreturned
    rw [hreturned] at hstage
    cases hstage
  · rename_i hrefused
    rw [hrefused] at hstage
    cases hstage

lemma kept_expireRow (requestId : String) {row : PartitionDownloadRequest}
    (hrow : db.partitionDownloadRequests.lookup requestId = some row) (now : ℕ) :
    Kept db clock (db.expireRow requestId row now now) clock := by
  rcases db.expireRow_cases requestId row now now with heq | ⟨hexpired, heq⟩
  · rw [heq]
    exact .refl db clock
  · rw [heq]
    exact ⟨le_rfl, fun r status => status = .expired ∧ r.expiresAt ≤ now,
      Database.step_terminate _ hrow (.inr rfl) (.inr ⟨rfl, hexpired⟩)⟩

lemma sound_lock (h : Sound services s) : Sound services (s.advance id lockOrganization) := by
  refine h.advance fun p stage db hp hsound hstage => ?_
  unfold lockOrganization at hstage
  split at hstage
  · rename_i hcalled
    split_ifs at hstage with hfree
    cases hstage
    rw [SoundStage, hcalled] at hsound
    refine ⟨.refl _ _, hsound, fun _ => .inr fun j q hq hlock horg => ?_⟩
    rw [lockFree, List.isEmpty_iff] at hfree
    have hmem : (j, q) ∈ s.calls.findMany fun _ q =>
        q.call.orgId = p.call.orgId && q.stage.holdsLock :=
      Table.mem_findMany.mpr ⟨hq, by simp [horg, hlock]⟩
    rw [hfree] at hmem
    cases hmem
  · cases hstage

lemma sound_look (h : Sound services s) (refused : Option String) (partitionIds : List String)
    (totalBytes : ℕ) :
    Sound services (s.advance id (look services refused partitionIds totalBytes)) := by
  refine h.advance fun p stage db hp hsound hstage => ?_
  unfold look at hstage
  split at hstage
  · rename_i fingerprint hlocked hfingerprint
    have hlock : p.stage.holdsLock = true := by rw [hlocked]; rfl
    dsimp only at hstage
    split at hstage
    · cases hstage
      exact ⟨.refl _ _, trivial, nofun⟩
    · rename_i existingId existing hexisting
      obtain ⟨hrow, hkey⟩ := Database.existingDownload_some hexisting
      split_ifs at hstage with hconflict
      · cases hstage
        exact ⟨.refl _ _, trivial, nofun⟩
      · cases hstage
        have hkept : Kept s.db s.clock (s.db.expireRow existingId existing s.clock s.clock) s.clock :=
          kept_expireRow existingId hrow s.clock
        obtain ⟨row, hrow', hidentity⟩ := hkept.forth h.downloads hrow
        obtain ⟨hkey', hfingerprint'⟩ := Database.requestKey_of_identity hidentity
        refine ⟨hkept, ⟨row, hrow', hkey'.trans hkey, ?_⟩, nofun⟩
        have hsame : existing.requestFingerprint = fingerprint := by simpa using hconflict
        rw [hfingerprint', hsame]
        exact hfingerprint
    · rename_i hnone
      have hwaiting : Waiting services s.db p.call
          (p.call.input fingerprint partitionIds totalBytes) :=
        ⟨rfl, hfingerprint, Database.existingDownload_none hnone⟩
      split_ifs at hstage with hsize hempty
      · cases hstage
        exact ⟨.refl _ _, trivial, nofun⟩
      · cases hstage
        exact ⟨.refl _ _, hwaiting, fun _ => .inl hlock⟩
      · cases hstage
        exact ⟨.refl _ _, ⟨hwaiting, .inl (not_not.mp hempty)⟩, fun _ => .inl hlock⟩
  · cases hstage

lemma sound_countOrg (h : Sound services s) :
    Sound services (s.advance id (countOrg services)) := by
  refine h.advance fun p stage db hp hsound hstage => ?_
  unfold countOrg at hstage
  split at hstage
  · rename_i input habsent
    rw [SoundStage, habsent] at hsound
    split_ifs at hstage with hfull
    · cases hstage
      exact ⟨.refl _ _, trivial, nofun⟩
    · cases hstage
      exact ⟨.refl _ _, ⟨hsound, le_rfl, by omega⟩, fun _ => .inl (by rw [habsent]; rfl)⟩
  · cases hstage

lemma sound_countRequester (h : Sound services s) :
    Sound services (s.advance id (countRequester services)) := by
  refine h.advance fun p stage db hp hsound hstage => ?_
  unfold countRequester at hstage
  split at hstage
  · rename_i input countedAt hcounted
    rw [SoundStage, hcounted] at hsound
    obtain ⟨hwaiting, hle, horg⟩ := hsound
    split_ifs at hstage with hfull
    · cases hstage
      exact ⟨.refl _ _, trivial, nofun⟩
    · cases hstage
      -- fewer requests are active now than at the time of the count
      have hkept : Kept s.db countedAt s.db s.clock := ⟨hle, fun _ _ => False, .refl s.db⟩
      have hnow := hkept.active h.downloads input.orgId (some input.requesterId)
      exact ⟨.refl _ _, ⟨hwaiting, .inr ⟨horg, by omega⟩⟩,
        fun _ => .inl (by rw [hcounted]; rfl)⟩
  · cases hstage

lemma sound_rollBack (h : Sound services s) : Sound services (s.advance id rollBack) := by
  refine h.advance fun p stage db hp hsound hstage => ?_
  unfold rollBack at hstage
  split_ifs at hstage with hlock
  cases hstage
  exact ⟨.refl _ _, hsound.fingerprint hlock, nofun⟩

lemma sound_loseReply (h : Sound services s) : Sound services (s.advance id loseReply) := by
  refine h.advance fun p stage db hp hsound hstage => ?_
  unfold loseReply at hstage
  split at hstage
  · rename_i requestId hreturned
    cases hstage
    rw [SoundStage, hreturned] at hsound
    obtain ⟨r, -, -, hfingerprint⟩ := hsound
    exact ⟨.refl _ _, ⟨_, hfingerprint⟩, nofun⟩
  · cases hstage

lemma SoundStage.created {limits : PartitionDownloadLimits} {input : PrepareDownloadInput}
    {requestId runId : String} (h : db.createDownload limits input requestId runId clock = .ok db')
    (hother : p.stage.holdsLock = true → p.call.orgId ≠ input.orgId)
    (hp : SoundStage services db clock p) : SoundStage services db' clock p := by
  obtain ⟨hfresh, hlookup, -⟩ := Database.createDownload_ok h
  have hkeys : ∀ {input' : PrepareDownloadInput}, p.stage.holdsLock = true →
      Waiting services db p.call input' →
      input'.orgId ≠ input.orgId ∧ Waiting services db' p.call input' := by
    intro input' hlock hw
    have horg : input'.orgId = p.call.orgId := congrArg Prod.fst hw.key
    have hne : input'.orgId ≠ input.orgId := horg ▸ hother hlock
    refine ⟨hne, hw.key, hw.fingerprint, fun id r hr hkey => ?_⟩
    rw [hlookup] at hr
    split_ifs at hr with hid
    · cases hr
      exact hne (congrArg Prod.fst hkey).symm
    · exact hw.unknown id r hr hkey
  have hcount : ∀ {orgId : String} (requesterId : Option String), orgId ≠ input.orgId →
      db'.activeDownloads orgId requesterId clock ≤
        db.activeDownloads orgId requesterId clock := fun requesterId hne =>
    Database.activeDownloads_created_other h fun hactive =>
      hne (Database.active_prepared hactive).2.1
  unfold SoundStage at hp ⊢
  split at hp
  · exact hp
  · exact hp
  · rename_i hstage
    exact (hkeys (by rw [hstage]; rfl) hp).2
  · rename_i input' countedAt hstage
    obtain ⟨hw, hle, horg⟩ := hp
    obtain ⟨hne, hw'⟩ := hkeys (by rw [hstage]; rfl) hw
    exact ⟨hw', hle, (hcount none hne).trans_lt horg⟩
  · rename_i input' hstage
    obtain ⟨hw, hroom⟩ := hp
    obtain ⟨hne, hw'⟩ := hkeys (by rw [hstage]; rfl) hw
    refine ⟨hw', hroom.imp_right fun hroom => ?_⟩
    exact ⟨(hcount none hne).trans_lt hroom.1, (hcount _ hne).trans_lt hroom.2⟩
  · obtain ⟨r, hr, hrest⟩ := hp
    refine ⟨r, ?_, hrest⟩
    rw [hlookup, if_neg]
    · exact hr
    · rintro rfl
      rw [hfresh] at hr
      cases hr
  · trivial

lemma active_admitted {input : PrepareDownloadInput} {requestId runId : String}
    (h : Sound services s)
    (hroom : input.partitionIds.length = 0 ∨
      (s.db.activeDownloads input.orgId none s.clock < services.limits.maxActivePerOrg ∧
        s.db.activeDownloads input.orgId (some input.requesterId) s.clock <
          services.limits.maxActivePerRequester))
    (hcreate : s.db.createDownload services.limits input requestId runId s.clock = .ok db')
    (orgId : String) :
    db'.activeDownloads orgId none s.clock ≤ services.limits.maxActivePerOrg ∧
      ∀ requesterId, db'.activeDownloads orgId (some requesterId) s.clock ≤
        services.limits.maxActivePerRequester := by
  refine ⟨?_, fun requesterId => ?_⟩
  · by_cases hactive : Database.isActiveDownload orgId none s.clock
        (Database.preparedDownload services.limits input s.clock) = true
    · obtain ⟨hnonempty, rfl, -⟩ := Database.active_prepared hactive
      have hlt := (hroom.resolve_left hnonempty).1
      have hle : db'.activeDownloads input.orgId none s.clock ≤
          s.db.activeDownloads input.orgId none s.clock + 1 :=
        Database.activeDownloads_created hcreate
      omega
    · exact (Database.activeDownloads_created_other hcreate hactive).trans (h.organizations orgId)
  · by_cases hactive : Database.isActiveDownload orgId (some requesterId) s.clock
        (Database.preparedDownload services.limits input s.clock) = true
    · obtain ⟨hnonempty, rfl, hrequester⟩ := Database.active_prepared hactive
      obtain rfl := hrequester requesterId rfl
      have hlt := (hroom.resolve_left hnonempty).2
      have hle : db'.activeDownloads input.orgId (some input.requesterId) s.clock ≤
          s.db.activeDownloads input.orgId (some input.requesterId) s.clock + 1 :=
        Database.activeDownloads_created hcreate
      omega
    · exact (Database.activeDownloads_created_other hcreate hactive).trans
        (h.requesters orgId requesterId)

lemma sound_create (h : Sound services s) (requestId runId : String) :
    Sound services (s.advance id (create services requestId runId)) := by
  cases hp : s.calls.lookup id with
  | none =>
    rw [PrepareSystem.advance, hp]
    exact h
  | some p =>
    cases hstage : p.stage with
    | admitted input =>
      have hsound := h.stages id p hp
      rw [SoundStage, hstage] at hsound
      obtain ⟨hwaiting, hroom⟩ := hsound
      have horg : input.orgId = p.call.orgId := congrArg Prod.fst hwaiting.key
      have hlocked : p.stage.holdsLock = true := by rw [hstage]; rfl
      cases hcreate : s.db.createDownload services.limits input requestId runId s.clock with
      | error error =>
        refine h.advance fun p' stage db hp' _ hf => ?_
        rw [hp] at hp'
        cases hp'
        simp only [create, hstage, hcreate] at hf
        cases hf
        exact ⟨.refl _ _, trivial, nofun⟩
      | ok db =>
        have hadvance : s.advance id (create services requestId runId) =
            ⟨db, s.clock, s.calls.insert id { p with stage := .returned requestId }⟩ := by
          simp only [PrepareSystem.advance, hp, create, hstage, hcreate]
        obtain ⟨hfresh, hlookup, hstep⟩ := Database.createDownload_ok hcreate
        rw [hadvance]
        refine ⟨hstep.sound h.downloads, fun orgId => (active_admitted h hroom hcreate orgId).1,
          fun orgId => (active_admitted h hroom hcreate orgId).2, fun i i' r r' hr hr' hkey => ?_,
          h.alone.insert hp nofun, fun i q hq => ?_⟩
        · -- the new request is the first under its key
          have hnew : (Database.preparedDownload services.limits input s.clock).requestKey =
            input.requestKey := rfl
          dsimp only at hr hr'
          rw [hlookup] at hr hr'
          split_ifs at hr with hi
          · split_ifs at hr' with hi'
            · rw [hi, hi']
            · cases hr
              exact absurd (hkey.symm.trans hnew) (hwaiting.unknown i' r' hr')
          · split_ifs at hr' with hi'
            · cases hr'
              exact absurd (hkey.trans hnew) (hwaiting.unknown i r hr)
            · exact h.distinct i i' r r' hr hr' hkey
        · rw [Table.lookup_insert'] at hq
          split_ifs at hq with hi
          · cases hq
            refine ⟨_, (hlookup requestId).trans (if_pos rfl), hwaiting.key, hwaiting.fingerprint⟩
          · refine (h.stages i q hq).created hcreate fun hlock heq => hi ?_
            exact h.alone i id q p hq hp hlock hlocked (heq.trans horg)
    | _ =>
      refine h.advance fun p' stage db hp' _ hf => ?_
      rw [hp] at hp'
      cases hp'
      simp only [create, hstage] at hf
      cases hf

lemma sound_arrive (h : Sound services s) (call : PrepareCall) :
    Sound services (s.arrive services id call) := by
  unfold arrive
  split_ifs with hid
  · exact h
  dsimp only
  refine h.of_kept (.refl _ _) (fun i j p q hi hj hlock hlock' horg => ?_) fun i p hi => ?_
  · rw [Table.lookup_insert'] at hi hj
    split_ifs at hi with hiid
    · cases hi
      split at hlock <;> cases hlock
    · split_ifs at hj with hjid
      · cases hj
        split at hlock' <;> cases hlock'
      · exact h.alone i j p q hi hj hlock hlock' horg
  · rw [Table.lookup_insert'] at hi
    split_ifs at hi with hiid
    · cases hi
      cases hfingerprint : call.fingerprint services.normalize services.hash with
      | ok fingerprint => exact ⟨fingerprint, hfingerprint⟩
      | error error => trivial
    · exact h.stages i p hi

lemma kept_other {op : Operation} (hop : op.ofDownloads = true) (hcreate : op.mayCreate = false) :
    Kept db clock (db.step services.config op) clock := by
  refine ⟨le_rfl, op.mayEnd, ?_⟩
  have hstep : Database.DownloadsStep op.mayEnd op.mayCreate db (db.step services.config op) :=
    Database.step_download_operation op hop
  rw [hcreate] at hstep
  exact ⟨hstep.sound, hstep.forth, fun id hid => (hstep.back id hid).imp_right nofun⟩

/-- **Every step** keeps the invariant. -/
theorem Sound.step (h : Sound services s) (action : PrepareAction) :
    Sound services (s.step services action) := by
  cases action with
  | arrive id call => exact sound_arrive h call
  | lock id => exact sound_lock h
  | look id refused partitionIds totalBytes => exact sound_look h refused partitionIds totalBytes
  | countOrg id => exact sound_countOrg h
  | countRequester id => exact sound_countRequester h
  | create id requestId runId => exact sound_create h requestId runId
  | rollBack id => exact sound_rollBack h
  | loseReply id => exact sound_loseReply h
  | other op =>
    dsimp only [PrepareSystem.step]
    split_ifs with hop
    · simp only [Bool.and_eq_true, Bool.not_eq_true'] at hop
      have hkept : Kept s.db s.clock (s.db.step services.config op) s.clock :=
        kept_other hop.1 hop.2
      exact h.of_kept hkept h.alone fun i p hp => (h.stages i p hp).kept h.downloads hkept
    · exact h
  | tick milliseconds =>
    have hkept : Kept s.db s.clock s.db (s.clock + milliseconds) :=
      ⟨Nat.le_add_right _ _, fun _ _ => False, .refl s.db⟩
    exact h.of_kept hkept h.alone fun i p hp => (h.stages i p hp).kept h.downloads hkept

lemma sound_start : Sound services {} := by
  refine ⟨Database.soundDownloads_empty, fun orgId => ?_, fun orgId requesterId => ?_,
    fun id id' r r' hr => ?_, fun i j p q hi => ?_, fun i p hi => ?_⟩
  · exact Nat.zero_le _
  · exact Nat.zero_le _
  · cases hr
  · cases hi
  · cases hi

lemma sound_run (actions : List PrepareAction) :
    Sound services (Runs.run (step services) {} actions) :=
  run_invariant' (fun _ action h => h.step action) actions sound_start

/-! ### Every run -/

/-- The requests are as some operation on downloads leaves them. -/
def Moved (db db' : Database) : Prop :=
  ∃ mayEnd creates, Database.DownloadsStep mayEnd creates db db'

lemma Moved.refl (db : Database) : Moved db db := ⟨fun _ _ => False, False, .refl db⟩

lemma Kept.moved (h : Kept db clock db' clock') : Moved db db' := by
  obtain ⟨-, mayEnd, hstep⟩ := h
  exact ⟨mayEnd, False, hstep⟩

lemma moved_advance {f : Advance} (hf : ∀ p stage db, f s p = some (stage, db) → Moved s.db db) :
    Moved s.db (s.advance id f).db := by
  unfold PrepareSystem.advance
  split
  · exact .refl _
  rename_i p _
  split
  · exact .refl _
  · rename_i stage db hstage
    exact hf p stage db hstage

lemma moved_step (action : PrepareAction) : Moved s.db (s.step services action).db := by
  cases action with
  | arrive id call =>
    dsimp only [PrepareSystem.step, arrive]
    split_ifs <;> exact .refl _
  | lock id =>
    refine moved_advance fun p stage db h => ?_
    unfold lockOrganization at h
    split at h
    · split_ifs at h
      cases h
      exact .refl _
    · cases h
  | look id refused partitionIds totalBytes =>
    refine moved_advance fun p stage db h => ?_
    unfold look at h
    split at h
    · dsimp only at h
      split at h
      · cases h
        exact .refl _
      · rename_i existingId existing hexisting
        split_ifs at h
        · cases h
          exact .refl _
        · cases h
          obtain ⟨hrow, -⟩ := Database.existingDownload_some hexisting
          have hkept : Kept s.db s.clock (s.db.expireRow existingId existing s.clock s.clock)
              s.clock := kept_expireRow existingId hrow s.clock
          exact hkept.moved
      · split_ifs at h <;> cases h <;> exact .refl _
    · cases h
  | countOrg id =>
    refine moved_advance fun p stage db h => ?_
    unfold countOrg at h
    split at h
    · split_ifs at h <;> cases h <;> exact .refl _
    · cases h
  | countRequester id =>
    refine moved_advance fun p stage db h => ?_
    unfold countRequester at h
    split at h
    · split_ifs at h <;> cases h <;> exact .refl _
    · cases h
  | create id requestId runId =>
    refine moved_advance fun p stage db h => ?_
    unfold create at h
    split at h
    · split at h
      · rename_i hcreate
        cases h
        exact ⟨_, _, (Database.createDownload_ok hcreate).2.2⟩
      · cases h
        exact .refl _
    · cases h
  | rollBack id =>
    refine moved_advance fun p stage db h => ?_
    unfold rollBack at h
    split_ifs at h
    cases h
    exact .refl _
  | loseReply id =>
    refine moved_advance fun p stage db h => ?_
    unfold loseReply at h
    split at h
    · cases h
      exact .refl _
    · cases h
  | other op =>
    dsimp only [PrepareSystem.step]
    split_ifs with hop
    · simp only [Bool.and_eq_true, Bool.not_eq_true'] at hop
      have hkept : Kept s.db s.clock (s.db.step services.config op) s.clock :=
        kept_other hop.1 hop.2
      exact hkept.moved
    · exact .refl _
  | tick milliseconds => exact .refl _

lemma request_stays (h : Sound services s) (actions : List PrepareAction) {requestId : String}
    (hr : s.db.partitionDownloadRequests.lookup requestId = some r) :
    ∃ r', (Runs.run (step services) s actions).db.partitionDownloadRequests.lookup requestId =
      some r' ∧ r'.identity = r.identity := by
  induction actions generalizing s r with
  | nil => exact ⟨r, hr, rfl⟩
  | cons action actions ih =>
    have hmoved : Moved s.db (s.step services action).db := moved_step action
    obtain ⟨mayEnd, creates, hstep⟩ := hmoved
    obtain ⟨r', hr', hmoves⟩ := hstep.forth h.downloads requestId r hr
    obtain ⟨r'', hr'', hidentity⟩ := ih (h.step action) hr'
    exact ⟨r'', hr'', hidentity.trans hmoves.identity⟩

lemma look_existing (h : Sound services s) {j : ℕ} {q : Preparation}
    {requestId fingerprint : String}
    (hr : s.db.partitionDownloadRequests.lookup requestId = some r)
    (hkey : r.requestKey = q.call.requestKey) (hq : s.calls.lookup j = some q)
    (hlocked : q.stage = .locked)
    (hfingerprint : q.call.fingerprint services.normalize services.hash = .ok fingerprint)
    (refused : Option String) (partitionIds : List String) (totalBytes : ℕ) :
    ((s.step services (.look j refused partitionIds totalBytes)).calls.lookup j).map (·.stage) =
      some (match refused with
        | some code => .refused (.thrown code)
        | none =>
          if r.requestFingerprint = fingerprint then .returned requestId
          else .refused (.thrown "IDEMPOTENCY_CONFLICT")) := by
  cases hexisting : s.db.existingDownload (q.call.input fingerprint partitionIds totalBytes) with
  | none => exact absurd hkey (Database.existingDownload_none hexisting requestId r hr)
  | some found =>
    obtain ⟨existingId, existing⟩ := found
    obtain ⟨hrow, hkey'⟩ := Database.existingDownload_some hexisting
    obtain rfl : existingId = requestId :=
      h.distinct existingId requestId existing r hrow hr (hkey'.trans hkey.symm)
    rw [hr] at hrow
    cases hrow
    simp only [PrepareSystem.step, PrepareSystem.advance, hq, look, hlocked, hfingerprint,
      hexisting]
    cases refused with
    | some code => simp
    | none =>
      by_cases hsame : r.requestFingerprint = fingerprint
      · simp [hsame]
      · simp [hsame]

/-- **Quotas and idempotency.** After any steps of any calls: the active requests of an
organization that have not expired are within its limit, and those of each requester within theirs.
When a call has returned a request, then whatever else happens, a call with the same requester and
key returns that request or none; when it comes to look, it returns that request if its scope has
the same fingerprint, and is refused with a conflict if it has not, unless the requester is
refused before. -/
theorem download_preparation (services : PrepareServices) (before after : List PrepareAction) :
    let s := Runs.run (step services) {} before
    let t := Runs.run (step services) s after
    (∀ orgId, s.db.activeDownloads orgId none s.clock ≤ services.limits.maxActivePerOrg ∧
      ∀ requesterId, s.db.activeDownloads orgId (some requesterId) s.clock ≤
        services.limits.maxActivePerRequester) ∧
    ∀ i j p q requestId, s.calls.lookup i = some p → p.stage = .returned requestId →
      t.calls.lookup j = some q → q.call.requestKey = p.call.requestKey →
      (∀ requestId', q.stage = .returned requestId' → requestId' = requestId ∧
        q.call.fingerprint services.normalize services.hash =
          p.call.fingerprint services.normalize services.hash) ∧
      (q.stage = .locked → ∀ refused partitionIds totalBytes,
        ((t.step services (.look j refused partitionIds totalBytes)).calls.lookup j).map (·.stage) =
          some (match refused with
            | some code => .refused (.thrown code)
            | none =>
              if p.call.fingerprint services.normalize services.hash =
                  q.call.fingerprint services.normalize services.hash then .returned requestId
              else .refused (.thrown "IDEMPOTENCY_CONFLICT"))) := by
  intro s t
  have hs : Sound services s := sound_run before
  have ht : Sound services t := run_invariant' (fun _ action h => h.step action) after hs
  refine ⟨fun orgId => ⟨hs.organizations orgId, hs.requesters orgId⟩,
    fun i j p q requestId hp hreturned hq hkey => ?_⟩
  -- the request that was returned is still there
  have hsound := hs.stages i p hp
  rw [SoundStage, hreturned] at hsound
  obtain ⟨r, hr, hrkey, hrfingerprint⟩ := hsound
  obtain ⟨r', hr', hidentity⟩ := request_stays hs after hr
  obtain ⟨hkey', hfingerprint'⟩ := Database.requestKey_of_identity hidentity
  have hsame : r'.requestKey = q.call.requestKey := (hkey'.trans hrkey).trans hkey.symm
  constructor
  · intro requestId' hreturned'
    have hsound' := ht.stages j q hq
    rw [SoundStage, hreturned'] at hsound'
    obtain ⟨r'', hr'', hrkey'', hrfingerprint''⟩ := hsound'
    obtain rfl := ht.distinct requestId' requestId r'' r' hr'' hr' (hrkey''.trans hsame.symm)
    rw [hr'] at hr''
    cases hr''
    exact ⟨rfl, by rw [hrfingerprint'', hrfingerprint, hfingerprint']⟩
  · intro hlocked refused partitionIds totalBytes
    have hsound' := ht.stages j q hq
    rw [SoundStage, hlocked] at hsound'
    obtain ⟨fingerprint, hfingerprint⟩ := hsound'
    rw [look_existing ht hr' hsame hq hlocked hfingerprint, hfingerprint', hrfingerprint,
      hfingerprint]
    cases refused with
    | some code => rfl
    | none => simp only [Except.ok.injEq]

end

end PrepareSystem
end SmeDataCenter
