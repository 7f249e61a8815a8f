import SmeDataCenter.OrderScopeTransitions

/-!
# Confirmed order scopes

Whatever else happens to jobs and uploads, the order scope of an in-store partition changes only
when the job of a confirmed preview publishes: the preview was bound to the job in time, by its
own administrator, and it says what the partitions are. A preview is bound once, and its job
moves all its partitions or none.
-/

namespace SmeDataCenter
namespace OrderScopes

open Fallible (bind_ok)
open Runs (commit run run_append)
open Database (publishCandidate)

/-- The scope that a partition has. -/
def scopeOf (row : StructuredPartition) : OrderScope := row.orderScope.getD .legacyUnknown

/-- The snapshot of a preview is what the partitions are. -/
def Matches (s : OrderScopeStore) (preview : OrderScopeTransitionPreview) : Prop :=
  orderScopeSnapshot s.db preview.toOrderScopeSelection = .ok preview.snapshot

/-- The place of a previewed partition. -/
def OrderScopeTransitionPreview.place (preview : OrderScopeTransitionPreview) (row : SnapshotRow) :
    PartitionIdentity :=
  ⟨preview.orgId, preview.enterpriseKey, .inStoreOrders, row.storeKey, row.businessDate⟩

/-- A partition is what its candidate says. -/
structure Shows (row : StructuredPartition) (candidate : PartitionCandidate) : Prop where
  scope : effectiveOrderScope candidate.dataset row.orderScope =
    effectiveOrderScope candidate.dataset candidate.orderScope
  checksum : row.checksumSha256 = candidate.checksumSha256
  confidentiality : row.confidentialityLevel = candidate.confidentialityLevel
  enterprise : row.enterpriseName = candidate.enterpriseName
  merchant : row.merchantId = candidate.merchantId
  store : row.storeName = candidate.storeName
  rows : row.rowCount = candidate.rowCount
  bytes : row.byteSize = candidate.byteSize

/-! ### Publishing candidates -/

section

variable {jobId : String} {transition : Bool} {candidate : PartitionCandidate}
  {acc acc' : Table PartitionIdentity StructuredPartition × List ObjectKey}

/-- Without a transition, the partitions of candidates have their scopes already. -/
def Unmoved (partitions : Table PartitionIdentity StructuredPartition)
    (candidate : PartitionCandidate) : Prop :=
  candidate.dataset = .inStoreOrders → ∀ row, partitions.lookup candidate.identity = some row →
    effectiveOrderScope candidate.dataset row.orderScope =
      effectiveOrderScope candidate.dataset candidate.orderScope

lemma effectiveOrderScope_effective (dataset : PartitionDataset) (scope : Option OrderScope) :
    effectiveOrderScope dataset (effectiveOrderScope dataset scope) =
      effectiveOrderScope dataset scope := by
  unfold effectiveOrderScope
  split_ifs <;> rfl

lemma shows_create : Shows (partitionCreate candidate jobId) candidate :=
  ⟨effectiveOrderScope_effective .., rfl, rfl, rfl, rfl, rfl, rfl, rfl⟩

lemma shows_metadata (current : StructuredPartition) (version : ℕ) (key : ObjectKey) :
    Shows { partitionMetadata candidate jobId current with version, objectKey := key }
      candidate :=
  ⟨effectiveOrderScope_effective .., rfl, rfl, rfl, rfl, rfl, rfl, rfl⟩

lemma shows_of_matches {current : StructuredPartition}
    (hchecksum : current.checksumSha256 = candidate.checksumSha256)
    (hmatches : metadataMatches current candidate = true) : Shows current candidate := by
  unfold metadataMatches at hmatches
  simp only [Bool.and_eq_true, decide_eq_true_eq] at hmatches
  obtain ⟨⟨⟨⟨⟨⟨hscope, hlevel⟩, henterprise⟩, hmerchant⟩, hstore⟩, hrows⟩, hbytes⟩ := hmatches
  exact ⟨hscope, hchecksum, hlevel, henterprise, hmerchant, hstore, hrows, hbytes⟩

/-- **One candidate**: only its own partition is touched, and it is what the candidate says. -/
lemma publishCandidate_ok (h : publishCandidate jobId transition acc candidate = .ok acc') :
    (∀ k, k ≠ candidate.identity → acc'.1.lookup k = acc.1.lookup k) ∧
      (∃ row, acc'.1.lookup candidate.identity = some row ∧ Shows row candidate) ∧
      (transition = false → Unmoved acc.1 candidate) := by
  unfold publishCandidate at h
  dsimp only at h
  split at h
  · cases h
  rename_i hallowed
  have hunmoved : transition = false → Unmoved acc.1 candidate := by
    rintro rfl hdataset row hrow
    by_contra hne
    apply hallowed
    rw [hrow, hdataset] at *
    simp [hne]
  cases hcurrent : acc.1.lookup candidate.identity with
  | none =>
    rw [hcurrent, decidePartitionReplacement] at h
    cases h
    exact ⟨fun k hk => AList.lookup_insert_ne hk, ⟨_, AList.lookup_insert _, shows_create⟩,
      hunmoved⟩
  | some current =>
    have hupdated : ∀ f : StructuredPartition → StructuredPartition, Shows (f current) candidate →
        (∀ k, k ≠ candidate.identity →
          (acc.1.update candidate.identity f).lookup k = acc.1.lookup k) ∧
        (∃ row, (acc.1.update candidate.identity f).lookup candidate.identity = some row ∧
          Shows row candidate) ∧ (transition = false → Unmoved acc.1 candidate) := by
      refine fun f hf => ⟨fun k hk => ?_, ⟨f current, ?_, hf⟩, hunmoved⟩
      · rw [Table.lookup_update, if_neg hk]
      · rw [Table.lookup_update, if_pos rfl, hcurrent]
        rfl
    rw [hcurrent, decidePartitionReplacement] at h
    by_cases hchecksum : current.checksumSha256 = candidate.checksumSha256
    · rw [if_neg (not_not.mpr hchecksum)] at h
      by_cases hmatches : metadataMatches current candidate = true
      · rw [if_pos hmatches] at h
        cases h
        exact ⟨fun _ _ => rfl, ⟨current, hcurrent, shows_of_matches hchecksum hmatches⟩, hunmoved⟩
      · rw [if_neg hmatches] at h
        cases h
        exact hupdated _ (shows_metadata current ..)
    · rw [if_pos hchecksum] at h
      cases h
      exact hupdated _ (shows_metadata current ..)

/-- **All candidates**, of distinct partitions. -/
lemma publishAll_ok {candidates : List PartitionCandidate}
    (hnodup : (candidates.map (·.identity)).Nodup)
    (h : candidates.foldlM (publishCandidate jobId transition) acc = .ok acc') :
    (∀ k, k ∉ candidates.map (·.identity) → acc'.1.lookup k = acc.1.lookup k) ∧
      ∀ candidate ∈ candidates,
        (∃ row, acc'.1.lookup candidate.identity = some row ∧ Shows row candidate) ∧
        (transition = false → Unmoved acc.1 candidate) := by
  induction candidates generalizing acc with
  | nil =>
    cases h
    exact ⟨fun _ _ => rfl, fun _ hin => absurd hin List.not_mem_nil⟩
  | cons first candidates ih =>
    rw [List.map_cons, List.nodup_cons] at hnodup
    rw [List.foldlM_cons] at h
    obtain ⟨acc₁, hfirst, hrest⟩ := bind_ok.mp h
    obtain ⟨hothers, ⟨row, hrow, hshows⟩, hunmoved⟩ := publishCandidate_ok hfirst
    obtain ⟨hkept, hall⟩ := ih hnodup.2 hrest
    refine ⟨fun k hk => ?_, fun candidate hcandidate => ?_⟩
    · rw [List.map_cons, List.mem_cons, not_or] at hk
      rw [hkept k hk.2, hothers k hk.1]
    · rcases List.mem_cons.mp hcandidate with rfl | hin
      · exact ⟨⟨row, (hkept _ hnodup.1).trans hrow, hshows⟩, hunmoved⟩
      · obtain ⟨hshown, hstays⟩ := hall candidate hin
        refine ⟨hshown, fun htransition hdataset row hrow => hstays htransition hdataset row ?_⟩
        rw [hothers _ fun heq => hnodup.1 (heq ▸ List.mem_map_of_mem hin)]
        exact hrow

end

/-! ### A publication -/

variable {db : Database}

variable {preview : OrderScopeTransitionPreview}

section

variable {s s' : OrderScopeStore} {input : PublishSourceInput} {lease : Lease}
  {checks : ScopeChecks} {now : ℕ}

lemma refused_eq_none {db' : Database} {refused : Option String} {transition : Bool}
    (h : db.publishSourceAtomically input lease refused transition now = .ok db') :
    refused = none := by
  cases refused with
  | none => rfl
  | some code =>
    unfold Database.publishSourceAtomically at h
    split at h
    · cases h
    split at h
    · cases h
    split at h
    · cases h
    obtain ⟨db₁, -, h⟩ := bind_ok.mp h
    cases h

lemma thrownCode_eq_none {x : Except WorkerError Unit} (h : thrownCode x = none) : x = .ok () := by
  cases x with
  | ok value => rfl
  | error error => cases error <;> cases h

lemma orElse_eq_none {α : Type} {a b : Option α} (h : (a <|> b) = none) : a = none := by
  cases a with
  | none => rfl
  | some value => cases h

lemma verify_ok {candidates : List PartitionCandidate}
    (h : verifyOrderScopeSnapshot db preview (some candidates) = .ok ()) :
    orderScopeSnapshot db preview.toOrderScopeSelection = .ok preview.snapshot ∧
      (∀ candidate ∈ candidates, preview.admits candidate = true) ∧
      ∀ row ∈ preview.snapshot, ∃ candidate ∈ candidates,
        candidate.storeKey = row.storeKey ∧ candidate.businessDate = row.businessDate := by
  obtain ⟨current, hcurrent, h⟩ := bind_ok.mp h
  split at h
  · cases h
  rename_i hsame
  rw [not_not] at hsame
  subst hsame
  dsimp only at h
  split at h
  · cases h
  rename_i hcovers
  rw [Bool.or_eq_true, not_or, Bool.not_eq_true, Bool.not_eq_false', List.all_eq_true,
    List.any_eq_true] at hcovers
  refine ⟨hcurrent, hcovers.1, fun row hrow => ?_⟩
  by_contra hmissing
  refine hcovers.2 ⟨row, hrow, ?_⟩
  rw [Bool.not_eq_true', List.any_eq_false]
  intro candidate hcandidate hcovered
  rw [Bool.and_eq_true, decide_eq_true_eq, decide_eq_true_eq] at hcovered
  exact hmissing ⟨candidate, hcandidate, hcovered⟩

lemma publish_ok (h : publishSourceAtomically s input lease checks now = .ok s') :
    s'.previews = s.previews ∧ ∃ job garbage,
      s.db.partitionImportJobs.lookup input.jobId = some job ∧
      (input.candidates.map (·.identity)).Nodup ∧
      input.candidates.foldlM
        (publishCandidate input.jobId (s.previewOf input.jobId).isSome)
        (s.db.structuredPartitions, []) = .ok (s'.db.structuredPartitions, garbage) ∧
      ∀ id preview, s.previewOf input.jobId = some (id, preview) →
        previewFits preview job input.orgId = true ∧
        verifyOrderScopeSnapshot s.db preview (some input.candidates) = .ok () := by
  obtain ⟨db, hdb, h⟩ := bind_ok.mp h
  cases h
  have hrefused := refused_eq_none hdb
  obtain ⟨-, job, partitions, garbage, queue, n, hjob, -, hnodup, hfold, rfl, -⟩ :=
    Database.publishSourceAtomically_ok hdb
  refine ⟨rfl, job, garbage, hjob, hnodup, hfold, fun id preview hpreview => ?_⟩
  rw [hjob, Option.bind_some, publishRefusal] at hrefused
  split at hrefused
  · cases hrefused
  split at hrefused
  · cases hrefused
  rw [hpreview] at hrefused
  have hverified := thrownCode_eq_none (orElse_eq_none hrefused)
  dsimp only at hverified
  split at hverified
  · cases hverified
  rename_i hfits
  rw [Bool.not_eq_true, Bool.not_eq_false'] at hfits
  exact ⟨hfits, hverified⟩

end

/-! ### Steps -/

section

variable {digest : String → OrderScopeTransitionPreview → String} {nfc : String → String}
  {s s' : OrderScopeStore}

variable {id jobId : String}

lemma previewOf_some (h : s.previewOf jobId = some (id, preview)) :
    s.previews.lookup id = some preview ∧ preview.jobId = some jobId := by
  obtain ⟨hlookup, hjob⟩ := Table.mem_findMany.mp (List.mem_of_mem_head? h)
  exact ⟨hlookup, of_decide_eq_true hjob⟩

variable {checks : ScopeChecks}

lemma confirmed_ok {input : ReserveUploadInput} {now : ℕ}
    {confirmation : OrderScopeTransitionConfirmation}
    (h : confirmedOrderScopePreview s input checks now confirmation = .ok preview) :
    s.previews.lookup confirmation.previewId = some preview ∧
      confirms preview input confirmation now = true ∧ Matches s preview := by
  unfold confirmedOrderScopePreview at h
  split at h
  · cases h
  rename_i found hfound
  obtain ⟨hlookup, hconfirms⟩ := Option.filter_eq_some_iff.mp hfound
  split at h
  · cases h
  obtain ⟨⟨⟩, hverified, h⟩ := bind_ok.mp h
  cases h
  obtain ⟨current, hcurrent, hverified⟩ := bind_ok.mp hverified
  split at hverified
  · cases hverified
  rename_i hsame
  rw [not_not] at hsame
  exact ⟨hlookup, hconfirms, hcurrent.trans (congrArg _ hsame)⟩

lemma createJob_previews {input : ReserveUploadInput} (h : createJob s input checks = .ok s') :
    s'.previews = s.previews := by
  unfold createJob at h
  split at h
  · cases h
  obtain ⟨db, -, h⟩ := bind_ok.mp h
  cases h
  rfl

lemma reserve_previews {input : ReserveUploadInput}
    {confirmation : Option OrderScopeTransitionConfirmation} {now : ℕ}
    (h : reserveUpload s input confirmation checks now = .ok s') :
    s'.previews = s.previews ∨ ∃ confirmed preview, confirmation = some confirmed ∧
      s.previews.lookup confirmed.previewId = some preview ∧
      confirms preview input confirmed now = true ∧ Matches s preview ∧
      (s.previews.findMany fun _ preview => preview.jobId = some input.id) = [] ∧
      s'.previews = s.previews.updateMany
        (fun id preview => id = confirmed.previewId && preview.jobId.isNone)
        fun preview => { preview with jobId := some input.id } := by
  unfold reserveUpload at h
  split at h
  · obtain ⟨db, -, h⟩ := bind_ok.mp h
    cases h
    exact .inl rfl
  split at h
  · cases h
  split at h
  · cases h
  split at h
  · exact .inl (createJob_previews h)
  · rename_i confirmed
    obtain ⟨preview, hconfirmed, h⟩ := bind_ok.mp h
    obtain ⟨s₁, hcreated, h⟩ := bind_ok.mp h
    obtain ⟨hlookup, hconfirms, hmatches⟩ := confirmed_ok hconfirmed
    have hpreviews := createJob_previews hcreated
    unfold bindPreview at h
    split at h
    · cases h
    rename_i hfree
    cases h
    rw [hpreviews] at hfree ⊢
    exact .inr ⟨confirmed, preview, rfl, hlookup, hconfirms, hmatches, by simpa using hfree, rfl⟩

lemma prepare_previews {input : PrepareOrderScopeTransition} {newId : String} {now : ℕ}
    (h : prepareOrderScopeTransition digest nfc s input checks newId now = .ok s') :
    s'.db = s.db ∧ ∃ kept row, kept.create newId row = some s'.previews ∧ row.jobId = none ∧
      ∃ gone : OrderScopeTransitionPreview → Bool, (∀ preview, gone preview = true →
        preview.jobId = none) ∧ kept = s.previews.deleteMany fun _ => gone := by
  obtain ⟨⟨enterpriseKey, enterpriseName⟩, -, h⟩ := bind_ok.mp h
  dsimp only at h
  split at h
  · cases h
  split at h
  · cases h
  split at h
  · cases h
  obtain ⟨snapshot, -, h⟩ := bind_ok.mp h
  split at h
  · cases h
  split at h
  · cases h
  split at h
  · cases h
  rename_i previews hcreated
  cases h
  refine ⟨rfl, _, _, hcreated, rfl, _, fun preview hgone => ?_, rfl⟩
  rw [Bool.and_eq_true] at hgone
  exact Option.isNone_iff_eq_none.mp hgone.2

lemma previews_step {op : ScopeStep} (h : (step digest nfc s op).previews.lookup id = some preview)
    :
    s.previews.lookup id = some preview ∨ preview.jobId = none ∨
      ∃ input confirmed checks now, op = .reserve input (some confirmed) checks now ∧
        confirmed.previewId = id ∧ preview.jobId = some input.id ∧
        s.previews.lookup id = some { preview with jobId := none } ∧
        confirms { preview with jobId := none } input confirmed now = true ∧
        Matches s preview ∧
        ∀ id' preview', s.previews.lookup id' = some preview' → preview'.jobId ≠ some input.id := by
  cases op with
  | prepare input checks newId now =>
    simp only [step] at h
    cases hprepared : prepareOrderScopeTransition digest nfc s input checks newId now with
    | error error =>
      rw [hprepared] at h
      exact .inl h
    | ok s' =>
      rw [hprepared] at h
      obtain ⟨-, kept, row, hcreated, hfree, gone, -, rfl⟩ := prepare_previews hprepared
      simp only [commit] at h
      rw [Table.lookup_create hcreated] at h
      split_ifs at h with hid
      · cases h
        exact .inr (.inl hfree)
      · rw [Table.lookup_deleteMany] at h
        exact .inl (Option.filter_eq_some_iff.mp h).1
  | reserve input confirmation checks now =>
    simp only [step] at h
    cases hreserved : reserveUpload s input confirmation checks now with
    | error error =>
      rw [hreserved] at h
      exact .inl h
    | ok s' =>
      rw [hreserved] at h
      simp only [commit] at h
      rcases reserve_previews hreserved with
        hsame | ⟨confirmed, found, rfl, hfound, hconfirms, hmatches, hfree, hbound⟩
      · exact .inl (hsame ▸ h)
      rw [hbound, Table.lookup_updateMany] at h
      by_cases hid : id = confirmed.previewId
      · subst hid
        have hnone : found.jobId = none := by
          simp only [confirms, Bool.and_eq_true, Option.isNone_iff_eq_none] at hconfirms
          exact hconfirms.1.1.1.1.1.1.1.1.2
        rw [hfound] at h
        simp only [Option.map_some, hnone, decide_true, Option.isNone_none, Bool.and_self,
          if_true, Option.some.injEq] at h
        subst h
        have hback : ({ found with jobId := none } : OrderScopeTransitionPreview) = found := by
          rw [← hnone]
        refine .inr (.inr ⟨input, confirmed, checks, now, rfl, rfl, rfl, ?_, ?_, hmatches, ?_⟩)
        · exact hfound.trans (congrArg some hback.symm)
        · exact hback.symm ▸ hconfirms
        · intro id' preview' hlookup hjob
          have hin : (id', preview') ∈ s.previews.findMany fun _ preview =>
              preview.jobId = some input.id :=
            Table.mem_findMany.mpr ⟨hlookup, decide_eq_true hjob⟩
          rw [hfree] at hin
          exact List.not_mem_nil hin
      · obtain ⟨old, hold, heq⟩ := Option.map_eq_some_iff.mp h
        rw [if_neg (by simp [hid])] at heq
        exact .inl (hold.trans (congrArg some heq))
  | publish input lease checks now =>
    simp only [step] at h
    cases hpublished : publishSourceAtomically s input lease checks now with
    | error error =>
      rw [hpublished] at h
      exact .inl h
    | ok s' =>
      rw [hpublished] at h
      exact .inl ((publish_ok hpublished).1 ▸ h)
  | deletePreviews seen before limit =>
    simp only [step, deletePreviews] at h
    rw [Table.lookup_deleteMany] at h
    exact .inl (Option.filter_eq_some_iff.mp h).1
  | elsewhere db => exact .inl h

lemma bound_step {op : ScopeStep} {id jobId : String} {preview : OrderScopeTransitionPreview}
    (h : s.previews.lookup id = some preview) (hbound : preview.jobId = some jobId) :
    (step digest nfc s op).previews.lookup id = some preview ∨
      (step digest nfc s op).previews.lookup id = none := by
  cases op with
  | prepare input checks newId now =>
    simp only [step]
    cases hprepared : prepareOrderScopeTransition digest nfc s input checks newId now with
    | error error => exact .inl h
    | ok s' =>
      obtain ⟨-, kept, row, hcreated, -, gone, hgone, rfl⟩ := prepare_previews hprepared
      have hkept : (s.previews.deleteMany fun _ => gone).lookup id = some preview := by
        rw [Table.lookup_deleteMany, h, Option.filter_some, if_pos]
        rw [Bool.not_eq_true']
        by_contra hdeleted
        rw [hgone preview (by simpa using hdeleted)] at hbound
        cases hbound
      have hne : id ≠ newId := by
        rintro rfl
        rw [Table.create_fresh hcreated] at hkept
        cases hkept
      simp only [commit]
      rw [Table.lookup_create hcreated, if_neg hne]
      exact .inl hkept
  | reserve input confirmation checks now =>
    simp only [step]
    cases hreserved : reserveUpload s input confirmation checks now with
    | error error => exact .inl h
    | ok s' =>
      simp only [commit]
      rcases reserve_previews hreserved with hsame | ⟨confirmed, found, -, -, -, -, -, hwritten⟩
      · rw [hsame]
        exact .inl h
      · rw [hwritten, Table.lookup_updateMany, h, Option.map_some, if_neg (by simp [hbound])]
        exact .inl rfl
  | publish input lease checks now =>
    simp only [step]
    cases hpublished : publishSourceAtomically s input lease checks now with
    | error error => exact .inl h
    | ok s' =>
      simp only [commit]
      rw [(publish_ok hpublished).1]
      exact .inl h
  | deletePreviews seen before limit =>
    simp only [step, deletePreviews]
    rw [Table.lookup_deleteMany, h, Option.filter_some]
    split_ifs
    · exact .inl rfl
    · exact .inr rfl
  | elsewhere db => exact .inl h

lemma reserved_partitions {db' : Database} {input : ReserveUploadInput}
    (h : db.reserveUpload input none = .ok db') :
    db'.structuredPartitions = db.structuredPartitions := by
  unfold Database.reserveUpload at h
  split at h
  · cases h
  split at h
  · cases h
  split at h
  · split at h
    · cases h
    · cases h
      rfl
  · obtain ⟨jobs, -, h⟩ := bind_ok.mp h
    cases h
    rfl

lemma bindPreview_db {previewId : String} (h : bindPreview s previewId jobId = .ok s') :
    s'.db = s.db := by
  unfold bindPreview at h
  split at h
  · cases h
  cases h
  rfl

lemma createJob_partitions {input : ReserveUploadInput} (h : createJob s input checks = .ok s') :
    s'.db.structuredPartitions = s.db.structuredPartitions := by
  unfold createJob at h
  split at h
  · cases h
  obtain ⟨db, hdb, h⟩ := bind_ok.mp h
  cases h
  exact reserved_partitions hdb

lemma reserve_partitions {input : ReserveUploadInput}
    {confirmation : Option OrderScopeTransitionConfirmation} {now : ℕ}
    (h : reserveUpload s input confirmation checks now = .ok s') :
    s'.db.structuredPartitions = s.db.structuredPartitions := by
  unfold reserveUpload at h
  split at h
  · obtain ⟨db, hdb, h⟩ := bind_ok.mp h
    cases h
    exact reserved_partitions hdb
  split at h
  · cases h
  split at h
  · cases h
  split at h
  · exact createJob_partitions h
  · obtain ⟨preview, -, h⟩ := bind_ok.mp h
    obtain ⟨s₁, hcreated, h⟩ := bind_ok.mp h
    rw [bindPreview_db h]
    exact createJob_partitions hcreated

lemma partitions_step (s : OrderScopeStore) (op : ScopeStep) :
    (step digest nfc s op).db.structuredPartitions = s.db.structuredPartitions ∨
      ∃ input lease checks now, op = .publish input lease checks now ∧
        publishSourceAtomically s input lease checks now = .ok (step digest nfc s op) := by
  cases op with
  | prepare input checks newId now =>
    simp only [step]
    cases hprepared : prepareOrderScopeTransition digest nfc s input checks newId now with
    | error error => exact .inl rfl
    | ok s' => exact .inl (congrArg _ (prepare_previews hprepared).1)
  | reserve input confirmation checks now =>
    simp only [step]
    cases hreserved : reserveUpload s input confirmation checks now with
    | error error => exact .inl rfl
    | ok s' => exact .inl (reserve_partitions hreserved)
  | publish input lease checks now =>
    cases hpublished : publishSourceAtomically s input lease checks now with
    | error error =>
      refine .inl ?_
      simp only [step, hpublished]
      rfl
    | ok s' =>
      refine .inr ⟨input, lease, checks, now, rfl, ?_⟩
      simp only [step, hpublished]
      rfl
  | deletePreviews | elsewhere => exact .inl rfl

/-! ### Runs -/

/-- The preview was bound to the job by a reservation of the run, by its administrator and in
time. -/
def ConsumedInTime (digest : String → OrderScopeTransitionPreview → String) (nfc : String → String)
    (start : OrderScopeStore) (ops : List ScopeStep) (previewId : String)
    (preview : OrderScopeTransitionPreview) : Prop :=
  ∃ before input confirmed checks now after,
    ops = before ++ .reserve input (some confirmed) checks now :: after ∧
    confirmed.previewId = previewId ∧ preview.jobId = some input.id ∧
    input.uploaderId = preview.actorId ∧ now < preview.expiresAt ∧
    confirmed.confirmationDigest = preview.confirmationDigest ∧
    Matches (run (step digest nfc) start before) preview

/-- Where bound previews come from, and that a job has only one. -/
structure BoundOnce (digest : String → OrderScopeTransitionPreview → String)
    (nfc : String → String) (start : OrderScopeStore) (ops : List ScopeStep) : Prop where
  consumed : ∀ id preview, (run (step digest nfc) start ops).previews.lookup id = some preview →
    preview.jobId.isSome = true → ConsumedInTime digest nfc start ops id preview
  unique : ∀ id id' preview preview',
    (run (step digest nfc) start ops).previews.lookup id = some preview →
    (run (step digest nfc) start ops).previews.lookup id' = some preview' →
    preview.jobId.isSome = true → preview.jobId = preview'.jobId → id = id'

variable {ops : List ScopeStep}

lemma ConsumedInTime.later {start : OrderScopeStore}
    (h : ConsumedInTime digest nfc start ops id preview) (op : ScopeStep) :
    ConsumedInTime digest nfc start (ops ++ [op]) id preview := by
  obtain ⟨before, input, confirmed, checks, now, after, rfl, hfacts⟩ := h
  exact ⟨before, input, confirmed, checks, now, after ++ [op], by simp, hfacts⟩

lemma boundOnce (db : Database) (ops : List ScopeStep) :
    BoundOnce digest nfc { db } ops := by
  induction ops using List.reverseRecOn with
  | nil => exact ⟨fun id preview h => by simp at h, fun id id' preview preview' h => by simp at h⟩
  | append_singleton ops op ih =>
    have hrun : run (step digest nfc) { db } (ops ++ [op]) =
        step digest nfc (run (step digest nfc) { db } ops) op := run_append ..
    constructor
    · intro id preview h hbound
      rw [hrun] at h
      rcases previews_step h with hold | hfree |
        ⟨input, confirmed, checks, now, rfl, hid, hjob, -, hconfirms, hmatches, -⟩
      · exact (ih.consumed id preview hold hbound).later op
      · rw [hfree] at hbound
        cases hbound
      · simp only [confirms, Bool.and_eq_true, decide_eq_true_eq] at hconfirms
        obtain ⟨⟨⟨⟨⟨⟨⟨⟨⟨⟨-, hactor⟩, -⟩, htime⟩, -⟩, -⟩, -⟩, -⟩, -⟩, -⟩, hdigest⟩ := hconfirms
        exact ⟨ops, input, confirmed, checks, now, [], rfl, hid, hjob, hactor.symm, htime,
          hdigest.symm, hmatches⟩
    · intro id id' preview preview' h h' hbound hsame
      rw [hrun] at h h'
      have hbound' : preview'.jobId.isSome = true := hsame ▸ hbound
      rcases previews_step h with hold | hfree |
        ⟨input, confirmed, checks, now, rfl, hid, hjob, -, -, -, hnone⟩
      · rcases previews_step h' with hold' | hfree' |
          ⟨input', confirmed', checks', now', rfl, hid', hjob', -, -, -, hnone'⟩
        · exact ih.unique id id' preview preview' hold hold' hbound hsame
        · rw [hfree'] at hbound'
          cases hbound'
        · exact absurd (hsame.trans hjob') (hnone' id preview hold)
      · rw [hfree] at hbound
        cases hbound
      · rcases previews_step h' with hold' | hfree' |
          ⟨input', confirmed', checks', now', heq, hid', hjob', -, -, -, -⟩
        · exact absurd (hsame.symm.trans hjob) (hnone id' preview' hold')
        · rw [hfree'] at hbound'
          cases hbound'
        · cases heq
          exact hid.symm.trans hid'

lemma bound_run (h : s.previews.lookup id = some preview) (hbound : preview.jobId = some jobId)
    (hthere : ∀ before after, ops = before ++ after →
      id ∈ (run (step digest nfc) s before).previews) :
    (run (step digest nfc) s ops).previews.lookup id = some preview := by
  induction ops generalizing s with
  | nil => exact h
  | cons op ops ih =>
    refine ih ?_ fun before after heq => hthere (op :: before) after (by rw [heq]; rfl)
    have hin : id ∈ (step digest nfc s op).previews := hthere [op] ops rfl
    rcases @bound_step _ _ _ op _ _ _ h hbound with hkept | hgone
    · exact hkept
    · exact absurd hin (AList.lookup_eq_none.mp hgone)

lemma scopeOf_eq_of_effective {row : StructuredPartition} {scope : OrderScope}
    (h : effectiveOrderScope .inStoreOrders row.orderScope = some scope) : scopeOf row = scope :=
  Option.some.inj h

lemma publish_partition {input : PublishSourceInput} {lease : Lease} {now : ℕ}
    (h : publishSourceAtomically s input lease checks now = .ok s') {identity : PartitionIdentity}
    {row : StructuredPartition} (hdataset : identity.dataset = .inStoreOrders)
    (hrow : s.db.structuredPartitions.lookup identity = some row) :
    ∃ row', s'.db.structuredPartitions.lookup identity = some row' ∧
      (scopeOf row' = scopeOf row ∨ ∃ job id preview,
        s.db.partitionImportJobs.lookup input.jobId = some job ∧
        s.previews.lookup id = some preview ∧ preview.jobId = some input.jobId ∧
        preview.actorId = job.uploaderId ∧ Matches s preview) := by
  obtain ⟨-, job, garbage, hjob, hnodup, hfold, hverified⟩ := publish_ok h
  obtain ⟨hothers, hall⟩ := publishAll_ok hnodup hfold
  by_cases hin : identity ∈ input.candidates.map (·.identity)
  · obtain ⟨candidate, hcandidate, rfl⟩ := List.mem_map.mp hin
    obtain ⟨⟨row', hrow', hshows⟩, hunmoved⟩ := hall candidate hcandidate
    refine ⟨row', hrow', ?_⟩
    cases hpreview : s.previewOf input.jobId with
    | none =>
      have hdataset : candidate.dataset = .inStoreOrders := hdataset
      have hsame := hunmoved (by rw [hpreview]; rfl) hdataset row hrow
      have hscopes := hshows.scope.trans hsame.symm
      rw [hdataset] at hscopes
      exact .inl (Option.some.inj hscopes)
    | some entry =>
      obtain ⟨id, preview⟩ := entry
      obtain ⟨hlookup, hbound⟩ := previewOf_some hpreview
      obtain ⟨hfits, hmatches⟩ := hverified id preview hpreview
      simp only [previewFits, Bool.and_eq_true, decide_eq_true_eq] at hfits
      exact .inr ⟨job, id, preview, hjob, hlookup, hbound, hfits.1.1.1.2,
        (verify_ok hmatches).1⟩
  · exact ⟨row, (hothers _ hin).trans hrow, .inl rfl⟩

lemma publish_previewed {input : PublishSourceInput} {lease : Lease} {now : ℕ}
    (h : publishSourceAtomically s input lease checks now = .ok s')
    (hpreview : s.previewOf input.jobId = some (id, preview)) :
    ∀ row ∈ preview.snapshot, ∃ candidate ∈ input.candidates,
      candidate.identity = preview.place row ∧ ∃ new,
        s'.db.structuredPartitions.lookup (preview.place row) = some new ∧ Shows new candidate ∧
        scopeOf new = preview.orderScope := by
  intro row hrow
  obtain ⟨-, job, garbage, -, hnodup, hfold, hverified⟩ := publish_ok h
  obtain ⟨-, hadmits, hcovers⟩ := verify_ok (hverified id preview hpreview).2
  obtain ⟨candidate, hcandidate, hstore, hdate⟩ := hcovers row hrow
  have hadmitted := hadmits candidate hcandidate
  simp only [OrderScopeTransitionPreview.admits, Bool.and_eq_true, decide_eq_true_eq]
    at hadmitted
  obtain ⟨⟨⟨⟨⟨⟨horg, henterprise⟩, hdataset⟩, hscope⟩, -⟩, -⟩, -⟩ := hadmitted
  have hplace : candidate.identity = preview.place row := by
    rw [PartitionCandidate.identity, OrderScopeTransitionPreview.place, horg, henterprise,
      hdataset, hstore, hdate]
  obtain ⟨new, hnew, hshows⟩ := ((publishAll_ok hnodup hfold).2 candidate hcandidate).1
  refine ⟨candidate, hcandidate, hplace, new, hplace ▸ hnew, hshows, ?_⟩
  have hshown := hshows.scope
  rw [hdataset, hscope] at hshown
  exact scopeOf_eq_of_effective hshown

lemma previewOf_eq (h : (run (step digest nfc) { db } ops).previews.lookup id = some preview)
    (hbound : preview.jobId = some jobId) :
    (run (step digest nfc) { db } ops).previewOf jobId = some (id, preview) := by
  have hin : (id, preview) ∈ (run (step digest nfc) { db } ops).previews.findMany
      fun _ preview => preview.jobId = some jobId :=
    Table.mem_findMany.mpr ⟨h, decide_eq_true hbound⟩
  cases hfound : (run (step digest nfc) { db } ops).previewOf jobId with
  | none =>
    rw [OrderScopeStore.previewOf, List.head?_eq_none_iff] at hfound
    rw [hfound] at hin
    cases hin
  | some entry =>
    obtain ⟨id', preview'⟩ := entry
    obtain ⟨hlookup, hbound'⟩ := previewOf_some hfound
    obtain rfl := (boundOnce db ops).unique id id' preview preview' h hlookup
      (by rw [hbound]; rfl) (hbound.trans hbound'.symm)
    rw [h] at hlookup
    rw [Option.some.inj hlookup]

end

/-- **Order scopes are confirmed**: whatever steps come in whatever order, an in-store partition
keeps its order scope, unless the step is the publication of a job whose preview was bound to it
by a reservation of the same administrator before it expired, and still matches. A publication
with a preview moves every partition of it, or changes no partition at all. And a preview that is
bound to a job stays bound to that job. -/
theorem order_scopes_confirmed (digest : String → OrderScopeTransitionPreview → String)
    (nfc : String → String) (db : Database) (ops : List ScopeStep) :
    let start : OrderScopeStore := { db }
    (∀ before op after, ops = before ++ op :: after →
      let s := run (step digest nfc) start before
      let s' := step digest nfc s op
      (∀ identity row, identity.dataset = .inStoreOrders →
        s.db.structuredPartitions.lookup identity = some row →
        ∃ row', s'.db.structuredPartitions.lookup identity = some row' ∧
          (scopeOf row' = scopeOf row ∨ ∃ input lease checks now job id preview,
            op = .publish input lease checks now ∧
            s.db.partitionImportJobs.lookup input.jobId = some job ∧
            s.previews.lookup id = some preview ∧ preview.jobId = some input.jobId ∧
            preview.actorId = job.uploaderId ∧
            ConsumedInTime digest nfc start before id preview ∧ Matches s preview)) ∧
      ∀ input lease checks now id preview, op = .publish input lease checks now →
        s.previews.lookup id = some preview → preview.jobId = some input.jobId →
        s'.db.structuredPartitions = s.db.structuredPartitions ∨
        ∀ row ∈ preview.snapshot, ∃ candidate ∈ input.candidates,
          candidate.identity = preview.place row ∧ ∃ new,
            s'.db.structuredPartitions.lookup (preview.place row) = some new ∧
            Shows new candidate ∧ scopeOf new = preview.orderScope) ∧
    ∀ before middle after id preview jobId, ops = before ++ (middle ++ after) →
      (run (step digest nfc) start before).previews.lookup id = some preview →
      preview.jobId = some jobId →
      (∀ first second, middle = first ++ second →
        id ∈ (run (step digest nfc) start (before ++ first)).previews) →
      (run (step digest nfc) start (before ++ middle)).previews.lookup id = some preview := by
  intro start
  refine ⟨fun before op after _ => ⟨fun identity row hdataset hrow => ?_, ?_⟩,
    fun before middle after id preview jobId _ h hbound hthere => ?_⟩
  · rcases @partitions_step digest nfc
        (run (step digest nfc) start before) op with
      hsame | ⟨input, lease, checks, now, rfl, hpublished⟩
    · exact ⟨row, hsame ▸ hrow, .inl rfl⟩
    · obtain ⟨row', hrow', hscope | ⟨job, id, preview, hjob, hlookup, hbound, hactor, hmatches⟩⟩ :=
        publish_partition hpublished hdataset hrow
      · exact ⟨row', hrow', .inl hscope⟩
      · have hconsumed := (@boundOnce digest nfc db before).consumed id preview
          hlookup (by rw [hbound]; rfl)
        exact ⟨row', hrow', .inr ⟨input, lease, checks, now, job, id, preview, rfl, hjob, hlookup,
          hbound, hactor, hconsumed, hmatches⟩⟩
  · rintro input lease checks now id preview rfl hlookup hbound
    rcases @partitions_step digest nfc
        (run (step digest nfc) start before) (.publish input lease checks now) with
      hsame | ⟨input', lease', checks', now', heq, hpublished⟩
    · exact .inl hsame
    · cases heq
      exact .inr (publish_previewed hpublished (previewOf_eq hlookup hbound))
  · rw [run_append]
    refine bound_run h hbound fun first second heq => ?_
    rw [← run_append]
    exact hthere first second heq

/-- A partition of an old source, which declared no scope. -/
def oldPartition : StructuredPartition where
  id := "old"
  orderScope := none
  enterpriseName := "enterprise"
  merchantId := none
  storeName := "store"
  objectKey := .staging "org" "old"
  rowCount := 1
  byteSize := 1
  checksumSha256 := "old"
  confidentialityLevel := 0
  publishedByJobId := "old"

def oldIdentity : PartitionIdentity :=
  ⟨"org", "enterprise", .inStoreOrders, "store", "2026-01-01"⟩

def permissiveChecks : ScopeChecks where
  uploadAdmin _ _ := true
  orderScopeRequired _ _ := true
  storesRegistered _ _ _ := true
  historical := none
  readRequirement := none

/-- The job of a settled source while it is processed. -/
def settledJob : PartitionImportJob where
  orgId := "org"
  uploaderId := "ann"
  dataset := .inStoreOrders
  orderScope := some .settledOnly
  enterpriseKey := "enterprise"
  enterpriseName := "enterprise"
  confidentialityLevel := 0
  idempotencyKey := "key"
  requestFingerprint := "request"
  sourceChecksumSha256 := "source"
  sourceStartDate := "2026-01-01"
  sourceEndDate := "2026-01-01"
  temporaryObjectKey := none
  multipartUploadId := none
  status := .processing
  expiresAt := 9

def settledCandidate : PartitionCandidate :=
  ⟨"new", "org", "enterprise", "enterprise", .inStoreOrders, some .settledOnly, "store", none,
    "store", "2026-01-01", .staging "org" "new", 1, 1, "new", 0⟩

/-- The partition is previewed, the source reserved with the confirmation, and its job leased. -/
def confirmedSteps : List ScopeStep :=
  [.prepare ⟨"org", "ann", "enterprise", "2026-01-01", "2026-01-01", ["store"], .settledOnly, "source"⟩
      permissiveChecks "preview" 0,
    .reserve ⟨"job", "org", "ann", .inStoreOrders, some .settledOnly, "enterprise", "enterprise", 0,
      "key", "request", "source", "2026-01-01", "2026-01-01", 9, .staging "org" "source", "upload"⟩
      (some ⟨"preview", "digest"⟩) permissiveChecks 1,
    .elsewhere
      { partitionImportJobs := AList.singleton "job" settledJob
        processingRuns := AList.singleton "run"
          { orgId := "org", jobKey := "key", jobType := .structuredPartitionImport
            partitionImportJobId := some "job", status := .running, availableAt := 0
            createdAt := 0, lockedBy := some "worker", lockedUntil := some 9 } }]

def settledPublication : ScopeStep :=
  .publish ⟨"org", "job", 1, [settledCandidate]⟩ ⟨"run", "worker", 0⟩ permissiveChecks 2

/-- Before the preview. -/
def oldDatabase : Database :=
  { structuredPartitions := AList.singleton oldIdentity oldPartition }

/-- A digest that is the same for all. -/
def sameDigest (_ : String) (_ : OrderScopeTransitionPreview) : String := "digest"

/-- After the reservation and the lease. -/
def leasedStore : OrderScopeStore := run (step sameDigest id) { db := oldDatabase } confirmedSteps

/-- The publication moves the partition, by the preview that was confirmed. -/
theorem confirmed_publication_moves :
    ((step sameDigest id leasedStore settledPublication).db.structuredPartitions.lookup
        oldIdentity).map scopeOf = some .settledOnly ∧
      ∃ previewId preview, leasedStore.previews.lookup previewId = some preview ∧
        ConsumedInTime sameDigest id { db := oldDatabase } confirmedSteps previewId preview := by
  have hmoved : ((step sameDigest id leasedStore settledPublication).db.structuredPartitions.lookup
      oldIdentity).map scopeOf = some .settledOnly := by decide +kernel
  have hold : leasedStore.db.structuredPartitions.lookup oldIdentity = some oldPartition := by
    decide +kernel
  refine ⟨hmoved, ?_⟩
  obtain ⟨row', hrow', hscope | ⟨-, -, -, -, -, previewId, preview, -, -, hlookup, -, -,
      hconsumed, -⟩⟩ :=
    ((order_scopes_confirmed sameDigest id oldDatabase (confirmedSteps ++ [settledPublication])).1
      confirmedSteps settledPublication [] rfl).1 oldIdentity oldPartition rfl hold
  · have hshown := congrArg (Option.map scopeOf) hrow'
    rw [Option.map_some, hscope] at hshown
    exact absurd (hshown.symm.trans hmoved) (by decide)
  · exact ⟨previewId, preview, hlookup, hconsumed⟩

end OrderScopes
end SmeDataCenter
