import SmeDataCenter.OrderScopesConfirmed
import SmeDataCenter.PartitionExport

/-!
# The catalog under the collation of the database

The exporter and the check of the candidates compare the keys of stores as they are written. The
catalog finds a partition by the collation of its columns, under which texts that differ are
equal. A publication keeps the partitions of a source apart exactly when the collation does.
-/

namespace SmeDataCenter

open Runs
open OrderScopes (Shows publishCandidate_ok)

/-- A collation, by the weights of which two texts are equal. -/
structure Collation where
  weight : String → String

namespace Collation

/-- What the unique key compares. -/
def identity (c : Collation) (key : PartitionIdentity) : PartitionIdentity :=
  ⟨c.weight key.orgId, c.weight key.enterpriseKey, key.dataset, c.weight key.storeKey,
    key.businessDate⟩

/-- The identity under which `findUnique` finds a partition, or a new one is created. -/
def stored (c : Collation) (partitions : Table PartitionIdentity StructuredPartition)
    (key : PartitionIdentity) : PartitionIdentity :=
  match (partitions.findMany fun other _ => c.identity other = c.identity key).head? with
  | some found => found.1
  | none => key

/-- The unique key of the catalog holds. -/
def Unique (c : Collation) (partitions : Table PartitionIdentity StructuredPartition) : Prop :=
  ∀ key ∈ partitions, ∀ other ∈ partitions, c.identity key = c.identity other → key = other

end Collation

def PartitionDataset.text : PartitionDataset → String
  | .dishes => "dishes"
  | .business => "business"
  | .inStoreOrders => "in_store_orders"
  | .takeawayOrders => "takeaway_orders"

def identityLockKey (candidate : PartitionCandidate) : String :=
  "\u0000".intercalate [candidate.orgId, candidate.enterpriseKey, candidate.dataset.text,
    candidate.storeKey, candidate.businessDate]

/-- The candidates in the order of their locks. -/
def lockOrdered (localeLe : String → String → Bool) (candidates : List PartitionCandidate) :
    List PartitionCandidate :=
  candidates.insertionSort fun left right =>
    localeLe (identityLockKey left) (identityLockKey right)

/-- The candidate for the partition that is stored under a key. -/
def PartitionCandidate.under (candidate : PartitionCandidate) (key : PartitionIdentity) :
    PartitionCandidate :=
  { candidate with
    orgId := key.orgId, enterpriseKey := key.enterpriseKey, dataset := key.dataset
    storeKey := key.storeKey, businessDate := key.businessDate }

namespace Database

/-- Publish one candidate over the partition that the catalog finds. -/
def publishCandidateIn (c : Collation) (jobId : String) (transition : Bool)
    (acc : Table PartitionIdentity StructuredPartition × List ObjectKey)
    (candidate : PartitionCandidate) :
    Except WorkerError (Table PartitionIdentity StructuredPartition × List ObjectKey) :=
  publishCandidate jobId transition acc (candidate.under (c.stored acc.1 candidate.identity))

/-- `publishSourceAtomically`, with the order of the locks and the lookups of the catalog. -/
def publishSourceAtomicallyIn (c : Collation) (localeLe : String → String → Bool) (db : Database)
    (input : PublishSourceInput) (lease : Lease) (refused : Option String) (transition : Bool)
    (now : ℕ) : Except WorkerError Database := do
  if input.candidates.any (·.orgId ≠ input.orgId) then throw (.thrown "PARTITION_ORG_MISMATCH")
  else if ¬ (input.candidates.map (·.identity)).Nodup then
    throw (.thrown "PARTITION_DUPLICATE_CANDIDATE")
  else
    let sorted := lockOrdered localeLe input.candidates
    match (db.partitionImportJobs.lookup input.jobId).filter fun job =>
      job.orgId = input.orgId && job.status = .processing with
    | none => throw (.thrown "P2025")
    | some job => do
      let db ← db.requirePartitionImportLease input.orgId input.jobId lease now
      match refused with
      | some code => throw (.thrown code)
      | none =>
        if !candidatesFit job input.candidates then throw (.thrown "ORDER_SCOPE_CONFLICT")
        else if input.candidates = [] ∨ input.totalRowCount = 0 then
          throw (.thrown "PARTITION_INVALID_SOURCE")
        else do
          let (partitions, garbage) ← sorted.foldlM
            (publishCandidateIn c input.jobId transition) (db.structuredPartitions, [])
          let db := { db with structuredPartitions := partitions }
          let db := db.enqueueAllStorageGarbage garbage.dedup "partition_replaced" now
          let db := match job.temporaryObjectKey with
            | some key => db.enqueueStorageGarbage key "partition_source_terminal" now none
            | none => db
          return { db with
            partitionImportJobs := db.partitionImportJobs.update input.jobId
              (publishedJob input now) }

end Database

/-- The identity of an exported partition in the catalog. -/
def ExportedPartition.identity (orgId : String) (job : PartitionImportJob)
    (partition : ExportedPartition) : PartitionIdentity :=
  ⟨orgId, job.enterpriseKey, job.dataset, partition.storeKey, partition.businessDate⟩

/-- The candidates that the worker makes of an export, under fresh ids. -/
def sourceCandidates (orgId jobId : String) (job : PartitionImportJob)
    (newId : ExportedPartition → String) (partitions : List ExportedPartition) :
    List PartitionCandidate :=
  partitions.map fun partition =>
    { id := newId partition, orgId := orgId, enterpriseKey := job.enterpriseKey
      enterpriseName := job.enterpriseName, dataset := job.dataset, orderScope := job.orderScope
      storeKey := partition.storeKey, merchantId := partition.merchantId
      storeName := partition.storeName, businessDate := partition.businessDate
      objectKey := .partition orgId jobId (newId partition), rowCount := partition.rowCount
      byteSize := partition.byteSize, checksumSha256 := partition.checksumSha256
      confidentialityLevel := job.confidentialityLevel }

/-! ### One candidate -/

section

variable {c : Collation} {partitions : Table PartitionIdentity StructuredPartition}
  {key other : PartitionIdentity}

lemma stored_same : c.identity (c.stored partitions key) = c.identity key := by
  unfold Collation.stored
  split
  · rename_i found hfound
    have hmem := List.mem_of_mem_head? hfound
    have hrow := Table.mem_findMany.mp (show (found.1, found.2) ∈ _ from hmem)
    simpa using hrow.2
  · rfl

lemma stored_mem (hother : other ∈ partitions) (hsame : c.identity other = c.identity key) :
    c.stored partitions key ∈ partitions := by
  obtain ⟨row, hrow⟩ := Option.isSome_iff_exists.mp (AList.lookup_isSome.mpr hother)
  have hfound : (other, row) ∈
      partitions.findMany fun other _ => c.identity other = c.identity key :=
    Table.mem_findMany.mpr ⟨hrow, by simpa using hsame⟩
  unfold Collation.stored
  split
  · rename_i found hhead
    have hmem := List.mem_of_mem_head? hhead
    have hrow := Table.mem_findMany.mp (show (found.1, found.2) ∈ _ from hmem)
    exact AList.lookup_isSome.mp (by rw [hrow.1]; rfl)
  · rename_i hnone
    rw [List.head?_eq_none_iff.mp hnone] at hfound
    cases hfound

lemma stored_eq_or_mem : c.stored partitions key = key ∨ c.stored partitions key ∈ partitions := by
  unfold Collation.stored
  split
  · rename_i found hhead
    have hmem := List.mem_of_mem_head? hhead
    have hrow := Table.mem_findMany.mp (show (found.1, found.2) ∈ _ from hmem)
    exact .inr (AList.lookup_isSome.mp (by rw [hrow.1]; rfl))
  · exact .inl rfl

lemma stored_eq (h : ∀ other ∈ partitions, c.identity other = c.identity key → other = key) :
    c.stored partitions key = key := by
  rcases @stored_eq_or_mem c partitions key with heq | hmem
  · exact heq
  · exact h _ hmem stored_same

variable {jobId : String} {transition : Bool} {candidate : PartitionCandidate}
  {acc acc' : Table PartitionIdentity StructuredPartition × List ObjectKey}

lemma shows_under {row : StructuredPartition} (hdataset : key.dataset = candidate.dataset)
    (h : Shows row (candidate.under key)) : Shows row candidate := by
  obtain ⟨hscope, hchecksum, hlevel, henterprise, hmerchant, hstore, hrows, hbytes⟩ := h
  refine ⟨?_, hchecksum, hlevel, henterprise, hmerchant, hstore, hrows, hbytes⟩
  rw [← hdataset]
  exact hscope

/-- **One candidate** is written over what is stored under its identity, and nothing else is
touched. -/
lemma publishCandidateIn_ok
    (h : Database.publishCandidateIn c jobId transition acc candidate = .ok acc') :
    (∀ k, k ≠ c.stored acc.1 candidate.identity → acc'.1.lookup k = acc.1.lookup k) ∧
      ∃ row, acc'.1.lookup (c.stored acc.1 candidate.identity) = some row ∧
        Shows row candidate := by
  obtain ⟨hothers, ⟨row, hrow, hshows⟩, -⟩ := publishCandidate_ok h
  refine ⟨hothers, row, hrow, shows_under ?_ hshows⟩
  have hsame := @stored_same c acc.1 candidate.identity
  exact congrArg PartitionIdentity.dataset hsame

lemma mem_publishCandidateIn
    (h : Database.publishCandidateIn c jobId transition acc candidate = .ok acc')
    (k : PartitionIdentity) :
    k ∈ acc'.1 ↔ k ∈ acc.1 ∨ k = c.stored acc.1 candidate.identity := by
  obtain ⟨hothers, row, hrow, -⟩ := publishCandidateIn_ok h
  rw [← AList.lookup_isSome, ← AList.lookup_isSome]
  by_cases hk : k = c.stored acc.1 candidate.identity
  · rw [hk, hrow]
    simp
  · rw [hothers k hk]
    simp [hk]

lemma unique_publishCandidateIn
    (h : Database.publishCandidateIn c jobId transition acc candidate = .ok acc')
    (hunique : c.Unique acc.1) : c.Unique acc'.1 := by
  -- a new identity is equated with none that was there
  have hnew : ∀ k ∈ acc.1, c.identity k = c.identity (c.stored acc.1 candidate.identity) →
      k = c.stored acc.1 candidate.identity := by
    intro k hk hsame
    exact hunique k hk _ (stored_mem hk (hsame.trans stored_same)) hsame
  intro k hk k' hk' hsame
  rcases (mem_publishCandidateIn h k).mp hk with hold | rfl
  · rcases (mem_publishCandidateIn h k').mp hk' with hold' | rfl
    · exact hunique k hold k' hold' hsame
    · exact hnew k hold hsame
  · rcases (mem_publishCandidateIn h k').mp hk' with hold' | rfl
    · exact (hnew k' hold' hsame.symm).symm
    · rfl

end

/-! ### All candidates -/

section

variable {c : Collation} {jobId : String} {transition : Bool} {candidates : List PartitionCandidate}
  {acc acc' : Table PartitionIdentity StructuredPartition × List ObjectKey}

/-- No identity of the catalog, and none of the candidates, is equated with another one of a
candidate. -/
def Apart (c : Collation) (partitions : Table PartitionIdentity StructuredPartition)
    (candidates : List PartitionCandidate) : Prop :=
  ∀ candidate ∈ candidates,
    (∀ key ∈ partitions, c.identity key = c.identity candidate.identity →
      key = candidate.identity) ∧
    ∀ other ∈ candidates, c.identity other.identity = c.identity candidate.identity →
      other.identity = candidate.identity

lemma publishAllIn_unique
    (h : candidates.foldlM (Database.publishCandidateIn c jobId transition) acc = .ok acc')
    (hunique : c.Unique acc.1) : c.Unique acc'.1 ∧ ∀ key ∈ acc.1, key ∈ acc'.1 := by
  induction candidates generalizing acc with
  | nil =>
    cases h
    exact ⟨hunique, fun _ hkey => hkey⟩
  | cons first candidates ih =>
    rw [List.foldlM_cons] at h
    obtain ⟨next, hfirst, hrest⟩ := bind_eq_ok.mp h
    obtain ⟨hunique', hkept⟩ := ih hrest (unique_publishCandidateIn hfirst hunique)
    exact ⟨hunique', fun key hkey =>
      hkept key ((mem_publishCandidateIn hfirst key).mpr (.inl hkey))⟩

/-- **Candidates that are apart** are found under their identities, and nothing else is
touched. -/
lemma publishAllIn_apart
    (h : candidates.foldlM (Database.publishCandidateIn c jobId transition) acc = .ok acc')
    (hnodup : (candidates.map (·.identity)).Nodup) (hapart : Apart c acc.1 candidates) :
    (∀ k, k ∉ candidates.map (·.identity) → acc'.1.lookup k = acc.1.lookup k) ∧
      ∀ candidate ∈ candidates,
        ∃ row, acc'.1.lookup candidate.identity = some row ∧ Shows row candidate := by
  induction candidates generalizing acc with
  | nil =>
    cases h
    exact ⟨fun _ _ => rfl, fun _ hin => absurd hin List.not_mem_nil⟩
  | cons first candidates ih =>
    rw [List.map_cons, List.nodup_cons] at hnodup
    rw [List.foldlM_cons] at h
    obtain ⟨next, hfirst, hrest⟩ := bind_eq_ok.mp h
    have hstored : c.stored acc.1 first.identity = first.identity :=
      stored_eq (hapart first List.mem_cons_self).1
    have hapart' : Apart c next.1 candidates := by
      intro candidate hin
      obtain ⟨hcatalog, hcandidates⟩ := hapart candidate (List.mem_cons_of_mem _ hin)
      refine ⟨fun key hkey hsame => ?_, fun other hother =>
        hcandidates other (List.mem_cons_of_mem _ hother)⟩
      rcases (mem_publishCandidateIn hfirst key).mp hkey with hold | rfl
      · exact hcatalog key hold hsame
      · rw [hstored] at hsame ⊢
        exact hcandidates first List.mem_cons_self hsame
    obtain ⟨hothers, row, hrow, hshows⟩ := publishCandidateIn_ok hfirst
    rw [hstored] at hothers hrow
    obtain ⟨hkept, hall⟩ := ih hrest hnodup.2 hapart'
    refine ⟨fun k hk => ?_, fun candidate hcandidate => ?_⟩
    · rw [List.map_cons, List.mem_cons, not_or] at hk
      rw [hkept k hk.2, hothers k hk.1]
    · rcases List.mem_cons.mp hcandidate with rfl | hin
      · exact ⟨row, (hkept _ hnodup.1).trans hrow, hshows⟩
      · exact hall candidate hin

end

/-! ### A source -/

section

variable {c : Collation} {localeLe : String → String → Bool} {db db' : Database}
  {input : PublishSourceInput} {lease : Lease} {refused : Option String} {transition : Bool}
  {now : ℕ}

lemma publishSourceAtomicallyIn_ok
    (h : db.publishSourceAtomicallyIn c localeLe input lease refused transition now = .ok db') :
    (input.candidates.map (·.identity)).Nodup ∧ ∃ garbage : List ObjectKey,
      (lockOrdered localeLe input.candidates).foldlM
        (Database.publishCandidateIn c input.jobId transition) (db.structuredPartitions, []) =
      .ok (db'.structuredPartitions, garbage) := by
  unfold Database.publishSourceAtomicallyIn at h
  split at h
  · cases h
  split at h
  · cases h
  rename_i hnodup
  dsimp only at h
  split at h
  · cases h
  rename_i job hjob
  obtain ⟨db₁, hrequire, h⟩ := bind_eq_ok.mp h
  split at h
  · cases h
  split at h
  · cases h
  split at h
  · cases h
  obtain ⟨⟨partitions, garbage⟩, hfold, h⟩ := bind_eq_ok.mp h
  have hleased := (Database.requirePartitionImportLease_ok hrequire).2
  -- what is queued for deletion leaves the partitions alone
  have hqueue : ∀ keys reason time (db : Database),
      (db.enqueueAllStorageGarbage keys reason time).structuredPartitions =
        db.structuredPartitions := by
    intro keys reason time db
    obtain ⟨queue, n, hqueue⟩ := db.enqueueAllStorageGarbage_eq keys reason time
    rw [hqueue]
  have hpartitions : db'.structuredPartitions = partitions := by
    rw [← Except.ok.inj h]
    cases job.temporaryObjectKey with
    | none => exact hqueue ..
    | some source => exact hqueue ..
  refine ⟨not_not.mp hnodup, garbage, ?_⟩
  rw [hpartitions, ← hfold, hleased]

end

/-! ### A source file -/

section

/-- Every partition of an export has the row of its own identity, with what it holds, and the
partitions of other stores are as they were. -/
def PublishedExactly (db db' : Database) (orgId : String) (job : PartitionImportJob)
    (partitions : List ExportedPartition) : Prop :=
  (∀ q ∈ partitions, ∃ row, db'.structuredPartitions.lookup (q.identity orgId job) = some row ∧
    row.checksumSha256 = q.checksumSha256 ∧ row.rowCount = q.rowCount ∧
    row.storeName = q.storeName ∧ row.merchantId = q.merchantId) ∧
  ∀ key row, db.structuredPartitions.lookup key = some row →
    (∀ q ∈ partitions, q.identity orgId job ≠ key) →
    db'.structuredPartitions.lookup key = some row

/-- The collation equates the store of no row with another store of the same day, be it of
another row or of the catalog. -/
def SourceApart (c : Collation) (nfc : String → String) (db : Database) (orgId : String)
    (job : PartitionImportJob) (rows : List CanonicalRow) : Prop :=
  ∀ row ∈ rows, ∀ storeKey date, row.storeDay nfc = some (storeKey, date) →
    (∀ other ∈ rows, ∀ otherKey, other.storeDay nfc = some (otherKey, date) →
      c.weight otherKey = c.weight storeKey → otherKey = storeKey) ∧
    ∀ key ∈ db.structuredPartitions,
      c.identity key = c.identity ⟨orgId, job.enterpriseKey, job.dataset, storeKey, date⟩ →
      key = ⟨orgId, job.enterpriseKey, job.dataset, storeKey, date⟩

variable {c : Collation} {p : ExportPlatform} {fields : List OutputField} {limits : ExportLimits}
  {rows : List CanonicalRow} {exported : StructuredPartitionExport} {db db' : Database}
  {orgId jobId : String} {job : PartitionImportJob} {newId : ExportedPartition → String}
  {lease : Lease} {refused : Option String} {transition : Bool} {now : ℕ}

/-- **A source that is exported and published** has every partition under its own identity, and
replaces no other store's, exactly when the collation keeps its stores apart. -/
theorem partition_identity_exact
    (hexport : exportStructuredPartitions p job.dataset fields limits rows = .ok exported)
    (hunique : c.Unique db.structuredPartitions)
    (hpublish : db.publishSourceAtomicallyIn c p.localeLe
      { orgId := orgId, jobId := jobId, totalRowCount := exported.totalRowCount
        candidates := sourceCandidates orgId jobId job newId exported.partitions }
      lease refused transition now = .ok db') :
    PublishedExactly db db' orgId job exported.partitions ↔
      SourceApart c p.nfc db orgId job rows := by
  have hexported := mem_exportStructuredPartitions hexport
  obtain ⟨hnodup, garbage, hfold⟩ := publishSourceAtomicallyIn_ok hpublish
  have hperm : (lockOrdered p.localeLe _).Perm _ :=
    List.perm_insertionSort _ (sourceCandidates orgId jobId job newId exported.partitions)
  generalize lockOrdered p.localeLe _ = sorted at hfold hperm
  have hcandidates : ∀ candidate, candidate ∈ sorted →
      ∃ q ∈ exported.partitions, candidate.identity = q.identity orgId job ∧
        candidate.checksumSha256 = q.checksumSha256 ∧ candidate.rowCount = q.rowCount ∧
        candidate.storeName = q.storeName ∧ candidate.merchantId = q.merchantId := by
    intro candidate hin
    obtain ⟨q, hq, rfl⟩ := List.mem_map.mp (hperm.mem_iff.mp hin)
    exact ⟨q, hq, rfl, rfl, rfl, rfl, rfl⟩
  constructor
  · rintro ⟨hrows, -⟩
    obtain ⟨hunique', hkept⟩ := publishAllIn_unique hfold hunique
    -- an identity of the source is in the catalog afterwards, which equates no two of its own
    have hmem : ∀ row ∈ rows, ∀ storeKey date, row.storeDay p.nfc = some (storeKey, date) →
        (⟨orgId, job.enterpriseKey, job.dataset, storeKey, date⟩ : PartitionIdentity) ∈
          db'.structuredPartitions := by
      intro row hrow storeKey date hday
      obtain ⟨q, hq, rfl, rfl⟩ := (hexported storeKey date).mpr ⟨row, hrow, hday⟩
      obtain ⟨stored, hstored, -⟩ := hrows q hq
      exact AList.lookup_isSome.mp (by rw [← ExportedPartition.identity, hstored]; rfl)
    intro row hrow storeKey date hday
    have hown := hmem row hrow storeKey date hday
    refine ⟨fun other hother otherKey hotherDay hweight => ?_, fun key hkey hsame => ?_⟩
    · have hsame := hunique' _ (hmem other hother otherKey date hotherDay) _ hown
        (by simp only [Collation.identity, hweight])
      exact congrArg PartitionIdentity.storeKey hsame
    · exact hunique' key (hkept key hkey) _ hown hsame
  · intro hapart
    have hsorted : Apart c db.structuredPartitions sorted := by
      intro candidate hin
      obtain ⟨q, hq, hidentity, -⟩ := hcandidates candidate hin
      obtain ⟨row, hrow, hday⟩ := (hexported _ _).mp ⟨q, hq, rfl, rfl⟩
      obtain ⟨hrows, hcatalog⟩ := hapart row hrow _ _ hday
      rw [hidentity]
      refine ⟨hcatalog, fun other hother hsame => ?_⟩
      obtain ⟨q', hq', hidentity', -⟩ := hcandidates other hother
      obtain ⟨row', hrow', hday'⟩ := (hexported _ _).mp ⟨q', hq', rfl, rfl⟩
      rw [hidentity'] at hsame ⊢
      simp only [Collation.identity, ExportedPartition.identity, PartitionIdentity.mk.injEq,
        true_and] at hsame ⊢
      rw [hsame.2] at hday'
      exact ⟨hrows row' hrow' _ hday' hsame.1, hsame.2⟩
    have hdistinct : (sorted.map (·.identity)).Nodup := (hperm.map _).nodup_iff.mpr hnodup
    obtain ⟨hothers, hall⟩ := publishAllIn_apart hfold hdistinct hsorted
    refine ⟨fun q hq => ?_, fun key row hrow hnone => ?_⟩
    · obtain ⟨row, hrow, hshows⟩ := hall _ (hperm.mem_iff.mpr (List.mem_map_of_mem hq))
      exact ⟨row, hrow, hshows.checksum, hshows.rows, hshows.store, hshows.merchant⟩
    · rw [← hrow]
      refine hothers key fun hin => ?_
      obtain ⟨candidate, hcandidate, rfl⟩ := List.mem_map.mp hin
      obtain ⟨q, hq, hidentity, -⟩ := hcandidates candidate hcandidate
      exact hnone q hq hidentity.symm

end

/-! ### Two stores of one day -/

/-- A source of two dish sales; the second store's merchant id is given. -/
def twoStores (merchantId : String) : List CanonicalRow :=
  [{ rowNumber := 2
     cells := [("store_name", "一店"), ("business_date", "2026-01-01"), ("merchant_id", "A1")]
     isoDate := by decide },
   { rowNumber := 3
     cells := [("store_name", "二店"), ("business_date", "2026-01-01"), ("merchant_id", merchantId)]
     isoDate := rfl }]

def dishFields : List OutputField :=
  [⟨"store_name", "门店"⟩, ⟨"business_date", "营业日"⟩, ⟨"merchant_id", "商户号"⟩]

/-- The digests of the texts that are hashed here. -/
def digests (text : String) : String :=
  if text = "merchant:A1\u00002026-01-01" then
    "4b9197bc3013a10b8958ddc00e7c48cbb9fe1a1bc9f54af88c8b7f2c16c2ce24"
  else if text = "merchant:a1\u00002026-01-01" then
    "40ec75748a061d4174081294bff86edf98b9517530e26f5de134fd9db9e8204b"
  else if text = "merchant:B2\u00002026-01-01" then
    "decf0aa49ca3f8ce947b09040bbb387341f605e0d321395fd62896852a26a9a1"
  else if text = "门店,营业日,商户号\n一店,2026-01-01,A1\n" then
    "4bf4c6f203ab508fd343675fec2fd90db357602dd9be51fa0be790313ee3560c"
  else if text = "门店,营业日,商户号\n二店,2026-01-01,a1\n" then
    "60f05e7f8898f9e72d05dc1c6e8fd26ffab1e4dc4dcbef034c078fc03839dd71"
  else if text = "门店,营业日,商户号\n二店,2026-01-01,B2\n" then
    "d17255a48392380aa539396ef6457556019ed2743adb91a346ec45d138556f82"
  else ""

def hostPlatform : ExportPlatform where
  nfc := id
  localeLe := fun a b => decide (a ≤ b)
  sha256 := digests

/-- Letters are equal in both cases. -/
def caseInsensitive : Collation := ⟨asciiLowercase⟩

def exportLimits : ExportLimits := ⟨100, 10, 10000⟩

def dishJob : PartitionImportJob where
  orgId := "org"
  uploaderId := "uploader"
  dataset := .dishes
  enterpriseKey := "enterprise"
  enterpriseName := "Enterprise"
  confidentialityLevel := 0
  idempotencyKey := "key"
  requestFingerprint := "fingerprint"
  sourceChecksumSha256 := "checksum"
  sourceStartDate := "2026-01-01"
  sourceEndDate := "2026-01-01"
  temporaryObjectKey := some (.staging "org" "job")
  multipartUploadId := none
  status := .processing
  expiresAt := 100

def dishRun : ProcessingRun :=
  { Database.partitionImportRun "org" "job" 0 with
    status := .running, attemptNumber := 1, lockedBy := some "worker", lockedUntil := some 9 }

/-- A job being processed, over a catalog without partitions. -/
def dishDatabase : Database where
  processingRuns := (∅ : Table String ProcessingRun).insert "run" dishRun
  partitionImportJobs := (∅ : Table String PartitionImportJob).insert "job" dishJob

/-- The source with its second merchant, exported. -/
def exportedStores (merchantId : String) : Except ExportError StructuredPartitionExport :=
  exportStructuredPartitions hostPlatform .dishes dishFields exportLimits (twoStores merchantId)

/-- An export, published. -/
def publishStores (exported : StructuredPartitionExport) : Except WorkerError Database :=
  dishDatabase.publishSourceAtomicallyIn caseInsensitive hostPlatform.localeLe
    { orgId := "org", jobId := "job", totalRowCount := exported.totalRowCount
      candidates := sourceCandidates "org" "job" dishJob (·.storeKey) exported.partitions }
    ⟨"run", "worker", 1⟩ none false 5

lemma storeDay_twoStores {merchantId storeKey : String} {row : CanonicalRow}
    (hrow : row ∈ twoStores merchantId)
    (hsecond : partitionStoreIdentity id (some merchantId) (some "二店") =
      .ok ⟨storeKey, some merchantId, "二店"⟩) :
    row.storeDay id = some ("merchant:A1", "2026-01-01") ∨
      row.storeDay id = some (storeKey, "2026-01-01") := by
  have hfirst : partitionStoreIdentity id (some "A1") (some "一店") =
      .ok ⟨"merchant:A1", some "A1", "一店"⟩ := by decide +kernel
  simp only [twoStores, List.mem_cons, List.not_mem_nil, or_false] at hrow
  rcases hrow with rfl | rfl
  · left
    change Option.map _ (partitionStoreIdentity id (some "A1") (some "一店")).toOption = _
    rw [hfirst]
    rfl
  · right
    change Option.map _ (partitionStoreIdentity id (some merchantId) (some "二店")).toOption = _
    rw [hsecond]
    rfl

lemma unique_dishDatabase : caseInsensitive.Unique dishDatabase.structuredPartitions :=
  fun _ hkey => absurd hkey (AList.notMem_empty _)

lemma published_ok {merchantId : String}
    (h : ((exportedStores merchantId).toOption.bind fun exported =>
      (publishStores exported).toOption).isSome = true) :
    ∃ exported db', exportedStores merchantId = .ok exported ∧
      publishStores exported = .ok db' := by
  obtain ⟨db', h⟩ := Option.isSome_iff_exists.mp h
  obtain ⟨exported, hexported, hpublish⟩ := Option.bind_eq_some_iff.mp h
  exact ⟨exported, db', Fallible.toOption_some.mp hexported, Fallible.toOption_some.mp hpublish⟩

theorem stores_kept_apart :
    ∃ exported db', exportedStores "B2" = .ok exported ∧ publishStores exported = .ok db' ∧
      PublishedExactly dishDatabase db' "org" dishJob exported.partitions := by
  obtain ⟨exported, db', hexported, hpublish⟩ := @published_ok "B2" (by decide +kernel)
  refine ⟨exported, db', hexported, hpublish, ?_⟩
  refine (@partition_identity_exact caseInsensitive hostPlatform dishFields exportLimits
    (twoStores "B2") exported dishDatabase db' "org" "job" dishJob (·.storeKey)
    ⟨"run", "worker", 1⟩ none false 5 hexported unique_dishDatabase hpublish).mpr ?_
  have hsecond : partitionStoreIdentity id (some "B2") (some "二店") =
      .ok ⟨"merchant:B2", some "B2", "二店"⟩ := by decide +kernel
  have hapart : asciiLowercase "merchant:A1" ≠ asciiLowercase "merchant:B2" := by decide +kernel
  intro row hrow storeKey date hday
  refine ⟨fun other hother otherKey hotherDay hweight => ?_, fun key hkey =>
    absurd hkey (AList.notMem_empty _)⟩
  rcases storeDay_twoStores hrow hsecond with hrow | hrow <;>
    rcases storeDay_twoStores hother hsecond with hother | hother <;>
    obtain ⟨rfl, rfl⟩ := Prod.ext_iff.mp (Option.some.inj (hrow.symm.trans hday)) <;>
    obtain ⟨rfl, -⟩ := Prod.ext_iff.mp (Option.some.inj (hother.symm.trans hotherDay))
  · rfl
  · exact absurd hweight.symm hapart
  · exact absurd hweight hapart
  · rfl

/-- The catalog of the published source has one row for the two stores. -/
theorem equated_stores_overwritten :
    ∃ exported db', exportedStores "a1" = .ok exported ∧
      caseInsensitive.Unique dishDatabase.structuredPartitions ∧
      publishStores exported = .ok db' ∧
      ¬ PublishedExactly dishDatabase db' "org" dishJob exported.partitions := by
  have hlost : ((exportedStores "a1").toOption.bind fun exported =>
      (publishStores exported).toOption.map fun db' => exported.partitions.all fun q =>
        (db'.structuredPartitions.lookup (q.identity "org" dishJob)).isSome) = some false := by
    decide +kernel
  obtain ⟨exported, db', hexported, hpublish⟩ :=
    @published_ok "a1" (by decide +kernel)
  refine ⟨exported, db', hexported, unique_dishDatabase, hpublish, fun hexact => ?_⟩
  rw [hexported, Except.toOption, Option.bind_some, hpublish, Except.toOption, Option.map_some,
    Option.some_inj, List.all_eq_false] at hlost
  obtain ⟨q, hq, hnone⟩ := hlost
  obtain ⟨row, hrow, -⟩ := hexact.1 q hq
  rw [hrow] at hnone
  exact hnone rfl

end SmeDataCenter
