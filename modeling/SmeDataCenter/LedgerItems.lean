import SmeDataCenter.LedgerEntries

/-!
# Items that stay

No operation deletes an item of a request, or changes what it is for, and a request gets at most
one item for a partition.
-/

namespace SmeDataCenter

open Runs
open Table (Keeps)

namespace Database

/-- The item of a request for a partition. -/
def IsItem (db : Database) (requestId : String) (key : LedgerPartitionKey) (id : String) : Prop :=
  ∃ item, db.ledgerArtifactRequestItems.lookup id = some item ∧ item.requestId = requestId ∧
    item.partitionId = key

/-- A request has at most one item for a partition. -/
def DistinctItems (db : Database) : Prop :=
  ∀ requestId key id id', db.IsItem requestId key id → db.IsItem requestId key id' → id = id'

/-- Every item is still there, for the same generation of the same partition, and no partition
has got a second one in a request. -/
structure ItemsMove (db db' : Database) : Prop where
  forth : ∀ id item, db.ledgerArtifactRequestItems.lookup id = some item →
    ∃ item', db'.ledgerArtifactRequestItems.lookup id = some item' ∧ item'.target = item.target
  distinct : db.DistinctItems → db'.DistinctItems

section

variable {config : Option String} {db db' db'' : Database}

variable {requestId : String} {key : LedgerPartitionKey}

lemma mem_itemsFor {id : String} {item : LedgerArtifactRequestItem} :
    (id, item) ∈ db.itemsFor requestId key ↔
      db.ledgerArtifactRequestItems.lookup id = some item ∧ item.requestId = requestId ∧
        item.partitionId = key := by
  unfold itemsFor
  rw [Table.mem_findMany, Bool.and_eq_true, decide_eq_true_eq, decide_eq_true_eq]

lemma target_requestId {item item' : LedgerArtifactRequestItem} (h : item.target = item'.target) :
    item.requestId = item'.requestId := by
  simp only [LedgerArtifactRequestItem.target, Prod.mk.injEq] at h
  exact h.2.1

namespace ItemsMove

lemma isItem (h : ItemsMove db db') {id : String} (hitem : db.IsItem requestId key id) :
    db'.IsItem requestId key id := by
  obtain ⟨item, hlookup, hrequest, hkey⟩ := hitem
  obtain ⟨item', hlookup', htarget⟩ := h.forth id item hlookup
  exact ⟨item', hlookup', (target_requestId htarget).trans hrequest,
    (target_eq htarget).1.trans hkey⟩

lemma of_keeps (h : Keeps LedgerArtifactRequestItem.target db.ledgerArtifactRequestItems
    db'.ledgerArtifactRequestItems) : ItemsMove db db' := by
  have hback : ∀ {requestId key id}, db'.IsItem requestId key id → db.IsItem requestId key id := by
    rintro requestId key id ⟨item', hlookup', hrequest, hkey⟩
    obtain ⟨item, hlookup, htarget⟩ := h.back hlookup'
    exact ⟨item, hlookup, (target_requestId htarget).trans hrequest,
      (target_eq htarget).1.trans hkey⟩
  refine ⟨fun id item hlookup => h.forth hlookup, fun hdistinct requestId key id id' hid hid' => ?_⟩
  exact hdistinct requestId key id id' (hback hid) (hback hid')

lemma of_eq (h : db'.ledgerArtifactRequestItems = db.ledgerArtifactRequestItems) :
    ItemsMove db db' := of_keeps (by rw [h]; exact .refl _ _)

lemma refl (db : Database) : ItemsMove db db := of_eq rfl

lemma trans (h : ItemsMove db db') (h' : ItemsMove db' db'') : ItemsMove db db'' := by
  refine ⟨fun id item hlookup => ?_, h'.distinct ∘ h.distinct⟩
  obtain ⟨item', hlookup', htarget⟩ := h.forth id item hlookup
  obtain ⟨item'', hlookup'', htarget'⟩ := h'.forth id item' hlookup'
  exact ⟨item'', hlookup'', htarget'.trans htarget⟩

lemma of_kept (h : LedgerKept db db') : ItemsMove db db' := of_keeps h.items

lemma enqueuePartition {orgId : String} {actor : LedgerActor} {ids : RefreshIds} {now : ℕ}
    (h : enqueuePartition orgId actor requestId ids now db key = .ok db') :
    ItemsMove db db' ∧ db'.IsItem requestId key (ids.item key) := by
  unfold Database.enqueuePartition at h
  obtain ⟨partition, -, h⟩ := bind_eq_ok.mp h
  split_ifs at h with hnone
  rw [not_not] at hnone
  obtain ⟨items, hitems, hrun⟩ := bind_eq_ok.mp h
  rw [createOrThrow_eq_ok] at hitems
  obtain ⟨-, -, runs, rfl, -⟩ := createRun_ok hrun
  have hfresh := Table.create_fresh hitems
  have hlookup := Table.lookup_create hitems
  have hold : ∀ r k id, IsItem { db with
      ledgerArtifactRequestItems := items
      processingRuns := runs } r k id →
        (id = ids.item key ∧ r = requestId ∧ k = key) ∨ db.IsItem r k id := by
    rintro r k id ⟨item, hfound, hrequest, hkey⟩
    dsimp only at hfound
    rw [hlookup] at hfound
    split_ifs at hfound with hid
    · cases hfound
      exact .inl ⟨hid, hrequest.symm, hkey.symm⟩
    · exact .inr ⟨item, hfound, hrequest, hkey⟩
  have hnew : ∀ id, ¬ db.IsItem requestId key id := by
    rintro id ⟨item, hitem⟩
    have hmem := mem_itemsFor.mpr hitem
    rw [hnone] at hmem
    cases hmem
  refine ⟨⟨fun id item hold => ?_, fun hdistinct r k id id' hid hid' => ?_⟩, ?_⟩
  · refine ⟨item, ?_, rfl⟩
    dsimp only
    rw [hlookup, if_neg, hold]
    rintro rfl
    rw [hfresh] at hold
    cases hold
  · rcases hold r k id hid with ⟨rfl, rfl, rfl⟩ | hid
    · rcases hold _ _ id' hid' with ⟨rfl, -, -⟩ | hid'
      · rfl
      · exact absurd hid' (hnew id')
    · rcases hold _ _ id' hid' with ⟨-, rfl, rfl⟩ | hid'
      · exact absurd hid (hnew id)
      · exact hdistinct r k id id' hid hid'
  · refine ⟨{ orgId, requestId, partitionId := key, generation := partition.requestedGeneration
              dataRevision := partition.dataRevision }, ?_, rfl, rfl⟩
    dsimp only
    rw [hlookup, if_pos rfl]

end ItemsMove

/-- What becomes of the requests and their items. -/
structure EntriesMove (paged : String → Prop) (db db' : Database) : Prop where
  requests : RequestsKept paged db db'
  items : ItemsMove db db'

variable {paged : String → Prop}

namespace EntriesMove

lemma of_same (hrequests : db'.ledgerArtifactRequests = db.ledgerArtifactRequests)
    (hitems : db'.ledgerArtifactRequestItems = db.ledgerArtifactRequestItems) :
    EntriesMove paged db db' := ⟨.of_eq hrequests, .of_eq hitems⟩

lemma refl (db : Database) : EntriesMove paged db db := of_same rfl rfl

lemma trans (h : EntriesMove paged db db') (h' : EntriesMove paged db' db'') :
    EntriesMove paged db db'' :=
  ⟨h.requests.trans h'.requests, h.items.trans h'.items⟩

lemma of_kept (h : LedgerKept db db') : EntriesMove paged db db' := ⟨.of_kept h, .of_kept h⟩

lemma create {request : LedgerArtifactRequest} (h : db.createRequest requestId request = .ok db') :
    EntriesMove paged db db' := by
  refine ⟨.create h, ?_⟩
  obtain ⟨requests, -, rfl⟩ := createRequest_ok h
  exact .of_eq rfl

end EntriesMove

lemma entriesMove_ofRequests (new : RunOwner → Prop) : OfRequests new paged (EntriesMove paged) where
  refl := .refl
  trans := .trans
  beside _ hledger := .of_kept (.of_rows hledger)
  created _ hrun := .of_kept (ledgerKept_createRun hrun)
  leased _ _ _ hledger := .of_kept (.of_rows hledger)
  terminated _ id row status code now := .of_kept (ledgerKept_terminate id row status code now)
  deleted _ _ _ := .of_same rfl rfl
  changed _ keys := .of_kept (ledgerKept_markLedgerPartitionsChanged keys)
  locked db key := by
    obtain ⟨partitions, heq, -⟩ := db.lockPartition_eq key
    exact .of_same (by rw [heq]) (by rw [heq])
  requested db key := by
    obtain ⟨partitions, heq, -⟩ := db.requestGeneration_eq key
    exact .of_same (by rw [heq]) (by rw [heq])
  request _ := .create
  item _ h := by
    obtain ⟨partition, item, items, -, -, -, -, hrun⟩ := enqueuePartition_ok h
    obtain ⟨-, -, runs, rfl, -⟩ := createRun_ok hrun
    exact ⟨.of_eq rfl, (ItemsMove.enqueuePartition h).1⟩
  page hpaged _ _ := ⟨.update rfl (fun _ => rfl) (.inl hpaged), .of_eq rfl⟩

lemma entriesMove_expired (now : ℕ) :
    EntriesMove paged db (db.enqueueExpiredLedgerBundles now) := by
  have hfold : ∀ (expired : List (String × LedgerArtifactRequest)) (db : Database),
      EntriesMove paged db (expired.foldl (enqueueExpiredBundle now) db) := by
    intro expired
    induction expired with
    | nil => exact fun db => .refl db
    | cons e expired ih =>
      intro db
      refine EntriesMove.trans ?_ (ih _)
      unfold enqueueExpiredBundle
      split
      · exact .refl db
      · rename_i key _
        obtain ⟨queue, n, hqueue⟩ :=
          db.enqueueStorageGarbage_eq key "ledger_bundle_expired" now none
        rw [hqueue]
        exact ⟨.of_keeps (.updateMany fun _ => rfl), .of_eq rfl⟩
  exact hfold _ db

lemma entriesMove_ledgerObjectStep (op : LedgerObjectOperation) :
    EntriesMove paged db (db.ledgerObjectStep op) := by
  cases op with
  | registerCandidate orgId token objectKey now =>
    refine commit_induction (.refl _) fun db' hok => ?_
    obtain ⟨-, rfl⟩ := registerCandidate_ok hok
    exact .of_same rfl rfl
  | publishLedgerPdf input sourcesCurrent refused productLevel now finishedAt =>
    refine after_induction (.refl _) fun status db' hok => ?_
    obtain ⟨itemId, partition, -, ⟨-, -, requests, hkeeps, rfl⟩ |
      ⟨-, -, db₁, hpublish, requests, hkeeps, rfl⟩⟩ := publishLedgerPdf_ok hok
    · exact ⟨.of_facts hkeeps, .of_keeps (.update fun _ => rfl)⟩
    · obtain ⟨-, db₂, htake, rfl⟩ := publishPartition_ok hpublish
      obtain ⟨queue, n, hreplaced⟩ := db.enqueueReplaced_eq partition input.candidate now
      rw [hreplaced] at htake
      rcases takeCandidate_ok htake with ⟨-, rfl⟩ | ⟨c, garbage, -, -, -, rfl⟩
      all_goals exact ⟨.of_facts hkeeps, .of_keeps (.update fun _ => rfl)⟩
  | registerBundleCandidate requestId lease objectKey now =>
    refine after_induction (.refl _) fun ok db' hok => ?_
    rcases registerBundleCandidate_ok hok with ⟨-, rfl⟩ | ⟨-, -, requests, hkeeps, rfl⟩
    · exact .refl _
    · exact ⟨.of_facts hkeeps, .of_eq rfl⟩
  | completeBundle requestId lease objectKey current expiresAt now finishedAt =>
    refine after_induction (.refl _) fun ok db' hok => ?_
    rcases completeBundle_ok hok with ⟨-, rfl⟩ | ⟨-, -, rfl⟩
    · exact .refl _
    · obtain ⟨queue, n, hqueue⟩ := ({ db with
        ledgerArtifactRequests := db.ledgerArtifactRequests.update requestId
          (completedBundle objectKey expiresAt)
        storageGarbage := db.storageGarbage.deleteMany fun k _ => k = objectKey } :
          Database).enqueueStorageGarbage_eq objectKey "ledger_bundle_expired" expiresAt none
      rw [hqueue]
      exact ⟨.update rfl (fun _ => rfl) (.inr fun _ => rfl), .of_eq rfl⟩
  | failBundle requestId lease code now =>
    refine after_induction (.refl _) fun ok db' hok => ?_
    rcases failBundle_ok hok with ⟨-, rfl⟩ | ⟨-, -, requests, hkeeps, rfl⟩
    · exact .refl _
    · exact ⟨.of_facts hkeeps, .of_eq rfl⟩
  | enqueueExpiredLedgerBundles now => exact entriesMove_expired now

/-- **The step lemma**: no operation loses a request or an item, rewrites one, or gives a partition
a second item. -/
theorem entriesMove_step (h : db.UniqueRuns) (op : Operation) :
    EntriesMove (fun id => op.pageOf = some id) db (db.step config op) := by
  cases op with
  | call call =>
    rw [Database.step, performed]
    split
    · exact .of_kept (ledgerKept_perform h call)
    · exact .refl _
  | imports op => exact (entriesMove_ofRequests _).importStep
  | documents op => exact (entriesMove_ofRequests _).documentStep
  | downloads op => exact (entriesMove_ofRequests _).downloadStep
  | ledgerRequests op => exact (entriesMove_ofRequests _).ledgerRequestStep
  | ledgerObjects op => exact entriesMove_ledgerObjectStep op

end

end Database
end SmeDataCenter
