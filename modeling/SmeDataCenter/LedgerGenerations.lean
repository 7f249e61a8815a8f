import SmeDataCenter.LedgerKept

/-!
# Generations of the ledger archive

Three counters of a partition advance in different transactions: a refresh raises the requested
generation, a change of a source the data revision, a publication the published generation. The
invariant is about all of them together with the items and their runs: an item belongs to a
generation that has been requested, no two items to the same one, and the run of a published
generation is over. A generation that has just been requested is pending until its item is there:
it lies above whatever is published, and above every item.
-/

namespace SmeDataCenter

open Runs
open Table (Keeps)

namespace Database

/-- What holds of the generations in every reachable state. -/
structure Generations (db : Database) : Prop where
  runs : db.SoundRuns
  published : ∀ key g, (db.partitionRow key).publishedGeneration = some g →
    g ≤ (db.partitionRow key).requestedGeneration
  revision : ∀ key r, (db.partitionRow key).publishedDataRevision = some r →
    r ≤ (db.partitionRow key).dataRevision
  requested : ∀ id item, db.ledgerArtifactRequestItems.lookup id = some item →
    item.generation ≤ (db.partitionRow item.partitionId).requestedGeneration
  distinct : ∀ id id' item item', db.ledgerArtifactRequestItems.lookup id = some item →
    db.ledgerArtifactRequestItems.lookup id' = some item' →
    item.partitionId = item'.partitionId → item.generation = item'.generation → id = id'
  spent : ∀ id item runId run, db.ledgerArtifactRequestItems.lookup id = some item →
    (db.partitionRow item.partitionId).publishedGeneration = some item.generation →
    db.processingRuns.lookup runId = some run → run.ledgerArtifactRequestItemId = some id →
    run.status.isLive = false

/-- The requested generation of the partition is new: nothing of it is there yet. -/
structure Pending (db : Database) (key : LedgerPartitionKey) : Prop where
  published : ∀ g, (db.partitionRow key).publishedGeneration = some g →
    g < (db.partitionRow key).requestedGeneration
  items : ∀ id item, db.ledgerArtifactRequestItems.lookup id = some item →
    item.partitionId = key → item.generation < (db.partitionRow key).requestedGeneration

variable {itemId : String}

section

variable {config : Option String} {db db' : Database} {now : ℕ}

lemma target_eq {item item' : LedgerArtifactRequestItem} (h : item.target = item'.target) :
    item.partitionId = item'.partitionId ∧ item.generation = item'.generation := by
  simp only [LedgerArtifactRequestItem.target, Prod.mk.injEq] at h
  exact ⟨h.2.2.1, h.2.2.2⟩

lemma Generations.empty : Generations {} := by
  refine ⟨soundRuns_empty, fun key g h => ?_, fun key r h => ?_, fun id item h => ?_,
    fun id id' item item' h => ?_, fun id item runId run h => ?_⟩
  all_goals cases h

/-! ### Steps that keep the archive -/

lemma Generations.of_kept {new : RunOwner → Prop} (h : Generations db)
    (hmove : RunsMove new db db')
    (hnew : ∀ o, new o → o.formed = true ∧ o.ledgerArtifactRequestItemId = none)
    (hpartitions : ∀ key, (db.partitionRow key).Kept (db'.partitionRow key))
    (hitems : Keeps LedgerArtifactRequestItem.target db.ledgerArtifactRequestItems
      db'.ledgerArtifactRequestItems) : Generations db' := by
  refine ⟨hmove.sound (fun o ho => (hnew o ho).1) h.runs, ?_, ?_, ?_, ?_, ?_⟩
  · intro key g hg
    rw [(hpartitions key).published] at hg
    rw [(hpartitions key).requested]
    exact h.published key g hg
  · intro key r hr
    rw [(hpartitions key).revision] at hr
    exact Nat.le_trans (h.revision key r hr) (hpartitions key).changes
  · intro id item' hitem'
    obtain ⟨item, hitem, htarget⟩ := hitems.back hitem'
    obtain ⟨hkey, hgeneration⟩ := target_eq htarget
    rw [← hkey, ← hgeneration, (hpartitions _).requested]
    exact h.requested id item hitem
  · intro id id' a' b' ha' hb' hkey hgeneration
    obtain ⟨a, ha, hta⟩ := hitems.back ha'
    obtain ⟨b, hb, htb⟩ := hitems.back hb'
    obtain ⟨hka, hga⟩ := target_eq hta
    obtain ⟨hkb, hgb⟩ := target_eq htb
    exact h.distinct id id' a b ha hb (by rw [hka, hkb, hkey]) (by rw [hga, hgb, hgeneration])
  · intro id item' runId run' hitem' hpublished hrun' hrunItem
    obtain ⟨item, hitem, htarget⟩ := hitems.back hitem'
    obtain ⟨hkey, hgeneration⟩ := target_eq htarget
    rcases hmove.back runId run' hrun' with ⟨run, hrun, howner, hlive⟩ | hcreated
    · rw [← hkey, ← hgeneration, (hpartitions _).published] at hpublished
      have hrunItem' : run.ledgerArtifactRequestItemId = some id :=
        (congrArg RunOwner.ledgerArtifactRequestItemId howner).symm.trans hrunItem
      have hover := h.spent id item runId run hitem hpublished hrun hrunItem'
      rw [Bool.eq_false_iff]
      intro hl
      rw [hlive hl] at hover
      cases hover
    · have hnone : run'.ledgerArtifactRequestItemId = none := (hnew _ hcreated).2
      rw [hnone] at hrunItem
      cases hrunItem

lemma noItem_of_formed {o : RunOwner} (h : o.formed = true) (htype : o.jobType ≠ .ledgerPdfGenerate) :
    o.ledgerArtifactRequestItemId = none := by
  simp only [RunOwner.formed, Bool.and_eq_true, decide_eq_true_eq] at h
  have hitem := h.1.1.2
  simpa [htype] using hitem

lemma Generations.of_ledgerKept {new : RunOwner → Prop} (h : Generations db)
    (hmove : RunsMove new db db')
    (hnew : ∀ o, new o → o.formed = true ∧ o.jobType ≠ .ledgerPdfGenerate)
    (hkept : LedgerKept db db') : Generations db' :=
  h.of_kept hmove (fun o ho => ⟨(hnew o ho).1, noItem_of_formed (hnew o ho).1 (hnew o ho).2⟩)
    hkept.partitions hkept.items

/-! ### Requests -/

lemma Generations.of_eq (h : Generations db)
    (hpartitions : db'.ledgerPdfPartitions = db.ledgerPdfPartitions)
    (hitems : db'.ledgerArtifactRequestItems = db.ledgerArtifactRequestItems)
    (hruns : db'.processingRuns = db.processingRuns) : Generations db' := by
  have hmove : RunsMove (fun _ => False) db db' := .of_eq hruns
  refine h.of_kept hmove (fun _ hf => hf.elim)
    (partitionRow_kept_of_eq hpartitions) ?_
  rw [hitems]
  exact .refl _ _

lemma lockPartition_kept (key k : LedgerPartitionKey) :
    (db.lockPartition key).partitionRow k = db.partitionRow k := by
  obtain ⟨partitions, heq, hlookup⟩ := db.lockPartition_eq key
  rw [heq, partitionRow, hlookup]
  split_ifs with hk
  · rw [hk]
    rfl
  · rfl

lemma Generations.lockPartition (h : Generations db) (key : LedgerPartitionKey) :
    Generations (db.lockPartition key) := by
  obtain ⟨partitions, heq, -⟩ := db.lockPartition_eq key
  have hmove : RunsMove (fun _ => False) db (db.lockPartition key) := .of_eq (by rw [heq])
  refine h.of_kept hmove (fun _ hf => hf.elim)
    (fun k => ?_) ?_
  · rw [lockPartition_kept]
    exact .refl _
  · rw [heq]
    exact .refl _ _

lemma requestGeneration_row (key k : LedgerPartitionKey) :
    (db.requestGeneration key).partitionRow k =
      if k = key then { db.partitionRow k with
        requestedGeneration := (db.partitionRow k).requestedGeneration + 1 }
      else db.partitionRow k := by
  obtain ⟨partitions, heq, hlookup⟩ := db.requestGeneration_eq key
  rw [heq, partitionRow, hlookup]
  split_ifs with hk
  · rw [hk]
    rfl
  · rfl

lemma Generations.requestGeneration (h : Generations db) (key : LedgerPartitionKey) :
    Generations (db.requestGeneration key) ∧ (db.requestGeneration key).Pending key := by
  obtain ⟨partitions, heq, -⟩ := db.requestGeneration_eq key
  have hruns : (db.requestGeneration key).processingRuns = db.processingRuns := by rw [heq]
  have hitems : (db.requestGeneration key).ledgerArtifactRequestItems =
      db.ledgerArtifactRequestItems := by rw [heq]
  have hpublished : ∀ k, ((db.requestGeneration key).partitionRow k).publishedGeneration =
      (db.partitionRow k).publishedGeneration := by
    intro k
    rw [requestGeneration_row]
    split_ifs
    · rfl
    · rfl
  have hrequested : ∀ k, (db.partitionRow k).requestedGeneration ≤
      ((db.requestGeneration key).partitionRow k).requestedGeneration := by
    intro k
    rw [requestGeneration_row]
    split_ifs
    · exact Nat.le_succ _
    · exact Nat.le_refl _
  have hnext : ((db.requestGeneration key).partitionRow key).requestedGeneration =
      (db.partitionRow key).requestedGeneration + 1 := by
    rw [requestGeneration_row, if_pos rfl]
  refine ⟨⟨?_, ?_, ?_, ?_, ?_, ?_⟩, ?_, ?_⟩
  · have hmove : RunsMove (fun _ => False) db (db.requestGeneration key) := .of_eq hruns
    exact hmove.sound (fun _ hf => hf.elim) h.runs
  · intro k g hg
    rw [hpublished] at hg
    exact Nat.le_trans (h.published k g hg) (hrequested k)
  · intro k r hr
    rw [requestGeneration_row] at hr ⊢
    split_ifs at hr ⊢
    · exact h.revision k r hr
    · exact h.revision k r hr
  · intro id item hitem
    rw [hitems] at hitem
    exact Nat.le_trans (h.requested id item hitem) (hrequested _)
  · rw [hitems]
    exact h.distinct
  · intro id item runId run hitem hpub hrun
    rw [hitems] at hitem
    rw [hpublished] at hpub
    rw [hruns] at hrun
    exact h.spent id item runId run hitem hpub hrun
  · intro g hg
    rw [hpublished] at hg
    have := h.published key g hg
    omega
  · intro id item hitem hkey
    rw [hitems] at hitem
    have := h.requested id item hitem
    rw [hkey] at this
    omega

lemma Pending.requestGeneration {k : LedgerPartitionKey} (h : db.Pending k)
    (key : LedgerPartitionKey) : (db.requestGeneration key).Pending k := by
  obtain ⟨partitions, heq, -⟩ := db.requestGeneration_eq key
  have hitems : (db.requestGeneration key).ledgerArtifactRequestItems =
      db.ledgerArtifactRequestItems := by rw [heq]
  refine ⟨fun g hg => ?_, fun id item hitem hk => ?_⟩
  · rw [requestGeneration_row] at hg ⊢
    split_ifs at hg ⊢
    · exact Nat.lt_succ_of_lt (h.published g hg)
    · exact h.published g hg
  · rw [hitems] at hitem
    have hlt := h.items id item hitem hk
    rw [requestGeneration_row]
    split_ifs
    · exact Nat.lt_succ_of_lt hlt
    · exact hlt

lemma Pending.of_eq {key : LedgerPartitionKey} (h : db.Pending key)
    (hpartitions : db'.ledgerPdfPartitions = db.ledgerPdfPartitions)
    (hitems : db'.ledgerArtifactRequestItems = db.ledgerArtifactRequestItems) :
    db'.Pending key := by
  have hrow : db'.partitionRow key = db.partitionRow key := by
    rw [partitionRow, partitionRow, hpartitions]
  refine ⟨?_, ?_⟩
  · rw [hrow]
    exact h.published
  · rw [hrow, hitems]
    exact h.items

lemma Pending.lockPartition {k : LedgerPartitionKey} (h : db.Pending k)
    (key : LedgerPartitionKey) : (db.lockPartition key).Pending k := by
  obtain ⟨partitions, heq, -⟩ := db.lockPartition_eq key
  have hitems : (db.lockPartition key).ledgerArtifactRequestItems =
      db.ledgerArtifactRequestItems := by rw [heq]
  refine ⟨?_, ?_⟩
  · rw [lockPartition_kept]
    exact h.published
  · rw [lockPartition_kept, hitems]
    exact h.items

variable {ids : RefreshIds}

lemma Generations.enqueuePartition {orgId requestId : String} {actor : LedgerActor}
    {key : LedgerPartitionKey} (h : Generations db) (hpending : db.Pending key)
    (hok : enqueuePartition orgId actor requestId ids now db key = .ok db') :
    Generations db' ∧ ∀ k, k ≠ key → db.Pending k → db'.Pending k := by
  obtain ⟨partition, item, items, hpartition, hkey, hgeneration, hitems, hrun⟩ :=
    enqueuePartition_ok hok
  have hmove : RunsMove (fun o => o.formed = true) { db with
      ledgerArtifactRequestItems := items } db' := runsMove_createRun hrun rfl
  have hsound : db'.SoundRuns := hmove.sound (fun _ ho => ho) ⟨h.runs.unique, h.runs.formed⟩
  obtain ⟨-, -, runs, rfl, hruns⟩ := createRun_ok hrun
  have hrow : db.partitionRow key = partition := partitionRow_of_lookup hpartition
  have hfresh := Table.create_fresh hitems
  have hlookup := Table.lookup_create hitems
  -- an item that is found is the new one, or was there before
  have hold : ∀ id found, items.lookup id = some found →
      (id = ids.item key ∧ found = item) ∨
        (id ≠ ids.item key ∧ db.ledgerArtifactRequestItems.lookup id = some found) := by
    intro id found hfound
    rw [hlookup] at hfound
    split_ifs at hfound with hid
    · exact .inl ⟨hid, (Option.some.inj hfound).symm⟩
    · exact .inr ⟨hid, hfound⟩
  have hbelow : ∀ id found, db.ledgerArtifactRequestItems.lookup id = some found →
      found.partitionId = key → found.generation < item.generation := by
    intro id found hfound hk
    have := hpending.items id found hfound hk
    rwa [hrow, ← hgeneration] at this
  refine ⟨⟨hsound, h.published, h.revision, ?_, ?_, ?_⟩, ?_⟩
  · intro id found hfound
    rcases hold id found hfound with ⟨-, rfl⟩ | ⟨-, hfound⟩
    · have : db.partitionRow found.partitionId = partition := by rw [hkey, hrow]
      exact hgeneration.trans_le (by rw [← this]; exact Nat.le_refl _)
    · exact h.requested id found hfound
  · intro id id' a b ha hb hk hg
    rcases hold id a ha with ⟨rfl, rfl⟩ | ⟨-, ha⟩
    · rcases hold id' b hb with ⟨rfl, rfl⟩ | ⟨-, hb⟩
      · rfl
      · have := hbelow id' b hb (hk.symm.trans hkey)
        omega
    · rcases hold id' b hb with ⟨rfl, rfl⟩ | ⟨-, hb⟩
      · have := hbelow id a ha (hk.trans hkey)
        omega
      · exact h.distinct id id' a b ha hb hk hg
  · intro id found runId run hfound hpublished hrunId hrunItem
    rcases hold id found hfound with ⟨rfl, rfl⟩ | ⟨hid, hfound⟩
    · have hpub : (db.partitionRow key).publishedGeneration = some found.generation := by
        rw [← hkey]
        exact hpublished
      have := hpending.published _ hpub
      rw [hrow] at this
      omega
    · dsimp only at hrunId
      rw [hruns] at hrunId
      split_ifs at hrunId with hnew
      · cases hrunId
        exact absurd (Option.some.inj hrunItem).symm hid
      · exact h.spent id found runId run hfound hpublished hrunId hrunItem
  · intro k hk hpend
    refine ⟨hpend.published, fun id found hfound hfk => ?_⟩
    rcases hold id found hfound with ⟨rfl, rfl⟩ | ⟨-, hfound⟩
    · exact absurd (hfk.symm.trans hkey) hk
    · exact hpend.items id found hfound hfk

lemma Generations.enqueuePartitions {orgId requestId : String} {actor : LedgerActor}
    {keys : List LedgerPartitionKey} (h : Generations db) (hnodup : keys.Nodup)
    (hpending : ∀ key ∈ keys, db.Pending key)
    (hok : db.enqueuePartitions orgId actor requestId ids keys now = .ok db') :
    Generations db' := by
  induction keys generalizing db with
  | nil =>
    cases hok
    exact h
  | cons key keys ih =>
    obtain ⟨hkey, hkeys⟩ := List.nodup_cons.mp hnodup
    obtain ⟨db₁, hone, hrest⟩ := bind_eq_ok.mp hok
    obtain ⟨h₁, hpending₁⟩ := h.enqueuePartition (hpending key List.mem_cons_self) hone
    refine ih h₁ hkeys (fun k hk => ?_) hrest
    have hne : k ≠ key := fun heq => hkey (heq ▸ hk)
    exact hpending₁ k hne (hpending k (List.mem_cons_of_mem _ hk))

lemma Generations.requestGenerations (h : Generations db) (keys : List LedgerPartitionKey) :
    Generations (keys.foldl Database.requestGeneration db) ∧
      (∀ key ∈ keys, (keys.foldl Database.requestGeneration db).Pending key) ∧
      ∀ k, db.Pending k → (keys.foldl Database.requestGeneration db).Pending k := by
  induction keys generalizing db with
  | nil => exact ⟨h, by simp, fun _ hk => hk⟩
  | cons key keys ih =>
    obtain ⟨h₁, hpending⟩ := h.requestGeneration key
    obtain ⟨h₂, hkeys, hkept⟩ := ih h₁
    rw [List.foldl_cons]
    refine ⟨h₂, fun k hk => ?_, fun k hk => hkept k (hk.requestGeneration key)⟩
    rcases List.mem_cons.mp hk with rfl | hk
    · exact hkept k hpending
    · exact hkeys k hk

lemma Generations.pagePartitions (h : Generations db) (keys fresh : List LedgerPartitionKey) :
    Generations (db.pagePartitions keys fresh) ∧
      (∀ key ∈ keys, key ∈ fresh → (db.pagePartitions keys fresh).Pending key) ∧
      ∀ k, db.Pending k → (db.pagePartitions keys fresh).Pending k := by
  unfold Database.pagePartitions
  induction keys generalizing db with
  | nil => exact ⟨h, by simp, fun _ hk => hk⟩
  | cons key keys ih =>
    rw [List.foldl_cons]
    split
    · obtain ⟨h₁, hpending⟩ := h.requestGeneration key
      obtain ⟨h₂, hkeys, hkept⟩ := ih h₁
      refine ⟨h₂, fun k hk hfresh => ?_, fun k hk => hkept k (hk.requestGeneration key)⟩
      rcases List.mem_cons.mp hk with rfl | hk
      · exact hkept k hpending
      · exact hkeys k hk hfresh
    · rename_i hnot
      obtain ⟨h₂, hkeys, hkept⟩ := ih (h.lockPartition key)
      refine ⟨h₂, fun k hk hfresh => ?_, fun k hk => hkept k (hk.lockPartition key)⟩
      rcases List.mem_cons.mp hk with rfl | hk
      · exact absurd (List.contains_iff_mem.mpr hfresh) hnot
      · exact hkeys k hk hfresh

lemma Generations.requestRefresh {input : ReserveLedgerRefreshInput}
    {keys : List LedgerPartitionKey} {answer : Option LedgerRequestRef} (h : Generations db)
    (hnodup : keys.Nodup) (hok : db.requestRefresh input ids keys now = .ok (answer, db')) :
    Generations db' := by
  obtain ⟨request, db₁, -, hcreate, henqueue⟩ := requestRefresh_ok hok
  obtain ⟨h₁, hpending, -⟩ := h.requestGenerations keys
  obtain ⟨requests, -, rfl⟩ := createRequest_ok hcreate
  have h₂ : Generations { keys.foldl Database.requestGeneration db with
      ledgerArtifactRequests := requests } := h₁.of_eq rfl rfl rfl
  exact h₂.enqueuePartitions hnodup (fun key hk => (hpending key hk).of_eq rfl rfl) henqueue

lemma Generations.ledgerRequestStep (h : Generations db) (op : LedgerRequestOperation) :
    Generations (db.ledgerRequestStep op) := by
  -- runs of other job types than the generation of PDFs
  have hother : ∀ {db₁ db₂ : Database} {id : String} {run : ProcessingRun}, Generations db₁ →
      run.owner.formed = true → run.jobType ≠ .ledgerPdfGenerate →
      db₁.createRun id run = .ok db₂ → Generations db₂ := by
    intro db₁ db₂ id run h₁ hformed htype hrun
    have hmove : RunsMove (fun o => o = run.owner) db₁ db₂ := runsMove_createRun hrun rfl
    exact h₁.of_ledgerKept hmove (fun o ho => ho ▸ ⟨hformed, htype⟩) (ledgerKept_createRun hrun)
  have hrequest : ∀ {db₁ db₂ : Database} {id : String} {request : LedgerArtifactRequest},
      Generations db₁ → db₁.createRequest id request = .ok db₂ → Generations db₂ := by
    intro db₁ db₂ id request h₁ hcreate
    obtain ⟨requests, -, rfl⟩ := createRequest_ok hcreate
    exact h₁.of_eq rfl rfl rfl
  have hkeep : ∀ {result : Except WorkerError Database},
      (∀ db', result = .ok db' → Generations db') → Generations (commit db result) := by
    intro result hok
    cases result with
    | error e => exact h
    | ok db' => exact hok db' rfl
  have hkeep' : ∀ {α : Type} {result : Except WorkerError (α × Database)},
      (∀ reply db', result = .ok (reply, db') → Generations db') →
        Generations (db.after result) := by
    intro α result hok
    cases result with
    | error e => exact h
    | ok r => exact hok r.1 r.2 rfl
  cases op with
  | markLedgerPartitionsChanged keys =>
    have hmove : RunsMove (fun _ => False) db (db.markLedgerPartitionsChanged keys) :=
      .of_eq rfl
    exact h.of_ledgerKept hmove (fun _ hf => hf.elim)
      (ledgerKept_markLedgerPartitionsChanged keys)
  | beginInternalRefresh input requestId refused =>
    refine hkeep' fun state db' hok => ?_
    rcases beginInternalRefresh_ok hok with rfl | ⟨request, -, hcreate⟩
    · exact h
    · exact hrequest h hcreate
  | appendInternalRefreshPage input ids refused now =>
    refine hkeep' fun state db' hok => ?_
    rcases appendInternalRefreshPage_ok hok with rfl |
      ⟨actor, fresh, db₁, status, hsub, hnodup, henqueue, rfl⟩
    · exact h
    · obtain ⟨h₁, hpending, -⟩ := h.pagePartitions input.keys.dedup fresh
      have h₂ := h₁.enqueuePartitions hnodup (fun key hk => hpending key (hsub hk) hk) henqueue
      exact h₂.of_eq rfl rfl rfl
  | reserveRefresh input ids refused fingerprint now =>
    refine hkeep' fun answer db' hok => ?_
    rcases reserveRefresh_ok hok with rfl | ⟨key, rfl⟩ | ⟨keys, hnodup, hok⟩ | ⟨key, hok⟩
    · exact h
    · exact h.lockPartition key
    · exact h.requestRefresh hnodup hok
    · exact (h.lockPartition key).requestRefresh (List.nodup_singleton key) hok
  | reserveBundle input requestId runId refused now =>
    refine hkeep' fun answer db' hok => ?_
    rcases reserveBundle_ok hok with rfl | ⟨request, db₁, -, hcreate, hrun⟩
    · exact h
    · exact hother (hrequest h hcreate) rfl (by simp [ledgerBundleRun]) hrun
  | scheduleReconciliation orgId scheduleDate reconciliationId runId now =>
    refine hkeep fun db' hok => ?_
    obtain ⟨reconciliations, rfl | ⟨id, hrun⟩⟩ := scheduleReconciliation_ok hok
    · exact h.of_eq rfl rfl rfl
    · have h₁ : Generations { db with
          ledgerPdfReconciliationRuns := reconciliations } := h.of_eq rfl rfl rfl
      exact hother h₁ rfl (by simp [reconciliationRun]) hrun
  | checkpoint orgId reconciliationId lease completed failed now =>
    refine hkeep fun db' hok => ?_
    obtain ⟨hleased, reconciliations, rfl⟩ := checkpoint_ok hok
    have hmove : RunsMove (fun _ => False) db { db with
        ledgerPdfReconciliationRuns := reconciliations
        processingRuns := db.processingRuns.update lease.runId
          (checkpointRun completed failed now) } := runsMove_leased hleased rfl fun _ => rfl
    exact h.of_kept hmove (fun _ hf => hf.elim) (fun _ => .refl _) (.refl _ _)

/-! ### Publications -/

variable {finishedAt : ℕ}

variable {input : PublishLedgerPdfInput}

lemma Generations.endsGeneration {superseded : Bool} (h : Generations db)
    (hleased : db.Leased input.leaseToken now)
    (hends : db.EndsGeneration input itemId superseded finishedAt db') : Generations db' := by
  have hmove : RunsMove (fun _ => False) db db' := hends.runsMove hleased
  obtain ⟨requests, -, rfl⟩ := hends
  exact h.of_kept hmove (fun _ hf => hf.elim) (fun _ => .refl _) (.update fun _ => rfl)

variable {partition : LedgerPdfPartition}

lemma Generations.run_of_item (h : Generations db)
    (hfound : db.PublicationFound input now finishedAt itemId partition) {runId : String}
    {run : ProcessingRun} (hrun : db.processingRuns.lookup runId = some run)
    (hitem : run.ledgerArtifactRequestItemId = some itemId) : runId = input.leaseToken.runId := by
  obtain ⟨leased, hleased, -, -, hleasedItem, -⟩ := hfound.run
  refine h.runs.unique runId _ run leased hrun hleased ?_
  simp [RunOwner.clash, sameId, ProcessingRun.owner, hitem, hleasedItem]

/-- **A publication is of a new generation**: the published one lies below it. -/
lemma Generations.published_lt (h : Generations db)
    (hfound : db.PublicationFound input now finishedAt itemId partition)
    (hrequested : partition.requestedGeneration = input.generation) {g : ℕ}
    (hg : partition.publishedGeneration = some g) : g < input.generation := by
  have hrow := partitionRow_of_lookup hfound.partition
  obtain ⟨item, hitem, hkey, hgeneration⟩ := hfound.item
  obtain ⟨run, hrun, hmatch, -, hrunItem, -⟩ := hfound.run
  have hle : g ≤ input.generation := by
    have := h.published input.partitionId g (by rw [hrow, hg])
    rwa [hrow, hrequested] at this
  refine Nat.lt_of_le_of_ne hle fun heq => ?_
  have hover := h.spent itemId item _ run hitem (by rw [hkey, hrow, hg, heq, hgeneration]) hrun
    hrunItem
  rw [isLive_of_leaseMatches hmatch] at hover
  cases hover

lemma Generations.publishes {sourcesCurrent : Bool} {refused : Option String}
    {productLevel : Option ℕ} {db₁ : Database} (h : Generations db)
    (hfound : db.PublicationFound input now finishedAt itemId partition)
    (hrequested : partition.requestedGeneration = input.generation)
    (hpublish : db.publishPartition input partition sourcesCurrent refused productLevel now =
      .ok db₁) (hends : db₁.EndsGeneration input itemId false finishedAt db') :
    Generations db' ∧ ∀ key, db'.partitionRow key =
      if key = input.partitionId then publishedPartition input productLevel now partition
      else db.partitionRow key := by
  obtain ⟨hrevision, -⟩ := publishPartition_ok hpublish
  obtain ⟨queue, n, rfl⟩ := publishPartition_eq hpublish
  obtain ⟨requests, -, rfl⟩ := hends
  have hrow := partitionRow_of_lookup hfound.partition
  obtain ⟨item, hitem, hitemKey, hitemGeneration⟩ := hfound.item
  obtain ⟨leased, hleased, hmatch, -, hleasedItem, -⟩ := hfound.run
  set db' : Database := { db with
    processingRuns := db.processingRuns.update input.leaseToken.runId (succeed finishedAt)
    ledgerArtifactRequestItems :=
      db.ledgerArtifactRequestItems.update itemId (endedItem false input)
    ledgerArtifactRequests := requests
    ledgerPdfPartitions := db.ledgerPdfPartitions.update input.partitionId
      (publishedPartition input productLevel now)
    storageGarbage := queue
    nextGarbageId := n } with hdb'
  have hrows : ∀ key, db'.partitionRow key =
      if key = input.partitionId then publishedPartition input productLevel now partition
      else db.partitionRow key := by
    intro key
    rw [partitionRow, hdb', Table.lookup_update]
    by_cases hk : key = input.partitionId
    · rw [if_pos hk, if_pos hk, hfound.partition]
      rfl
    · rw [if_neg hk, if_neg hk]
      rfl
  have hmove : RunsMove (fun _ => False) db db' :=
    runsMove_leased ⟨leased, hleased, hmatch⟩ rfl fun _ => rfl
  have hitems : Keeps LedgerArtifactRequestItem.target db.ledgerArtifactRequestItems
      db'.ledgerArtifactRequestItems := .update fun _ => rfl
  have hrequestedRow : ∀ key, (db'.partitionRow key).requestedGeneration =
      (db.partitionRow key).requestedGeneration := by
    intro key
    rw [hrows]
    split_ifs with hk
    · rw [hk, hrow]
      rfl
    · rfl
  refine ⟨⟨hmove.sound (fun _ hf => hf.elim) h.runs, ?_, ?_, ?_, ?_, ?_⟩, hrows⟩
  · intro key g hg
    rw [hrequestedRow]
    rw [hrows] at hg
    split_ifs at hg with hk
    · rw [hk, hrow, hrequested]
      exact (Option.some.inj hg).ge
    · exact h.published key g hg
  · intro key r hr
    rw [hrows] at hr ⊢
    split_ifs at hr ⊢
    · exact (Option.some.inj hr).symm.trans_le hrevision.ge
    · exact h.revision key r hr
  · intro id found' hfound'
    obtain ⟨found, hold, htarget⟩ := hitems.back hfound'
    obtain ⟨hkey, hgeneration⟩ := target_eq htarget
    rw [← hkey, ← hgeneration, hrequestedRow]
    exact h.requested id found hold
  · intro id id' a' b' ha' hb' hkey hgeneration
    obtain ⟨a, ha, hta⟩ := hitems.back ha'
    obtain ⟨b, hb, htb⟩ := hitems.back hb'
    obtain ⟨hka, hga⟩ := target_eq hta
    obtain ⟨hkb, hgb⟩ := target_eq htb
    exact h.distinct id id' a b ha hb (by rw [hka, hkb, hkey]) (by rw [hga, hgb, hgeneration])
  · intro id found' runId run' hfound' hpublished hrun' hrunItem
    obtain ⟨found, hold, htarget⟩ := hitems.back hfound'
    obtain ⟨hkey, hgeneration⟩ := target_eq htarget
    rcases hmove.back runId run' hrun' with ⟨run, hrun, howner, hlive⟩ | hf
    · have hrunItem' : run.ledgerArtifactRequestItemId = some id :=
        (congrArg RunOwner.ledgerArtifactRequestItemId howner).symm.trans hrunItem
      rw [hrows] at hpublished
      split_ifs at hpublished with hk
      · -- an item of the published generation is the one of the lease, whose run has succeeded
        have hid : id = itemId := by
          refine h.distinct id itemId found item hold hitem ?_ ?_
          · rw [hkey, hk, hitemKey]
          · rw [hgeneration, hitemGeneration]
            exact (Option.some.inj hpublished).symm
        have hrunId := h.run_of_item hfound hrun (hid ▸ hrunItem')
        subst hrunId
        rw [hdb', Table.lookup_update, if_pos rfl, hrun] at hrun'
        cases hrun'
        rfl
      · rw [← hkey, ← hgeneration] at hpublished
        have hover := h.spent id found runId run hold hpublished hrun hrunItem'
        rw [Bool.eq_false_iff]
        intro hl
        rw [hlive hl] at hover
        cases hover
    · exact hf.elim

end

/-! ### Runs of the system -/

variable {config : Option String} {db : Database} {key : LedgerPartitionKey}

/-- The generation of the partition that the operation publishes. -/
def publicationOf (db : Database) (key : LedgerPartitionKey) : Operation → Option ℕ
  | .ledgerObjects (.publishLedgerPdf input sourcesCurrent refused productLevel now finishedAt) =>
    match db.publishLedgerPdf input sourcesCurrent refused productLevel now finishedAt with
    | .ok (.published, _) => if input.partitionId = key then some input.generation else none
    | _ => none
  | _ => none

/-- The generations of the partition that are published, one after the other. -/
def publications (config : Option String) (key : LedgerPartitionKey) :
    Database → List Operation → List ℕ
  | _, [] => []
  | db, op :: ops =>
    (publicationOf db key op).toList ++ publications config key (db.step config op) ops

/-- The database after a run of operations from the empty one. -/
def reached (config : Option String) (ops : List Operation) : Database :=
  run (step config) {} ops

/-- What an operation does to what is published: nothing, or it publishes a later generation. -/
def PublishesLater (before published after : Option ℕ) : Prop :=
  (published = none ∧ after = before) ∨
    ∃ g, published = some g ∧ after = some g ∧ ∀ g₀, before = some g₀ → g₀ < g

/-- **The step lemma**: every operation keeps the invariant, and publishes a later generation if
it publishes one. -/
theorem Generations.step (h : Generations db) (op : Operation) :
    Generations (db.step config op) ∧ ∀ key, PublishesLater
      (db.partitionRow key).publishedGeneration (publicationOf db key op)
      ((db.step config op).partitionRow key).publishedGeneration := by
  have hmove : RunsMove op.newOwner db (db.step config op) := runsMove_step h.runs.unique op
  -- operations that create no run for an item and leave the archive as it is
  have hkept : (∀ o, op.newOwner o → o.formed = true ∧ o.jobType ≠ .ledgerPdfGenerate) →
      LedgerKept db (db.step config op) → (∀ key, publicationOf db key op = none) →
      Generations (db.step config op) ∧ ∀ key, PublishesLater
        (db.partitionRow key).publishedGeneration (publicationOf db key op)
        ((db.step config op).partitionRow key).publishedGeneration := by
    intro hnew hstep hnone
    exact ⟨h.of_ledgerKept hmove hnew hstep,
      fun key => .inl ⟨hnone key, (hstep.partitions key).published⟩⟩
  have hsame : ∀ {db' : Database}, db.step config op = db' →
      db'.ledgerPdfPartitions = db.ledgerPdfPartitions → (∀ key, publicationOf db key op = none) →
      Generations db' → Generations (db.step config op) ∧ ∀ key, PublishesLater
        (db.partitionRow key).publishedGeneration (publicationOf db key op)
        ((db.step config op).partitionRow key).publishedGeneration := by
    rintro db' rfl hpartitions hnone hdb'
    exact ⟨hdb', fun key => .inl ⟨hnone key, (partitionRow_kept_of_eq hpartitions key).published⟩⟩
  cases op with
  | call call =>
    refine hkept (fun o ho => ?_) ?_ fun key => rfl
    · cases ho.2
    · rw [Database.step, performed]
      split
      · exact ledgerKept_perform h.runs.unique call
      · exact .refl _
  | imports op =>
    refine hkept (fun o ho => ⟨ho.1, fun htype => ?_⟩) (ledgerKept_ofWrites _).importStep
      fun key => rfl
    have hcreates := ho.2
    rw [htype] at hcreates
    cases hcreates
  | documents op =>
    refine hkept (fun o ho => ⟨ho.1, fun htype => ?_⟩) (ledgerKept_ofWrites _).documentStep
      fun key => rfl
    have hcreates := ho.2
    rw [htype] at hcreates
    cases hcreates
  | downloads op =>
    refine hkept (fun o ho => ⟨ho.1, fun htype => ?_⟩) (ledgerKept_ofWrites _).downloadStep
      fun key => rfl
    have hcreates := ho.2
    rw [htype] at hcreates
    cases hcreates
  | ledgerRequests op =>
    exact ⟨h.ledgerRequestStep op, fun key =>
      .inl ⟨rfl, ((advanced_ofRequests _ _).ledgerRequestStep.partitions key).published⟩⟩
  | ledgerObjects op =>
    cases op with
    | registerCandidate orgId token objectKey now =>
      refine hkept (fun o ho => ?_) (commit_induction (.refl _) fun db' hok => ?_) fun key => rfl
      · cases ho.2
      · obtain ⟨-, rfl⟩ := registerCandidate_ok hok
        exact .of_eq rfl rfl rfl
    | publishLedgerPdf input sourcesCurrent refused productLevel now finishedAt =>
      cases hok : db.publishLedgerPdf input sourcesCurrent refused productLevel now finishedAt with
      | error e =>
        have hstep : db.step config (.ledgerObjects
            (.publishLedgerPdf input sourcesCurrent refused productLevel now finishedAt)) = db := by
          rw [Database.step, ledgerObjectStep, hok]
          rfl
        exact hsame hstep rfl (fun key => by rw [publicationOf, hok]) h
      | ok r =>
        obtain ⟨status, db'⟩ := r
        have hstep : db.step config (.ledgerObjects
            (.publishLedgerPdf input sourcesCurrent refused productLevel now finishedAt)) =
              db' := by
          rw [Database.step, ledgerObjectStep, hok]
          rfl
        obtain ⟨itemId, partition, hfound, ⟨rfl, -, hends⟩ | ⟨rfl, hrequested, db₁, hpublish,
          hends⟩⟩ := publishLedgerPdf_ok hok
        · obtain ⟨run, hrun, hmatch, -⟩ := hfound.run
          refine hsame hstep ?_ (fun key => by rw [publicationOf, hok])
            (h.endsGeneration ⟨run, hrun, hmatch⟩ hends)
          obtain ⟨requests, -, rfl⟩ := hends
          rfl
        · obtain ⟨hdb', hrows⟩ := h.publishes hfound hrequested hpublish hends
          rw [hstep]
          refine ⟨hdb', fun key => ?_⟩
          rw [hrows, publicationOf, hok]
          dsimp only
          by_cases hk : key = input.partitionId
          · rw [if_pos hk, if_pos hk.symm, hk, partitionRow_of_lookup hfound.partition]
            exact .inr ⟨_, rfl, rfl, fun g hg => h.published_lt hfound hrequested hg⟩
          · rw [if_neg hk, if_neg (Ne.symm hk)]
            exact .inl ⟨rfl, rfl⟩
    | registerBundleCandidate requestId lease objectKey now =>
      refine hkept (fun o ho => ?_) (after_induction (.refl _) fun ok db' hok => ?_) fun key => rfl
      · cases ho.2
      · rcases registerBundleCandidate_ok hok with ⟨-, rfl⟩ | ⟨-, -, requests, hkeeps, rfl⟩
        · exact .refl _
        · exact ⟨partitionRow_kept_of_eq rfl, .refl _ _, hkeeps⟩
    | completeBundle requestId lease objectKey current expiresAt now finishedAt =>
      have hdb : ∀ ok db', db.completeBundle requestId lease objectKey current expiresAt now
          finishedAt = .ok (ok, db') → db'.ledgerPdfPartitions = db.ledgerPdfPartitions ∧
            db'.ledgerArtifactRequestItems = db.ledgerArtifactRequestItems := by
        intro ok db' hok
        rcases completeBundle_ok hok with ⟨-, rfl⟩ | ⟨-, -, rfl⟩
        · exact ⟨rfl, rfl⟩
        · exact ⟨rfl, rfl⟩
      have hstep : (db.step config (.ledgerObjects (.completeBundle requestId lease objectKey
            current expiresAt now finishedAt))).ledgerPdfPartitions = db.ledgerPdfPartitions ∧
          (db.step config (.ledgerObjects (.completeBundle requestId lease objectKey
            current expiresAt now finishedAt))).ledgerArtifactRequestItems =
              db.ledgerArtifactRequestItems := by
        rw [Database.step, ledgerObjectStep, after]
        cases hok : db.completeBundle requestId lease objectKey current expiresAt now
          finishedAt with
        | error e => exact ⟨rfl, rfl⟩
        | ok r => exact hdb r.1 r.2 hok
      refine hsame rfl hstep.1 (fun key => rfl) (h.of_kept hmove (fun o ho => ?_)
        (partitionRow_kept_of_eq hstep.1) ?_)
      · cases ho.2
      · rw [hstep.2]
        exact .refl _ _
    | failBundle requestId lease code now =>
      refine hkept (fun o ho => ?_) (after_induction (.refl _) fun ok db' hok => ?_) fun key => rfl
      · cases ho.2
      · rcases failBundle_ok hok with ⟨-, rfl⟩ | ⟨-, -, requests, hkeeps, rfl⟩
        · exact .refl _
        · exact ⟨partitionRow_kept_of_eq rfl, .refl _ _, hkeeps⟩
    | enqueueExpiredLedgerBundles now =>
      obtain ⟨requests, queue, n, heq⟩ := db.enqueueExpiredLedgerBundles_eq now
      have hstep : db.step config (.ledgerObjects (.enqueueExpiredLedgerBundles now)) = { db with
          ledgerArtifactRequests := requests
          storageGarbage := queue
          nextGarbageId := n } := heq
      exact hsame hstep rfl (fun key => rfl) (h.of_eq rfl rfl rfl)

/-- **The run lemma**: from a state that keeps the invariant, the generations of a partition are
published in increasing order, all of them above the one published before. -/
theorem Generations.publications_increasing (h : Generations db) (ops : List Operation) :
    (publications config key db ops).Pairwise (· < ·) ∧
      ∀ g₀, (db.partitionRow key).publishedGeneration = some g₀ →
        ∀ g ∈ publications config key db ops, g₀ < g := by
  induction ops generalizing db with
  | nil => exact ⟨.nil, by simp [publications]⟩
  | cons op ops ih =>
    obtain ⟨hstep, hpublishes⟩ := @Generations.step config db h op
    obtain ⟨hsorted, habove⟩ := ih hstep
    rw [publications]
    rcases hpublishes key with ⟨hnone, hafter⟩ | ⟨g, hsome, hafter, hlater⟩
    · rw [hnone, Option.toList_none, List.nil_append]
      exact ⟨hsorted, fun g₀ hg₀ => habove g₀ (hafter.trans hg₀)⟩
    · rw [hsome, Option.toList_some, List.singleton_append]
      refine ⟨List.pairwise_cons.mpr ⟨habove g hafter, hsorted⟩, fun g₀ hg₀ g' hg' => ?_⟩
      have hlt := hlater g₀ hg₀
      rcases List.mem_cons.mp hg' with rfl | hg'
      · exact hlt
      · exact Nat.lt_trans hlt (habove g hafter g' hg')

variable (config) in
lemma Generations.reached (ops : List Operation) : Generations (Database.reached config ops) :=
  run_invariant' (fun _ op h => (h.step op).1) ops .empty

lemma failProcessingRun_older (hdb : db.UniqueRuns) {lease : Lease}
    {input : FailProcessingRunInput} {now : ℕ} {run : ProcessingRun}
    {item : LedgerArtifactRequestItem} (hrun : db.processingRuns.lookup lease.runId = some run)
    (hrunItem : run.ledgerArtifactRequestItemId = some itemId)
    (hitem : db.ledgerArtifactRequestItems.lookup itemId = some item)
    (holder : item.generation < (db.partitionRow item.partitionId).requestedGeneration) :
    (db.step config (.call (.failProcessingRun lease input now))).ledgerPdfPartitions.lookup
      item.partitionId = db.ledgerPdfPartitions.lookup item.partitionId := by
  rw [Database.step, performed]
  split
  swap
  · rfl
  unfold perform
  dsimp only
  cases hfail : db.failProcessingRun lease input now with
  | mk error db' =>
    have hkept : db'.ledgerPdfPartitions.lookup item.partitionId =
        db.ledgerPdfPartitions.lookup item.partitionId := by
      rcases failProcessingRun_cases hdb hfail with ⟨-, rfl⟩ | ⟨run', hrun', -, -, hwrites⟩ |
        ⟨-, -, downloads, queue, n, hrest⟩
      · rfl
      · rw [hrun] at hrun'
        cases hrun'
        rcases hwrites.ledgerPartitions with heq | ⟨itemId', item', hrunItem', hitem', heq⟩
        · rw [heq]
        · rw [hrunItem] at hrunItem'
          cases hrunItem'
          rw [hitem] at hitem'
          cases hitem'
          rw [heq, Table.lookup_updateMany]
          cases hrow : db.ledgerPdfPartitions.lookup item.partitionId with
          | none => rfl
          | some p =>
            rw [partitionRow_of_lookup hrow] at holder
            have hne : p.requestedGeneration ≠ item.generation := by omega
            simp [hne]
      · rw [hrest]
    cases error with
    | none => exact hkept
    | some e => exact hkept

variable (config) in
/-- **Publication of ledger PDFs**: in every state that is reached by any operations, what is
published of a partition does not exceed what is requested, nor its revision the data revision;
its generations are published in increasing order, so each at most once; no operation takes the
published generation back; a publication goes through only for the generation that is requested,
from the data revision that is current; and an older generation that ends, whether it is
superseded or fails, leaves the row of its partition as it is. -/
theorem ledger_publication (ops : List Operation) :
    let db := reached config ops
    (∀ key p, db.ledgerPdfPartitions.lookup key = some p →
      (∀ g, p.publishedGeneration = some g → g ≤ p.requestedGeneration) ∧
      ∀ r, p.publishedDataRevision = some r → r ≤ p.dataRevision) ∧
    (∀ key, (publications config key {} ops).Pairwise (· < ·)) ∧
    (∀ op key g, (db.partitionRow key).publishedGeneration = some g →
      ∃ g', ((db.step config op).partitionRow key).publishedGeneration = some g' ∧ g ≤ g') ∧
    (∀ input sourcesCurrent refused productLevel now finishedAt status db',
      db.publishLedgerPdf input sourcesCurrent refused productLevel now finishedAt =
        .ok (status, db') →
      ∃ itemId p, db.PublicationFound input now finishedAt itemId p ∧
        input.generation ≤ p.requestedGeneration ∧
        (status = .published →
          p.dataRevision = input.dataRevision ∧ p.requestedGeneration = input.generation) ∧
        (input.generation < p.requestedGeneration →
          status = .superseded ∧ db'.ledgerPdfPartitions = db.ledgerPdfPartitions ∧
          ∃ item, db'.ledgerArtifactRequestItems.lookup itemId = some item ∧
            item.status = .superseded)) ∧
    ∀ lease input now run itemId item, db.processingRuns.lookup lease.runId = some run →
      run.ledgerArtifactRequestItemId = some itemId →
      db.ledgerArtifactRequestItems.lookup itemId = some item →
      item.generation < (db.partitionRow item.partitionId).requestedGeneration →
      (db.step config (.call (.failProcessingRun lease input now))).ledgerPdfPartitions.lookup
        item.partitionId = db.ledgerPdfPartitions.lookup item.partitionId := by
  intro db
  have h : Generations db := .reached config ops
  refine ⟨fun key p hp => ?_, fun key => ?_, fun op key g hg => ?_, ?_, ?_⟩
  · have hrow := partitionRow_of_lookup hp
    refine ⟨fun g hg => ?_, fun r hr => ?_⟩
    · rw [← hrow] at hg ⊢
      exact h.published key g hg
    · rw [← hrow] at hr ⊢
      exact h.revision key r hr
  · exact (Generations.empty.publications_increasing ops).1
  · rcases (@Generations.step config db h op).2 key with ⟨-, hafter⟩ | ⟨g', -, hafter, hlater⟩
    · exact ⟨g, hafter.trans hg, Nat.le_refl _⟩
    · exact ⟨g', hafter, Nat.le_of_lt (hlater g hg)⟩
  · intro input sourcesCurrent refused productLevel now finishedAt status db' hok
    obtain ⟨itemId, p, hfound, hends⟩ := publishLedgerPdf_ok hok
    obtain ⟨item, hitem, hkey, hgeneration⟩ := hfound.item
    have hle : input.generation ≤ p.requestedGeneration := by
      have := h.requested itemId item hitem
      rwa [hkey, hgeneration, partitionRow_of_lookup hfound.partition] at this
    refine ⟨itemId, p, hfound, hle, ?_⟩
    rcases hends with ⟨rfl, hne, requests, -, rfl⟩ | ⟨rfl, hrequested, db₁, hpublish, -⟩
    · refine ⟨fun hp => ?_, fun hlt => ⟨rfl, rfl, endedItem true input item, ?_, rfl⟩⟩
      · cases hp
      dsimp only
      rw [Table.lookup_update, if_pos rfl, hitem]
      rfl
    · exact ⟨fun _ => ⟨(publishPartition_ok hpublish).1, hrequested⟩, fun hlt => by omega⟩
  · intro lease input now run itemId item hrun hrunItem hitem holder
    exact failProcessingRun_older h.runs.unique hrun hrunItem hitem holder

variable (config) in
/-- **Runs belong to one piece of work**: whatever operations are made, in every order, no two
runs are for the same work, each is for work of its job type, and one that is not of a
partition import stays and never goes to other work. -/
theorem runs_keep_owners (ops more : List Operation) :
    (reached config (ops ++ more)).SoundRuns ∧
      ∀ id run, (reached config ops).processingRuns.lookup id = some run →
        run.partitionImportJobId = none →
        ∃ run', (reached config (ops ++ more)).processingRuns.lookup id = some run' ∧
          run'.owner = run.owner := by
  refine ⟨(Generations.reached config _).runs, fun id run hrun hjob => ?_⟩
  rw [Database.reached, run_append]
  have hkept : ∀ db op, (Generations db ∧ ∃ run', db.processingRuns.lookup id = some run' ∧
      run'.owner = run.owner) → Generations (step config db op) ∧
        ∃ run', (step config db op).processingRuns.lookup id = some run' ∧
          run'.owner = run.owner := by
    rintro db op ⟨h, run₁, hrun₁, howner₁⟩
    have hjob₁ : run₁.partitionImportJobId = none :=
      (congrArg RunOwner.partitionImportJobId howner₁).trans hjob
    obtain ⟨run₂, hrun₂, howner₂⟩ := (runsMove_step h.runs.unique op).forth id run₁ hrun₁ hjob₁
    exact ⟨(h.step op).1, run₂, hrun₂, howner₂.trans howner₁⟩
  exact (run_invariant' hkept more ⟨Generations.reached config ops, run, hrun, rfl⟩).2

variable (config) in
/-- **No generation is worked on twice**: in every state that is reached, the items of a partition
have different generations, none above the one that is requested, and no run of an item whose
generation is published can still be claimed or publish. -/
theorem generations_worked_once (ops : List Operation) :
    let db := reached config ops
    (∀ id id' item item', db.ledgerArtifactRequestItems.lookup id = some item →
      db.ledgerArtifactRequestItems.lookup id' = some item' →
      item.partitionId = item'.partitionId → item.generation = item'.generation → id = id') ∧
    ∀ id item, db.ledgerArtifactRequestItems.lookup id = some item →
      item.generation ≤ (db.partitionRow item.partitionId).requestedGeneration ∧
      ∀ runId run, db.processingRuns.lookup runId = some run →
        run.ledgerArtifactRequestItemId = some id →
        (db.partitionRow item.partitionId).publishedGeneration = some item.generation →
        run.status.isLive = false := by
  intro db
  have h : Generations db := .reached config ops
  exact ⟨h.distinct, fun id item hitem => ⟨h.requested id item hitem,
    fun runId run hrun hitemId hpublished => h.spent id item runId run hitem hpublished hrun hitemId⟩⟩

end Database
end SmeDataCenter
