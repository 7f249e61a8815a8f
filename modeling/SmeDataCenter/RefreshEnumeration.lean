import SmeDataCenter.InternalRefreshes

/-!
# An internal refresh is complete

A page that is appended gives an item to each of its keys, and moves the cursor of the request
from where the page was read to where the next one begins. The invariant is about one row that
stays listed: behind the cursor of the request it has its item, and a page that is being held
contains it if the page reaches from before it to behind it.
-/

namespace SmeDataCenter

open Runs

variable {keys : List LedgerPartitionKey} {key : LedgerPartitionKey} {refused : Option String}

namespace Database

/-- The generation of a partition has an item of the request, and the item a run. -/
def HasRun (db : Database) (requestId : String) (key : LedgerPartitionKey) (generation : ℕ) :
    Prop :=
  ∃ id item runId run, db.ledgerArtifactRequestItems.lookup id = some item ∧
    item.requestId = requestId ∧ item.partitionId = key ∧ item.generation = generation ∧
    db.processingRuns.lookup runId = some run ∧ run.ledgerArtifactRequestItemId = some id

section

variable {db db' : Database} {requestId orgId : String} {actor : LedgerActor} {ids : RefreshIds}
  {now : ℕ}

/-! ### Generations of a page -/

lemma requested_pagePartitions (db : Database) (hnodup : keys.Nodup)
    (fresh : List LedgerPartitionKey) (k : LedgerPartitionKey) :
    ((db.pagePartitions keys fresh).partitionRow k).requestedGeneration =
      (db.partitionRow k).requestedGeneration + if k ∈ keys ∧ k ∈ fresh then 1 else 0 := by
  unfold pagePartitions
  induction keys generalizing db with
  | nil => simp
  | cons key keys ih =>
    obtain ⟨hkey, hkeys⟩ := List.nodup_cons.mp hnodup
    rw [List.foldl_cons, ih _ hkeys]
    by_cases hk : k = key
    · subst hk
      have hnot : ¬ (k ∈ keys ∧ k ∈ fresh) := fun h => hkey h.1
      by_cases hf : k ∈ fresh
      · have hcontains : fresh.contains k = true := by simpa using hf
        rw [if_neg hnot, if_pos hcontains, if_pos ⟨List.mem_cons_self, hf⟩,
          requestGeneration_row, if_pos rfl]
      · have hcontains : ¬ fresh.contains k = true := by simpa using hf
        rw [if_neg hnot, if_neg hcontains, if_neg (fun h => hf h.2), lockPartition_kept]
    · have hsame : ((if fresh.contains key = true then db.requestGeneration key
          else db.lockPartition key).partitionRow k) = db.partitionRow k := by
        split
        · rw [requestGeneration_row, if_neg hk]
        · rw [lockPartition_kept]
      rw [hsame]
      simp [hk]

lemma requests_pagePartitions (keys fresh : List LedgerPartitionKey) :
    (db.pagePartitions keys fresh).ledgerArtifactRequests = db.ledgerArtifactRequests := by
  unfold pagePartitions
  induction keys generalizing db with
  | nil => rfl
  | cons key keys ih =>
    rw [List.foldl_cons, ih]
    split
    · obtain ⟨partitions, heq, -⟩ := db.requestGeneration_eq key
      rw [heq]
    · obtain ⟨partitions, heq, -⟩ := db.lockPartition_eq key
      rw [heq]

lemma enqueuePartition_run (h : enqueuePartition orgId actor requestId ids now db key = .ok db') :
    db'.ledgerArtifactRequests = db.ledgerArtifactRequests ∧
    db'.ledgerPdfPartitions = db.ledgerPdfPartitions ∧
      db'.HasRun requestId key (db.partitionRow key).requestedGeneration := by
  unfold enqueuePartition at h
  obtain ⟨partition, hpartition, h⟩ := bind_eq_ok.mp h
  split_ifs at h
  obtain ⟨items, hitems, hrun⟩ := bind_eq_ok.mp h
  rw [createOrThrow_eq_ok] at hitems
  obtain ⟨-, -, runs, rfl, hruns⟩ := createRun_ok hrun
  refine ⟨rfl, rfl, ids.item key,
    { orgId, requestId, partitionId := key, generation := partition.requestedGeneration
      dataRevision := partition.dataRevision }, ids.run key,
    ledgerPdfRun orgId (ids.item key) actor key partition.requestedGeneration now, ?_, rfl, rfl,
    ?_, ?_, rfl⟩
  · exact (Table.lookup_create hitems _).trans (if_pos rfl)
  · exact (congrArg LedgerPdfPartition.requestedGeneration
      (partitionRow_of_lookup (findUniqueOrThrow_eq_ok.mp hpartition))).symm
  · exact (hruns _).trans (if_pos rfl)

lemma HasRun.enqueuePartition {r : String} {k : LedgerPartitionKey} {generation : ℕ}
    (hrun : db.HasRun r k generation)
    (h : enqueuePartition orgId actor requestId ids now db key = .ok db') :
    db'.HasRun r k generation := by
  obtain ⟨id, item, runId, run, hitem, hrequest, hkey, hgeneration, hlookup, hitemId⟩ := hrun
  obtain ⟨item', hitem', htarget⟩ := (ItemsMove.enqueuePartition h).1.forth id item hitem
  obtain ⟨partition, new, items, -, -, -, hitems, hcreate⟩ := enqueuePartition_ok h
  obtain ⟨hfresh, -, runs, rfl, hruns⟩ := createRun_ok hcreate
  refine ⟨id, item', runId, run, hitem', (target_requestId htarget).trans hrequest,
    (target_eq htarget).1.trans hkey, (target_eq htarget).2.trans hgeneration, ?_, hitemId⟩
  dsimp only at hfresh ⊢
  rw [hruns, if_neg, hlookup]
  rintro rfl
  rw [hfresh] at hlookup
  cases hlookup

lemma HasRun.enqueuePartitions {r : String} {k : LedgerPartitionKey} {generation : ℕ}
    (hrun : db.HasRun r k generation)
    (h : db.enqueuePartitions orgId actor requestId ids keys now = .ok db') :
    db'.HasRun r k generation := by
  induction keys generalizing db with
  | nil =>
    cases h
    exact hrun
  | cons key keys ih =>
    obtain ⟨db₁, hone, hrest⟩ := bind_eq_ok.mp h
    exact ih (hrun.enqueuePartition hone) hrest

lemma enqueuePartitions_run (h : db.enqueuePartitions orgId actor requestId ids keys now = .ok db')
    :
    db'.ledgerArtifactRequests = db.ledgerArtifactRequests ∧
    db'.ledgerPdfPartitions = db.ledgerPdfPartitions ∧
      ∀ key ∈ keys, db'.HasRun requestId key (db.partitionRow key).requestedGeneration := by
  induction keys generalizing db with
  | nil =>
    cases h
    exact ⟨rfl, rfl, by simp⟩
  | cons key keys ih =>
    obtain ⟨db₁, hone, hrest⟩ := bind_eq_ok.mp h
    obtain ⟨hrequest, hsame, hrun⟩ := enqueuePartition_run hone
    obtain ⟨hrequests, hsames, hruns⟩ := ih hrest
    refine ⟨hrequests.trans hrequest, hsames.trans hsame, fun k hk => ?_⟩
    rcases List.mem_cons.mp hk with rfl | hk
    · exact hrun.enqueuePartitions hrest
    · have hrow : db₁.partitionRow k = db.partitionRow k := by
        rw [partitionRow, partitionRow, hsame]
      rw [← hrow]
      exact hruns k hk

/-! ### A page is appended -/

lemma isEmpty_itemsFor :
    (db.itemsFor requestId key).isEmpty = true ↔ ∀ id, ¬ db.IsItem requestId key id := by
  rw [List.isEmpty_iff, List.eq_nil_iff_forall_not_mem]
  refine ⟨fun h id => ?_, ?_⟩
  · rintro ⟨item, hitem⟩
    exact h _ (mem_itemsFor.mpr hitem)
  · rintro h ⟨id, item⟩ hmem
    exact h id ⟨item, mem_itemsFor.mp hmem⟩

variable {state : LedgerInternalRefreshState}

lemma internalState_ok {request : LedgerArtifactRequest}
    (h : internalState requestId request = .ok state) :
    ∃ scope, request.internalScope = some scope ∧ state.requestId = requestId ∧
      state.cursor = scope.enumerationCursor ∧ state.complete = scope.enumerationComplete := by
  unfold internalState at h
  split at h
  · cases h
  · rename_i scope hscope
    cases h
    exact ⟨scope, hscope, rfl, rfl, rfl⟩

/-- What a page does at the cursor of its request. -/
structure Appends (db : Database) (input : AppendInternalRefreshPageInput)
    (request : LedgerArtifactRequest) (db' : Database) : Prop where
  found : db.ledgerArtifactRequests.lookup input.requestId = some request
  scope : request.internalScope = some ⟨input.expectedCursor, false⟩
  turned : ∃ status, db'.ledgerArtifactRequests.lookup input.requestId =
    some (turnedPage input.nextCursor status request)
  items : ∀ key ∈ input.keys, ∃ id, db'.IsItem input.requestId key id
  generations : ∀ key, (db'.partitionRow key).requestedGeneration ≠
      (db.partitionRow key).requestedGeneration →
    (∀ id, ¬ db.IsItem input.requestId key id) ∧ (db'.partitionRow key).requestedGeneration =
      (db.partitionRow key).requestedGeneration + 1 ∧
    db'.HasRun input.requestId key (db'.partitionRow key).requestedGeneration

lemma appendInternalRefreshPage_appends {input : AppendInternalRefreshPageInput}
    (h : db.appendInternalRefreshPage input ids refused now = .ok (state, db')) :
    state.requestId = input.requestId ∧ (db' = db ∨ ∃ request, Appends db input request db') := by
  unfold appendInternalRefreshPage at h
  split at h
  · cases h
  split at h
  · cases h
  split at h
  · cases h
  · cases h
  rename_i request hrequest
  obtain ⟨read, hread, h⟩ := bind_eq_ok.mp h
  obtain ⟨scope, hscope, hid, hcursor, hcomplete⟩ := internalState_ok hread
  split at h
  · cases h
    exact ⟨hid, .inl rfl⟩
  rename_i hcurrent
  rw [not_or, not_not, Bool.not_eq_true] at hcurrent
  obtain ⟨db₁, henqueue, h⟩ := bind_eq_ok.mp h
  cases h
  obtain ⟨fresh, hfresh⟩ : ∃ fresh, fresh = input.keys.dedup.filter fun key =>
      (db.itemsFor input.requestId key).isEmpty := ⟨_, rfl⟩
  rw [← hfresh] at henqueue
  have henqueued : (db.pagePartitions input.keys.dedup fresh).enqueuePartitions input.orgId
      request.actor input.requestId ids fresh now = .ok db₁ := henqueue
  have hmem : ∀ key, key ∈ fresh ↔
      key ∈ input.keys ∧ ∀ id, ¬ db.IsItem input.requestId key id := by
    intro key
    rw [hfresh, List.mem_filter, List.mem_dedup, isEmpty_itemsFor]
  have hfound : db.ledgerArtifactRequests.lookup input.requestId = some request :=
    (Option.filter_eq_some_iff.mp hrequest).1
  obtain ⟨hrequests, hpartitions, hruns⟩ := enqueuePartitions_run henqueued
  have hkept := hrequests.trans (requests_pagePartitions input.keys.dedup fresh)
  obtain ⟨status, hstatus⟩ : ∃ status, status =
      if input.nextCursor.isNone then reduceLedgerRequestStatus
        ((db₁.ledgerArtifactRequestItems.findMany fun _ i =>
          i.orgId = input.orgId && i.requestId = input.requestId).map (·.2.status))
      else .running := ⟨_, rfl⟩
  refine ⟨rfl, .inr ⟨request, hfound, ?_, ⟨status, ?_⟩, fun key hkey => ?_, fun key hne => ?_⟩⟩
  · rw [hscope, ← hcurrent.2, ← hcurrent.1, hcursor, hcomplete]
  · rw [Table.lookup_update, if_pos rfl, hkept, hfound, hstatus]
    rfl
  · by_cases hnew : key ∈ fresh
    · obtain ⟨id, item, -, -, hitem, hof, hfor, -⟩ := hruns key hnew
      exact ⟨id, item, hitem, hof, hfor⟩
    · rw [hmem, not_and, not_forall] at hnew
      obtain ⟨id, hid⟩ := hnew hkey
      rw [not_not] at hid
      have hR : OfRequests (fun _ => True) _ (EntriesMove fun _ => False) :=
        entriesMove_ofRequests _
      exact ⟨id, (hR.trans (hR.pagePartitions _ fresh)
        (hR.items (fun _ _ => trivial) henqueued)).items.isItem hid⟩
  · have hrow : ∀ k, db₁.partitionRow k =
        (db.pagePartitions input.keys.dedup fresh).partitionRow k := by
      intro k
      rw [partitionRow, partitionRow, hpartitions]
    have hcount := db.requested_pagePartitions input.keys.nodup_dedup fresh key
    rw [← hrow] at hcount
    have hnew : key ∈ fresh := by
      by_contra hnot
      rw [if_neg (fun h => hnot h.2)] at hcount
      exact hne hcount
    obtain ⟨hkey, hnone⟩ := (hmem key).mp hnew
    rw [if_pos ⟨List.mem_dedup.mpr hkey, hnew⟩] at hcount
    refine ⟨hnone, hcount, ?_⟩
    have hrun := hruns key hnew
    rw [← hrow] at hrun
    exact hrun

lemma beginInternalRefresh_begins {input : BeginLedgerInternalRefreshInput}
    (h : db.beginInternalRefresh input requestId refused = .ok (state, db')) :
    ∃ request, db'.ledgerArtifactRequests.lookup state.requestId = some request ∧
      request.requestFingerprint = input.requestFingerprint ∧ (db' = db ∨
        (state.requestId = requestId ∧ db.ledgerArtifactRequests.lookup requestId = none ∧
          request.internalScope = some ⟨none, false⟩)) := by
  unfold beginInternalRefresh at h
  split at h
  · cases h
  · rename_i existingId existing hfound
    obtain ⟨answer, hmatch, h⟩ := bind_eq_ok.mp h
    obtain ⟨read, hread, h⟩ := bind_eq_ok.mp h
    cases h
    obtain ⟨scope, -, hid, -, -⟩ := internalState_ok hread
    obtain ⟨hlookup, -⟩ := Table.mem_findMany.mp (List.mem_of_head? hfound)
    unfold matchingRequest at hmatch
    split_ifs at hmatch with hfingerprint
    rw [not_not] at hfingerprint
    exact ⟨existing, by rw [hid]; exact hlookup, hfingerprint, .inl rfl⟩
  · obtain ⟨db₁, hcreate, h⟩ := bind_eq_ok.mp h
    obtain ⟨read, hread, h⟩ := bind_eq_ok.mp h
    cases h
    obtain ⟨scope, -, hid, -, -⟩ := internalState_ok hread
    obtain ⟨requests, hrequests, rfl⟩ := createRequest_ok hcreate
    refine ⟨{ orgId := input.orgId, kind := .refresh, actor := input.actor
              idempotencyKey := input.idempotencyKey
              requestFingerprint := input.requestFingerprint
              internalScope := some ⟨none, false⟩ }, ?_, rfl,
      .inr ⟨hid, Table.create_fresh hrequests, rfl⟩⟩
    rw [hid]
    exact (Table.lookup_create hrequests _).trans (if_pos rfl)

end

end Database

namespace InternalRefresh

open Database
open Reconciliation (storeBytes)
open TextCodes

/-! ### Texts are of one thing only -/

lemma storeBytes_injective : Function.Injective storeBytes := by
  intro a b h
  unfold storeBytes at h
  have hbytes := List.map_injective_iff.mpr (fun x y => UInt8.toNat_inj.mp) h
  have harray : a.toUTF8 = b.toUTF8 := ByteArray.ext (Array.toList_inj.mp hbytes)
  exact String.toByteArray_inj.mp harray

lemma place_injective : Function.Injective place :=
  List.map_injective_iff.mpr storeBytes_injective

lemma listText_injective : Function.Injective listText := by
  intro a b h
  have hlists := encodeTexts_injective h
  cases a <;> cases b <;> simp_all [encodeTexts_injective.eq_iff]

lemma selectionText_injective : Function.Injective RefreshSelection.text := by
  rintro (⟨names, days | ⟨first, last⟩⟩ | parent) (⟨names', days' | ⟨first', last'⟩⟩ | parent') h
  all_goals
    have htexts := encodeTexts_injective h
    simp_all [listText_injective.eq_iff]

lemma same_of_fingerprint {a b : RequestInternalInput} (h : fingerprint a = fingerprint b) :
    a.orgId = b.orgId ∧ a.selection = b.selection := by
  have htexts := encodeTexts_injective h
  simp only [List.cons.injEq, true_and, and_true] at htexts
  exact ⟨htexts.1, selectionText_injective htexts.2.2⟩

lemma decodeCursor_encodeCursor {binding : String} {length : ℕ} {position : List String}
    (h : position.length = length) :
    decodeCursor binding length (some (encodeCursor binding position)) = .ok (some position) := by
  have hdecode : decodeTexts (encodeCursor binding position) =
      some [binding, encodeTexts position] := decodeTexts_encodeTexts _
  have hnonempty : encodeCursor binding position ≠ "" := by
    intro hempty
    rw [hempty] at hdecode
    cases hdecode
  have hposition : decodePosition binding length (some [binding, encodeTexts position]) =
      some position := by
    rw [decodePosition, decodeTexts_encodeTexts, Option.filter_some, if_pos]
    simpa using h
  rw [decodeCursor, if_neg (by simpa using hnonempty), Option.bind_some, hdecode, hposition]

/-! ### Rows of a page -/

/-- The cursor is at the position or behind it. -/
def Covered (input : RequestInternalInput) (cursor : Option String) (position : List String) :
    Prop :=
  ∃ last, decodeCursor input.binding input.selection.positionLength cursor = .ok (some last) ∧
    place position ≤ place last

lemma not_covered_none {input : RequestInternalInput} {position : List String} :
    ¬ Covered input none position := by
  rintro ⟨last, hlast, -⟩
  cases hlast

variable {config : Option String} {s s' : System} {input : RequestInternalInput}
  {requestId : String} {row : ListedRow}

lemma rows_length (h : row ∈ s.rows input) :
    row.position.length = input.selection.positionLength := by
  unfold System.rows at h
  split at h
  all_goals
    rename_i hselection
    obtain ⟨x, -, rfl⟩ := List.mem_map.mp h
    rw [hselection]
    rfl

lemma rows_position {row' : ListedRow} (h : row ∈ s.rows input) (h' : row' ∈ s.rows input)
    (hposition : place row.position = place row'.position) : row = row' := by
  replace hposition := place_injective hposition
  unfold System.rows at h h'
  cases hselection : input.selection with
  | partitions selection =>
    rw [hselection] at h h'
    obtain ⟨a, ha, rfl⟩ := List.mem_map.mp h
    obtain ⟨b, hb, rfl⟩ := List.mem_map.mp h'
    unfold System.partitionKeys at ha hb
    rw [List.mem_dedup, List.mem_filter, decide_eq_true_eq] at ha hb
    simp only [List.cons.injEq, and_true] at hposition
    have hkey : a = b := by
      cases a
      cases b
      simp_all
    rw [hkey]
  | retry parent =>
    rw [hselection] at h h'
    obtain ⟨⟨id, item⟩, hitem, rfl⟩ := List.mem_map.mp h
    obtain ⟨⟨id', item'⟩, hitem', rfl⟩ := List.mem_map.mp h'
    simp only [List.cons.injEq, and_true] at hposition
    subst hposition
    have hsame := (Table.mem_findMany.mp hitem).1.symm.trans (Table.mem_findMany.mp hitem').1
    cases hsame
    rfl

lemma mem_previewPage {cursor next : Option String}
    (h : s.previewPage input cursor = .ok (keys, next)) (hrow : row ∈ s.rows input)
    (hselected : row.selected = true) (hcursor : ¬ Covered input cursor row.position)
    (hnext : next = none ∨ Covered input next row.position) : row.key ∈ keys := by
  unfold System.previewPage at h
  obtain ⟨position, hposition, h⟩ := bind_eq_ok.mp h
  obtain ⟨page, hpage⟩ : ∃ page, page = KeysetPages.page (fun row => place row.position)
      (s.rows input) (position.map place) ledgerPageSize := ⟨_, rfl⟩
  rw [← hpage] at h
  dsimp only at h
  split at h
  · cases h
  cases h
  refine List.mem_map.mpr ⟨row, List.mem_filter.mpr ⟨?_, hselected⟩, rfl⟩
  rw [hpage]
  refine KeysetPages.mem_page (by decide) (fun a ha b hb => rows_position ha hb) hrow ?_ ?_
  · intro c hc
    obtain ⟨last, rfl, rfl⟩ := Option.map_eq_some_iff.mp hc
    exact not_le.mp fun hle => hcursor ⟨last, hposition, hle⟩
  · intro last hlast
    rw [← hpage] at hlast
    rw [hlast] at hnext
    rcases hnext with hnone | ⟨found, hfound, hle⟩
    · cases hnone
    · have hmem : last ∈ s.rows input := by
        have hin : last ∈ page.1 := by
          rw [hpage] at hlast ⊢
          exact KeysetPages.mem_of_last hlast
        rw [hpage] at hin
        exact (KeysetPages.mem_rows_of_mem_page hin).1
      rw [Option.map_some, decodeCursor_encodeCursor (rows_length hmem)] at hfound
      cases hfound
      exact hle

/-! ### Drivers -/

/-- The driver works on a request that has been made for what it enumerates. -/
def Driven (db : Database) (driver : Driver) : Prop :=
  ∀ requestId, driver.stage.requestId = some requestId →
    ∃ request, db.ledgerArtifactRequests.lookup requestId = some request ∧
      request.requestFingerprint = fingerprint driver.input

/-- What holds in every reachable state. -/
structure System.Sound (s : System) : Prop where
  generations : Generations s.db
  items : s.db.DistinctItems
  drivers : ∀ n driver, s.drivers.lookup n = some driver → Driven s.db driver

/-- What holds of a row that stays listed while the request is enumerated. -/
structure System.Covers (s : System) (requestId : String) (input : RequestInternalInput)
    (row : ListedRow) : Prop where
  request : ∃ request scope, s.db.ledgerArtifactRequests.lookup requestId = some request ∧
    request.requestFingerprint = fingerprint input ∧ request.internalScope = some scope ∧
    (scope.enumerationComplete = true ∨ Covered input scope.enumerationCursor row.position →
      ∃ id, s.db.IsItem requestId row.key id)
  pages : ∀ n driver cursor keys next, s.drivers.lookup n = some driver →
    driver.stage = .holding requestId cursor keys next →
    ¬ Covered input cursor row.position → (next = none ∨ Covered input next row.position) →
      row.key ∈ keys

/-- A page of the request has been appended by the driver that held it. -/
def Turned (s : System) (db' : Database) (requestId : String) : Prop :=
  ∃ n driver cursor keys nextCursor request, s.drivers.lookup n = some driver ∧
    driver.stage = .holding requestId cursor keys nextCursor ∧
    Appends s.db ⟨driver.input.orgId, requestId, cursor, nextCursor, keys⟩ request db'

/-- What becomes of the database in a step: nothing is lost, and a request turns its page only
when one is appended. -/
structure DbMoves (s : System) (db' : Database) : Prop where
  generations : Generations db'
  items : ItemsMove s.db db'
  requests : ∃ paged, RequestsKept paged s.db db' ∧ ∀ requestId, paged requestId →
    Turned s db' requestId

/-- What a step does: a driver that is new works on its request, and holds what it has read. -/
structure Moves (s s' : System) : Prop extends DbMoves s s'.db where
  drivers : ∀ n driver, s'.drivers.lookup n = some driver →
    s.drivers.lookup n = some driver ∨ (Driven s'.db driver ∧ ∀ requestId cursor keys next,
      driver.stage = .holding requestId cursor keys next →
        s.previewPage driver.input cursor = .ok (keys, next) ∧
          s.db.ledgerArtifactRequests.lookup requestId ≠ none)

variable {driver : Driver} {db' : Database}

lemma Driven.kept {paged : String → Prop} {db : Database} (h : Driven db driver)
    (hkept : RequestsKept paged db db') : Driven db' driver := by
  intro requestId hrequest
  obtain ⟨request, hlookup, hfingerprint⟩ := h requestId hrequest
  obtain ⟨request', hlookup', hentry, -⟩ := hkept requestId request hlookup
  simp only [LedgerArtifactRequest.entry, Prod.mk.injEq] at hentry
  exact ⟨request', hlookup', hentry.2.2.2.2.trans hfingerprint⟩

lemma DbMoves.refl (h : s.Sound) : DbMoves s s.db :=
  ⟨h.generations, .refl _, fun _ => False, .refl _, fun _ hf => hf.elim⟩

lemma DbMoves.operation (config : Option String) (h : s.Sound) (op : Operation)
    (hop : op.pageOf = none) :
    DbMoves s (s.db.step config op) := by
  have hentries : EntriesMove (fun id => op.pageOf = some id) s.db (s.db.step config op) :=
    entriesMove_step h.generations.runs.unique op
  refine ⟨(h.generations.step op).1, hentries.items, _, hentries.requests, fun id hid => ?_⟩
  rw [hop] at hid
  cases hid

lemma moves_refl (h : s.Sound) : Moves s s := ⟨.refl h, fun _ _ hdriver => .inl hdriver⟩

lemma moves_drop (h : DbMoves s db') (n : ℕ) :
    Moves s (({ s with db := db' } : System).drop n) := by
  refine ⟨h, fun m driver hdriver => .inl ?_⟩
  dsimp only [System.drop] at hdriver
  rw [Table.lookup_deleteMany] at hdriver
  exact (Option.filter_eq_some_iff.mp hdriver).1

lemma moves_put (h : DbMoves s db') (n : ℕ) (hdriven : Driven db' driver)
    (hpage : ∀ requestId cursor keys next,
      driver.stage = .holding requestId cursor keys next →
        s.previewPage driver.input cursor = .ok (keys, next) ∧
          s.db.ledgerArtifactRequests.lookup requestId ≠ none) :
    Moves s (({ s with db := db' } : System).put n driver) := by
  refine ⟨h, fun m found hfound => ?_⟩
  dsimp only [System.put] at hfound
  rw [Table.lookup_insert'] at hfound
  split_ifs at hfound
  · cases hfound
    exact .inr ⟨hdriven, hpage⟩
  · exact .inl hfound

lemma moves_proceed (h : DbMoves s db') (n : ℕ)
    {result : Except WorkerError LedgerInternalRefreshState}
    (hdriven : ∀ state, result = .ok state →
      Driven db' { driver with stage := .reading state.requestId state.cursor }) :
    Moves s (({ s with db := db' } : System).proceed n driver result) := by
  unfold System.proceed
  split
  · exact moves_drop h n
  · rename_i state
    split_ifs
    · exact moves_drop h n
    · exact moves_put h n (hdriven state rfl) (by simp)

lemma prepare_stage (h : s.prepare input = .ok driver) : driver.stage.requestId = none := by
  unfold System.prepare at h
  obtain ⟨-, -, h⟩ := bind_eq_ok.mp h
  obtain ⟨selection, -, h⟩ := bind_eq_ok.mp h
  split at h
  · cases h
    rfl
  · obtain ⟨found, -, h⟩ := bind_eq_ok.mp h
    cases h
    cases found <;> rfl

lemma moves_start (h : s.Sound) (n : ℕ) : Moves s (s.start n input) := by
  unfold System.start
  split
  · rename_i driver _ hprepare
    have hstage := prepare_stage hprepare
    refine moves_put (.refl h) n (fun requestId hrequest => ?_) (fun requestId _ _ _ hholding => ?_)
    · rw [hstage] at hrequest
      cases hrequest
    · rw [hholding] at hstage
      cases hstage
  · exact moves_refl h

lemma moves_checkParent (h : s.Sound) (n : ℕ) (driver : Driver) :
    Moves s (s.checkParent n driver) := by
  unfold System.checkParent
  split
  · split_ifs
    · refine moves_put (.refl h) n (fun requestId hrequest => ?_) (by simp)
      cases hrequest
    · exact moves_drop (.refl h) n
  · exact moves_refl h

lemma moves_begin (h : s.Sound) (n : ℕ) (requestId : String) (refused : Option String)
    (driver : Driver) : Moves s (s.begin n requestId refused driver) := by
  unfold System.begin
  split
  swap
  · exact moves_refl h
  obtain ⟨result, hresult⟩ : ∃ result, result =
      s.db.beginInternalRefresh driver.input.begin requestId refused := ⟨_, rfl⟩
  have hdb : DbMoves s (s.db.after result) := by
    rw [hresult]
    exact DbMoves.operation none h (.ledgerRequests
      (.beginInternalRefresh driver.input.begin requestId refused)) rfl
  rw [← hresult]
  refine moves_proceed hdb n fun state hstate => ?_
  cases hok : result with
  | error e =>
    rw [hok] at hstate
    cases hstate
  | ok answer =>
    rw [hok] at hstate
    cases hstate
    obtain ⟨request, hlookup, hfingerprint, -⟩ :=
      beginInternalRefresh_begins (hresult.symm.trans hok)
    intro id hid
    cases hid
    exact ⟨request, hlookup, hfingerprint⟩

variable {n : ℕ}

lemma moves_readPage (h : s.Sound) (refused : Option String)
    (hdriver : s.drivers.lookup n = some driver) : Moves s (s.readPage n refused driver) := by
  unfold System.readPage
  split
  · exact moves_drop (.refl h) n
  · rename_i requestId cursor hstage
    split
    · exact moves_drop (.refl h) n
    · rename_i keys next hpage
      refine moves_put (.refl h) n (fun id hid => ?_) (fun id c k nx hholding => ?_)
      · refine h.drivers n driver hdriver id ?_
        rw [hstage]
        exact hid
      · cases hholding
        obtain ⟨request, hrequest, -⟩ := h.drivers n driver hdriver requestId (by rw [hstage]; rfl)
        exact ⟨hpage, by simp [hrequest]⟩
  · exact moves_refl h

lemma moves_append (h : s.Sound) (ids : RefreshIds) (refused : Option String) (now : ℕ)
    (hdriver : s.drivers.lookup n = some driver) : Moves s (s.append n ids refused now driver) := by
  unfold System.append
  split
  swap
  · exact moves_refl h
  rename_i requestId cursor keys nextCursor hstage
  obtain ⟨page, hpage⟩ : ∃ page : AppendInternalRefreshPageInput, page =
      ⟨driver.input.orgId, requestId, cursor, nextCursor, keys⟩ := ⟨_, rfl⟩
  have hop : s.db.after (s.db.appendInternalRefreshPage page ids refused now) = s.db.step none
      (.ledgerRequests (.appendInternalRefreshPage page ids refused now)) := rfl
  have hunique := h.generations.runs.unique
  rw [← hpage]
  cases hresult : s.db.appendInternalRefreshPage page ids refused now with
  | error e => exact moves_drop (.refl h) n
  | ok answer =>
    obtain ⟨hid, hturned⟩ := appendInternalRefreshPage_appends hresult
    rw [hresult] at hop
    have hdb : DbMoves s answer.2 := by
      rcases hturned with hsame | ⟨request, happends⟩
      · rw [hsame]
        exact .refl h
      · have hafter : answer.2 = s.db.step none
            (.ledgerRequests (.appendInternalRefreshPage page ids refused now)) := hop
        refine ⟨?_, ?_, fun id => id = requestId, ?_, fun id hid => ?_⟩
        · rw [hafter]
          exact (h.generations.step _).1
        · rw [hafter]
          exact (entriesMove_step hunique _).items
        · rw [hafter]
          intro id old hold
          have hkept : RequestsKept _ s.db (s.db.step none
              (.ledgerRequests (.appendInternalRefreshPage page ids refused now))) :=
            (entriesMove_step hunique _).requests
          obtain ⟨new, hnew, hentry, hscope⟩ := hkept id old hold
          refine ⟨new, hnew, hentry, hscope.imp_right fun hpaged => ?_⟩
          have hpageOf := Option.some.inj hpaged
          rw [hpage] at hpageOf
          exact hpageOf.symm
        · subst hid
          rw [hpage] at happends
          exact ⟨n, driver, cursor, keys, nextCursor, request, hdriver, hstage, happends⟩
    refine moves_proceed hdb n fun state hstate => ?_
    cases hstate
    obtain ⟨paged, hkept, -⟩ := hdb.requests
    have hdriven : Driven answer.2 driver := (h.drivers n driver hdriver).kept hkept
    intro id hrequest
    refine hdriven id ?_
    rw [hstage]
    rw [hpage] at hid
    exact (congrArg some hid).symm.trans hrequest

/-- **What a step does.** -/
theorem moves_step (h : s.Sound) (e : Event) : Moves s (step config s e) := by
  have hdrive : ∀ {n : ℕ} {f : Driver → System},
      (∀ driver, s.drivers.lookup n = some driver → Moves s (f driver)) →
        Moves s (s.drive n f) := by
    intro n f hf
    unfold System.drive
    split
    · exact moves_refl h
    · rename_i driver hdriver
      exact hf driver hdriver
  cases e with
  | operation op =>
    rw [step]
    split_ifs with hop
    · exact moves_refl h
    · rw [Option.not_isSome_iff_eq_none] at hop
      exact ⟨.operation config h op hop, fun _ _ hdriver => .inl hdriver⟩
  | setFacts facts => exact ⟨.refl h, fun _ _ hdriver => .inl hdriver⟩
  | start n input => exact moves_start h n
  | checkParent n => exact hdrive fun driver _ => moves_checkParent h n driver
  | begin n requestId refused =>
    exact hdrive fun driver _ => moves_begin h n requestId refused driver
  | readPage n refused => exact hdrive fun driver hdriver => moves_readPage h refused hdriver
  | append n ids refused now =>
    exact hdrive fun driver hdriver => moves_append h ids refused now hdriver
  | crash n => exact moves_drop (.refl h) n

theorem System.Sound.step (h : s.Sound) (e : Event) : (step config s e).Sound := by
  have hmoves : Moves s (InternalRefresh.step config s e) := moves_step h e
  obtain ⟨paged, hkept, -⟩ := hmoves.requests
  refine ⟨hmoves.generations, hmoves.items.distinct h.items, fun n driver hdriver => ?_⟩
  rcases hmoves.drivers n driver hdriver with hold | ⟨hnew, -⟩
  · exact (h.drivers n driver hold).kept hkept
  · exact hnew

/-- A row that is listed is covered in the next state too. -/
theorem System.Covers.step (hs : s.Sound) (h : s.Covers requestId input row)
    (hrow : row ∈ s.rows input) (hselected : row.selected = true) (e : Event) :
    (step config s e).Covers requestId input row := by
  have hmoves : Moves s (InternalRefresh.step config s e) := moves_step hs e
  obtain ⟨request, scope, hlookup, hfingerprint, hscope, hcovered⟩ := h.request
  -- whatever a driver of the request enumerates is what the request is made for
  have hsame : ∀ {db : Database} {driver : Driver} {r : LedgerArtifactRequest},
      Driven db driver → driver.stage.requestId = some requestId →
      db.ledgerArtifactRequests.lookup requestId = some r →
      r.requestFingerprint = fingerprint input →
      driver.input.orgId = input.orgId ∧ driver.input.selection = input.selection := by
    intro db driver r hdriven hstage hr hf
    obtain ⟨found, hfound, hfound'⟩ := hdriven requestId hstage
    rw [hr] at hfound
    cases hfound
    exact same_of_fingerprint (hfound'.symm.trans hf)
  obtain ⟨paged, hkept, hturned⟩ := hmoves.requests
  obtain ⟨request', hlookup', hentry, hscope'⟩ := hkept requestId request hlookup
  have hfingerprint' : request'.requestFingerprint = fingerprint input := by
    simp only [LedgerArtifactRequest.entry, Prod.mk.injEq] at hentry
    exact hentry.2.2.2.2.trans hfingerprint
  refine ⟨?_, fun n driver cursor keys next hdriver hstage => ?_⟩
  · rcases hscope' with hscope' | hpaged
    · refine ⟨request', scope, hlookup', hfingerprint', hscope'.trans hscope, fun hc => ?_⟩
      obtain ⟨id, hid⟩ := hcovered hc
      exact ⟨id, hmoves.items.isItem hid⟩
    · -- the page that was appended reaches from the old cursor to the new one
      obtain ⟨n, driver, cursor, keys, next, found, hdriver, hstage, happends⟩ :=
        hturned requestId hpaged
      have hfound := happends.found
      rw [hlookup] at hfound
      cases hfound
      obtain ⟨status, hturn⟩ := happends.turned
      rw [hlookup'] at hturn
      cases hturn
      have hbefore := happends.scope
      rw [hscope] at hbefore
      cases hbefore
      refine ⟨_, ⟨next, next.isNone⟩, hlookup', hfingerprint', rfl, fun hc => ?_⟩
      by_cases hcursor : Covered input cursor row.position
      · obtain ⟨id, hid⟩ := hcovered (.inr hcursor)
        exact ⟨id, hmoves.items.isItem hid⟩
      · have hnext : next = none ∨ Covered input next row.position :=
          hc.imp_left Option.isNone_iff_eq_none.mp
        exact happends.items row.key
          (h.pages n driver cursor keys next hdriver hstage hcursor hnext)
  · rcases hmoves.drivers n driver hdriver with hold | ⟨hdriven, hpage⟩
    · exact h.pages n driver cursor keys next hold hstage
    · obtain ⟨hpreview, -⟩ := hpage requestId cursor keys next hstage
      obtain ⟨horg, hselection⟩ := hsame hdriven (by rw [hstage]; rfl) hlookup' hfingerprint'
      have hrows : s.rows driver.input = s.rows input := by
        unfold System.rows
        rw [horg, hselection]
      have hbinding : driver.input.binding = input.binding := by
        unfold RequestInternalInput.binding
        rw [horg, hselection]
      intro hcursor hnext
      refine mem_previewPage hpreview (hrows ▸ hrow) hselected ?_ ?_
      · unfold Covered at hcursor ⊢
        rw [hbinding, hselection]
        exact hcursor
      · unfold Covered at hnext ⊢
        rw [hbinding, hselection]
        exact hnext

/-! ### Runs -/

/-- The partition is listed, and is one of those that are refreshed. -/
def System.Lists (s : System) (input : RequestInternalInput) (key : LedgerPartitionKey) : Prop :=
  ∃ row ∈ s.rows input, row.key = key ∧ row.selected = true

lemma row_eq {row' : ListedRow} (hs : s'.Sound) (hitems : ItemsMove s.db s'.db)
    (hrow : row ∈ s.rows input) (hrow' : row' ∈ s'.rows input) (hkey : row'.key = row.key)
    (hselected : row'.selected = row.selected) : row' = row := by
  unfold System.rows at hrow hrow'
  cases hselection : input.selection with
  | partitions selection =>
    rw [hselection] at hrow hrow'
    obtain ⟨a, -, rfl⟩ := List.mem_map.mp hrow
    obtain ⟨b, -, rfl⟩ := List.mem_map.mp hrow'
    dsimp only at hkey
    rw [hkey]
  | retry parent =>
    rw [hselection] at hrow hrow'
    obtain ⟨⟨id, item⟩, hitem, rfl⟩ := List.mem_map.mp hrow
    obtain ⟨⟨id', item'⟩, hitem', rfl⟩ := List.mem_map.mp hrow'
    obtain ⟨hlookup, hof⟩ := Table.mem_findMany.mp hitem
    obtain ⟨hlookup', hof'⟩ := Table.mem_findMany.mp hitem'
    rw [Bool.and_eq_true, decide_eq_true_eq, decide_eq_true_eq] at hof hof'
    dsimp only at hkey hselected
    have hthere : s'.db.IsItem parent item.partitionId id :=
      hitems.isItem ⟨item, hlookup, hof.2, rfl⟩
    have hid : id' = id := hs.items parent item.partitionId id' id
      ⟨item', hlookup', hof'.2, hkey⟩ hthere
    simp only [hkey, hid, hselected]

/-- **The run lemma**: a row that stays listed stays covered. -/
theorem System.Covers.run (hs : s.Sound) (h : s.Covers requestId input row)
    (hrow : row ∈ s.rows input) (hselected : row.selected = true) {events : List Event}
    (hlists : ∀ first, first <+: events →
      (first.foldl (InternalRefresh.step config) s).Lists input row.key) :
    (events.foldl (InternalRefresh.step config) s).Covers requestId input row := by
  induction events generalizing s with
  | nil => exact h
  | cons e events ih =>
    have hstep : (InternalRefresh.step config s e).Sound := hs.step e
    obtain ⟨row', hrow', hkey, hselected'⟩ := hlists [e] ⟨events, rfl⟩
    have hsame : row' = row := row_eq hstep (moves_step hs e).items hrow hrow' hkey
      (hselected'.trans hselected.symm)
    rw [hsame] at hrow'
    exact ih hstep (h.step hs hrow hselected e) hrow' fun first hfirst =>
      hlists (e :: first) (List.cons_prefix_cons.mpr ⟨rfl, hfirst⟩)

theorem System.Sound.run (h : s.Sound) (events : List Event) :
    (events.foldl (InternalRefresh.step config) s).Sound := by
  induction events generalizing s with
  | nil => exact h
  | cons e events ih => exact ih (h.step e)

lemma sound_empty : System.Sound {} :=
  { generations := .empty
    items := by
      rintro requestId key id id' ⟨item, hitem, -⟩
      cases hitem
    drivers := by
      intro n driver hdriver
      cases hdriver }

lemma db_proceed (n : ℕ) (driver : Driver)
    (result : Except WorkerError LedgerInternalRefreshState) :
    (s.proceed n driver result).db = s.db := by
  unfold System.proceed
  split
  · rfl
  · split_ifs <;> rfl

lemma db_start (n : ℕ) : (s.start n input).db = s.db := by
  unfold System.start
  split <;> rfl

lemma db_checkParent (n : ℕ) (driver : Driver) : (s.checkParent n driver).db = s.db := by
  unfold System.checkParent
  split
  · split_ifs <;> rfl
  · rfl

lemma db_readPage (n : ℕ) (refused : Option String) (driver : Driver) :
    (s.readPage n refused driver).db = s.db := by
  unfold System.readPage
  split
  · rfl
  · split <;> rfl
  · rfl

lemma partitions_begin (n : ℕ) (refused : Option String) (driver : Driver) :
    (s.begin n requestId refused driver).db.ledgerPdfPartitions = s.db.ledgerPdfPartitions := by
  unfold System.begin
  split
  swap
  · rfl
  rw [db_proceed]
  cases hresult : s.db.beginInternalRefresh driver.input.begin requestId refused with
  | error e => rfl
  | ok answer =>
    have hsame : answer.2.ledgerPdfPartitions = s.db.ledgerPdfPartitions := by
      rcases beginInternalRefresh_ok hresult with hsame | ⟨request, -, hcreate⟩
      · rw [hsame]
      · obtain ⟨requests, -, hsame⟩ := createRequest_ok hcreate
        rw [hsame]
    exact hsame

lemma covers_begin (hs : s.Sound) (hdriver : s.drivers.lookup n = some driver)
    (hnone : s.db.ledgerArtifactRequests.lookup requestId = none)
    (hcreated : (step config s (.begin n requestId refused)).db.ledgerArtifactRequests.lookup
      requestId ≠ none) (row : ListedRow) :
    (step config s (.begin n requestId refused)).Covers requestId driver.input row := by
  have hmoves : Moves s (step config s (.begin n requestId refused)) := moves_step hs _
  refine ⟨?_, fun m found cursor keys next hfound hstage => ?_⟩
  · have hstep : step config s (.begin n requestId refused) =
        s.begin n requestId refused driver := by
      dsimp only [step, System.drive]
      rw [hdriver]
    rw [hstep] at hcreated ⊢
    unfold System.begin at hcreated ⊢
    split at hcreated
    swap
    · exact absurd hnone hcreated
    dsimp only at hcreated ⊢
    cases hresult : s.db.beginInternalRefresh driver.input.begin requestId refused with
    | error e =>
      rw [hresult] at hcreated
      exact absurd hnone hcreated
    | ok answer =>
      have hdb : ∀ result, (({ s with
          db := s.db.after (.ok answer) } : System).proceed n driver result).db = answer.2 :=
        fun result => db_proceed n driver result
      rw [hresult, hdb] at hcreated
      rw [hdb]
      obtain ⟨request, hlookup, hfingerprint, hsame | ⟨hid, -, hscope⟩⟩ :=
        beginInternalRefresh_begins hresult
      · rw [hsame] at hcreated
        exact absurd hnone hcreated
      · rw [hid] at hlookup
        refine ⟨request, _, hlookup, hfingerprint, hscope, fun hc => ?_⟩
        rcases hc with hc | hc
        · cases hc
        · exact absurd hc not_covered_none
  · exfalso
    rcases hmoves.drivers m found hfound with hold | ⟨-, hpage⟩
    · obtain ⟨request, hrequest, -⟩ := hs.drivers m found hold requestId (by rw [hstage]; rfl)
      rw [hnone] at hrequest
      cases hrequest
    · exact (hpage requestId cursor keys next hstage).2 hnone

lemma advance_append {ids : RefreshIds} {now : ℕ}
    (hne : ((s.append n ids refused now driver).db.partitionRow key).requestedGeneration ≠
      (s.db.partitionRow key).requestedGeneration) :
    ∃ requestId, driver.stage.requestId = some requestId ∧
      (∀ id, ¬ s.db.IsItem requestId key id) ∧
      ((s.append n ids refused now driver).db.partitionRow key).requestedGeneration =
        (s.db.partitionRow key).requestedGeneration + 1 ∧
      (s.append n ids refused now driver).db.HasRun requestId key
        ((s.append n ids refused now driver).db.partitionRow key).requestedGeneration := by
  unfold System.append at hne ⊢
  split at hne
  swap
  · exact absurd rfl hne
  rename_i requestId cursor keys nextCursor hstage
  rw [hstage]
  dsimp only at hne ⊢
  obtain ⟨page, hpage⟩ : ∃ page : AppendInternalRefreshPageInput, page =
      ⟨driver.input.orgId, requestId, cursor, nextCursor, keys⟩ := ⟨_, rfl⟩
  rw [← hpage] at hne ⊢
  rw [db_proceed] at hne ⊢
  cases hresult : s.db.appendInternalRefreshPage page ids refused now with
  | error e =>
    rw [hresult] at hne
    exact absurd rfl hne
  | ok answer =>
    rw [hresult] at hne
    obtain ⟨-, hsame | ⟨request, happends⟩⟩ := appendInternalRefreshPage_appends hresult
    · have hafter : s.db.after (.ok answer) = s.db := hsame
      rw [hafter] at hne
      exact absurd rfl hne
    · have hrequest : page.requestId = requestId := by rw [hpage]
      obtain ⟨hnone, hcount, hrun⟩ := happends.generations key hne
      rw [hrequest] at hnone hrun
      exact ⟨requestId, rfl, hnone, hcount, hrun⟩

/-- **Internal refreshes enumerate every partition once.** After any steps, by any drivers:
a request has at most one item for a partition; a driver raises the generation of a partition only
for one that has no item in its request, by one, with the item and the run of that generation;
and a request that is begun and complete later has exactly one item for each selected partition
that was listed all the while. -/
theorem internal_refresh_enumeration (config : Option String) (before : List Event) :
    let s := run config before
    (∀ requestId key id id', s.db.IsItem requestId key id → s.db.IsItem requestId key id' →
      id = id') ∧
    (∀ e key, (∀ op, e ≠ .operation op) →
      ((step config s e).db.partitionRow key).requestedGeneration ≠
        (s.db.partitionRow key).requestedGeneration →
      ∃ n ids refused now driver requestId, e = .append n ids refused now ∧
        s.drivers.lookup n = some driver ∧ driver.stage.requestId = some requestId ∧
        (∀ id, ¬ s.db.IsItem requestId key id) ∧
        ((step config s e).db.partitionRow key).requestedGeneration =
          (s.db.partitionRow key).requestedGeneration + 1 ∧
        (step config s e).db.HasRun requestId key
          ((step config s e).db.partitionRow key).requestedGeneration) ∧
    ∀ n driver requestId refused key during request scope,
      let begun := step config s (.begin n requestId refused)
      let s' := during.foldl (step config) begun
      s.drivers.lookup n = some driver → s.db.ledgerArtifactRequests.lookup requestId = none →
      begun.db.ledgerArtifactRequests.lookup requestId ≠ none →
      (∀ first, first <+: during → (first.foldl (step config) begun).Lists driver.input key) →
      s'.db.ledgerArtifactRequests.lookup requestId = some request →
      request.internalScope = some scope → scope.enumerationComplete = true →
      ∃! id, s'.db.IsItem requestId key id := by
  have hs : (run config before).Sound := sound_empty.run before
  refine ⟨hs.items, fun e key hop hne => ?_, ?_⟩
  · have hdrive : ∀ {n : ℕ} {f : Driver → System},
        (∀ driver, (f driver).db.ledgerPdfPartitions =
          (run config before).db.ledgerPdfPartitions) →
        ((run config before).drive n f).db.ledgerPdfPartitions ≠
          (run config before).db.ledgerPdfPartitions → False := by
      intro n f hf hchanged
      unfold System.drive at hchanged
      split at hchanged
      · exact hchanged rfl
      · exact hchanged (hf _)
    have hchanged : (step config (run config before) e).db.ledgerPdfPartitions ≠
        (run config before).db.ledgerPdfPartitions := by
      intro hsame
      rw [partitionRow, partitionRow, hsame] at hne
      exact hne rfl
    cases e with
    | operation op => exact absurd rfl (hop op)
    | append n ids refused now =>
      dsimp only [step, System.drive] at hne ⊢
      split at hne
      · exact absurd rfl hne
      · rename_i driver hdriver
        obtain ⟨requestId, hstage, hadvance⟩ := advance_append hne
        exact ⟨n, ids, refused, now, driver, requestId, rfl, hdriver, hstage, hadvance⟩
    | begin n requestId refused =>
      exact (hdrive (fun driver => partitions_begin n refused driver) hchanged).elim
    | start n input => exact absurd (by rw [step, db_start]) hchanged
    | checkParent n =>
      exact (hdrive (fun driver => by rw [db_checkParent]) hchanged).elim
    | readPage n refused =>
      exact (hdrive (fun driver => by rw [db_readPage]) hchanged).elim
    | setFacts facts => exact absurd rfl hne
    | crash n => exact absurd rfl hne
  · intro n driver requestId refused key during request scope begun s' hdriver hnone hcreated hlists
      hrequest hscope hcomplete
    obtain ⟨row, hrow, rfl, hselected⟩ := hlists [] (List.nil_prefix)
    have hcovers := (covers_begin hs hdriver hnone hcreated row).run (hs.step _) hrow hselected
      hlists
    obtain ⟨request', scope', hlookup, -, hscope', hitem⟩ := hcovers.request
    have hsame := hrequest.symm.trans hlookup
    cases hsame
    rw [hscope] at hscope'
    cases hscope'
    obtain ⟨id, hid⟩ := hitem (.inl hcomplete)
    exact ⟨id, hid, fun id' hid' => ((hs.step _).run during).items _ _ id' id hid' hid⟩

end InternalRefresh
end SmeDataCenter
