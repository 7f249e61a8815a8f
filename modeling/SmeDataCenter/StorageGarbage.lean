import Mathlib.Data.List.Sort
import SmeDataCenter.WorkerTables

/-!
# Storage garbage

Keys of stored objects queued for deletion. A key that is uploaded under a lease is registered
with its run: it is not collected while the lease lives, and its row stays after the object is
deleted, for a late write of a paused uploader. The rows of cost cards, whose keys the collector
also spares, are not modelled here.
-/

namespace SmeDataCenter

namespace Database

/-- The queue with a row for the key, made anew or rewritten, and the id of the next row. -/
def upsertGarbage (queue : Table ObjectKey StorageGarbage) (nextId : ℕ) (objectKey : ObjectKey)
    (reason : String) (availableAt : ℕ) (processingRunId : Option String) :
    Table ObjectKey StorageGarbage × ℕ :=
  match queue.lookup objectKey with
  | some _ =>
    (queue.update objectKey fun row =>
      { row with
        reason, availableAt, processingRunId
        lastErrorCode := none, repeatDeletion := processingRunId.isSome }, nextId)
  | none =>
    (queue.insert objectKey
      { id := nextId, repeatDeletion := processingRunId.isSome, processingRunId, reason,
        availableAt }, nextId + 1)

/-- Queue an exact key, or queue it anew. -/
def enqueueStorageGarbage (db : Database) (objectKey : ObjectKey) (reason : String)
    (availableAt : ℕ) (processingRunId : Option String) : Database :=
  let upserted := upsertGarbage db.storageGarbage db.nextGarbageId objectKey reason availableAt
    processingRunId
  { db with
    storageGarbage := upserted.1
    nextGarbageId := upserted.2 }

/-- Queue one key after the other. -/
def enqueueAllStorageGarbage (db : Database) (objectKeys : List ObjectKey) (reason : String)
    (availableAt : ℕ) : Database :=
  objectKeys.foldl (fun db key => db.enqueueStorageGarbage key reason availableAt none) db

/-- Does the run of a garbage row have a live lease? -/
def runHoldsGarbage (db : Database) (garbage : StorageGarbage) (now : ℕ) : Bool :=
  match garbage.processingRunId.bind db.processingRuns.lookup with
  | none => false
  | some run => run.status = .running && run.lockedUntil.any (now < ·)

/-- The rows that are due, the earliest first. -/
def listDueStorageGarbage (db : Database) (now limit : ℕ) : List (ObjectKey × StorageGarbage) :=
  ((db.storageGarbage.findMany fun _ g => g.availableAt ≤ now && !db.runHoldsGarbage g now)
    |>.insertionSort fun a b =>
      a.2.availableAt < b.2.availableAt ∨ (a.2.availableAt = b.2.availableAt ∧ a.2.id ≤ b.2.id))
    |>.take limit

/-- May the object of a row that was listed at `now` still be deleted? -/
def canDeleteStorageGarbage (db : Database) (id : ℕ) (objectKey : ObjectKey)
    (now leaseNow : ℕ) : Bool :=
  match db.storageGarbage.lookup objectKey with
  | none => false
  | some g => g.id = id && !db.runHoldsGarbage g leaseNow && g.availableAt ≤ now

/-- Candidate rows stay, for a paused uploader can still finish a late write. -/
def deleteGarbage (db : Database) (id now : ℕ) : Database :=
  let kept := db.storageGarbage.updateMany (fun _ g => g.id = id && g.repeatDeletion) fun g =>
    { g with availableAt := now + 24 * 60 * 60 * 1000, lastErrorCode := none }
  { db with storageGarbage := kept.deleteMany fun _ g => g.id = id && !g.repeatDeletion }

def postponeGarbage (db : Database) (id : ℕ) (errorCode : String) (availableAt : ℕ) : Database :=
  { db with
    storageGarbage := db.storageGarbage.updateMany (fun _ g => g.id = id) fun g =>
      { g with
        attemptCount := g.attemptCount + 1, lastErrorCode := some errorCode, availableAt } }

def markObjectDeleted (db : Database) (objectKey : ObjectKey) : Database :=
  { db with storageGarbage := db.storageGarbage.deleteMany fun key _ => key = objectKey }

/-- Is the key queued? -/
def Queued (db : Database) (objectKey : ObjectKey) : Prop := objectKey ∈ db.storageGarbage

/-! ### What queueing writes -/

lemma enqueueStorageGarbage_eq (db : Database) (objectKey : ObjectKey) (reason : String)
    (availableAt : ℕ) (processingRunId : Option String) :
    ∃ garbage n, db.enqueueStorageGarbage objectKey reason availableAt processingRunId =
      { db with storageGarbage := garbage, nextGarbageId := n } :=
  ⟨_, _, rfl⟩

lemma lookup_enqueueStorageGarbage (db : Database) (objectKey : ObjectKey) (reason : String)
    (availableAt : ℕ) (processingRunId : Option String) (key : ObjectKey) :
    (key ≠ objectKey →
      (db.enqueueStorageGarbage objectKey reason availableAt processingRunId).storageGarbage.lookup
        key = db.storageGarbage.lookup key) ∧
    ∃ row, (db.enqueueStorageGarbage objectKey reason availableAt
        processingRunId).storageGarbage.lookup objectKey = some row ∧
      row.availableAt = availableAt ∧ row.processingRunId = processingRunId ∧
      row.repeatDeletion = processingRunId.isSome := by
  unfold enqueueStorageGarbage upsertGarbage
  cases hrow : db.storageGarbage.lookup objectKey with
  | none =>
    dsimp only
    refine ⟨fun hne => ?_, ?_⟩
    · rw [Table.lookup_insert', if_neg hne]
    · rw [Table.lookup_insert', if_pos rfl]
      exact ⟨_, rfl, rfl, rfl, rfl⟩
  | some row =>
    dsimp only
    refine ⟨fun hne => ?_, ?_⟩
    · rw [Table.lookup_update, if_neg hne]
    · rw [Table.lookup_update, if_pos rfl, hrow]
      exact ⟨_, rfl, rfl, rfl, rfl⟩

variable {db : Database} {key : ObjectKey}

lemma queued_iff : db.Queued key ↔ ∃ row, db.storageGarbage.lookup key = some row := by
  rw [Queued, ← AList.lookup_isSome, Option.isSome_iff_exists]

lemma queued_enqueueStorageGarbage {objectKey : ObjectKey} {reason : String} {availableAt : ℕ}
    {processingRunId : Option String} :
    (db.enqueueStorageGarbage objectKey reason availableAt processingRunId).Queued key ↔
      key = objectKey ∨ db.Queued key := by
  obtain ⟨hother, row, hrow, -⟩ :=
    db.lookup_enqueueStorageGarbage objectKey reason availableAt processingRunId key
  rw [queued_iff, queued_iff]
  by_cases h : key = objectKey
  · subst h
    exact ⟨fun _ => .inl rfl, fun _ => ⟨row, hrow⟩⟩
  · rw [hother h]
    simp [h]

lemma queued_enqueueAllStorageGarbage {objectKeys : List ObjectKey} {reason : String}
    {availableAt : ℕ} :
    (db.enqueueAllStorageGarbage objectKeys reason availableAt).Queued key ↔
      key ∈ objectKeys ∨ db.Queued key := by
  induction objectKeys generalizing db with
  | nil => simp [enqueueAllStorageGarbage]
  | cons k ks ih =>
    rw [enqueueAllStorageGarbage, List.foldl_cons, ← enqueueAllStorageGarbage, ih,
      queued_enqueueStorageGarbage, List.mem_cons, or_left_comm, or_assoc]

lemma enqueueAllStorageGarbage_eq (objectKeys : List ObjectKey) (reason : String)
    (availableAt : ℕ) (db : Database) :
    ∃ garbage n, db.enqueueAllStorageGarbage objectKeys reason availableAt =
      { db with storageGarbage := garbage, nextGarbageId := n } := by
  induction objectKeys generalizing db with
  | nil => exact ⟨_, _, rfl⟩
  | cons k ks ih =>
    obtain ⟨garbage, n, h⟩ := db.enqueueStorageGarbage_eq k reason availableAt none
    obtain ⟨garbage', n', h'⟩ := ih (db.enqueueStorageGarbage k reason availableAt none)
    rw [enqueueAllStorageGarbage, List.foldl_cons, ← enqueueAllStorageGarbage, h', h]
    exact ⟨_, _, rfl⟩

end Database
end SmeDataCenter
