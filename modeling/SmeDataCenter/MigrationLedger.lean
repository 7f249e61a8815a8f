import SmeDataCenter.WorkflowMigrations

/-!
# The upload ledger of a migration

The row of a migration counts its chunks and their records, and has a running digest of them.
Uploads, retries, seals, validations and imports come in any order, and any number of times: the
row always says what the stored chunks are, a sealed one says so for good, no chunk is imported
before all are validated, and each is imported once.
-/

namespace SmeDataCenter
namespace WorkflowMigrations

open Fallible (bind_ok)

variable {sha256 : String → String} {manifestJson : WorkflowMigrationManifest → Json}

/-! ### What a row says of its chunks -/

def totalRecords : List MigrationChunk → ℕ
  | [] => 0
  | chunk :: chunks => chunk.recordCount + totalRecords chunks

/-- The digests of chunks, folded in order from a place on. -/
def foldDigest (sha256 : String → String) (digest : String) (sequence : ℕ) :
    List MigrationChunk → String
  | [] => digest
  | chunk :: chunks =>
    foldDigest sha256 (nextDigest sha256 digest sequence chunk.digest chunk.recordCount)
      (sequence + 1) chunks

/-- What of a chunk never changes. -/
def MigrationChunk.content (chunk : MigrationChunk) : WorkflowMigrationChunk × String × ℕ :=
  (chunk.payload, chunk.digest, chunk.recordCount)

/-- A row says what the stored chunks of its migration are. -/
structure Tells (sha256 : String → String) (s : MigrationStore) (id : String)
    (row : WorkflowMigration) (chunks : List MigrationChunk) : Prop where
  length : chunks.length = row.chunkCount
  stored : ∀ sequence, (s.chunks.lookup (id, sequence)).map (·.content) =
    chunks[sequence]?.map (·.content)
  records : row.recordCount = totalRecords chunks
  digest : row.chunksDigest = some (foldDigest sha256 digestStart 0 chunks)

/-- How often a chunk was imported. -/
def MigrationStore.imports (s : MigrationStore) (id : String) (sequence : ℕ) : ℕ :=
  s.audits.countP fun entry => match entry with
    | .imported migrationId place _ => migrationId = id && place = sequence
    | _ => false

/-- A migration is sealed, and goes on with the same chunks. -/
def SealedFor (s s' : MigrationStore) (id : String) (row : WorkflowMigration) : Prop :=
  row.sealedAt.isSome = true → ∃ row', s'.migrations.lookup id = some row' ∧
    row'.sealedAt.isSome = true ∧ row'.chunkCount = row.chunkCount ∧
    row'.recordCount = row.recordCount ∧ row'.chunksDigest = row.chunksDigest ∧
    ∀ sequence, (s'.chunks.lookup (id, sequence)).map (·.content) =
      (s.chunks.lookup (id, sequence)).map (·.content)

lemma totalRecords_append (chunks : List MigrationChunk) (chunk : MigrationChunk) :
    totalRecords (chunks ++ [chunk]) = totalRecords chunks + chunk.recordCount := by
  induction chunks with
  | nil => simp [totalRecords]
  | cons first chunks ih =>
    simp only [List.cons_append, totalRecords, ih]
    omega

lemma foldDigest_append (digest : String) (sequence : ℕ) (chunks : List MigrationChunk)
    (chunk : MigrationChunk) :
    foldDigest sha256 digest sequence (chunks ++ [chunk]) =
      nextDigest sha256 (foldDigest sha256 digest sequence chunks) (sequence + chunks.length)
        chunk.digest chunk.recordCount := by
  induction chunks generalizing digest sequence with
  | nil => rfl
  | cons first chunks ih =>
    simp only [List.cons_append, foldDigest, List.length_cons]
    rw [ih]
    congr 1
    omega

/-! ### What an operation does to a ledger -/

/-- The entry says that a chunk was imported. -/
def MigrationAudit.isImport : MigrationAudit → Bool
  | .imported .. => true
  | _ => false

/-- What becomes of the row of a migration while its chunks are left alone. -/
inductive RowMove (sha256 : String → String) (s : MigrationStore) (id : String)
    (row : WorkflowMigration) : WorkflowMigration → Prop where
  | sealed {now : ℕ} {digest : String} : RowMove sha256 s id row
      { row with
        sealedAt := some now, confirmationDigest := digest, version := row.version + 1 }
  | validated {page : MigrationChunk} {complete : Bool}
      (hcomplete : complete = decide (row.validatedChunks + 1 = row.chunkCount))
      (hsealed : row.sealedAt ≠ none) (hstage : row.stage = .preview)
      (hpage : s.chunks.lookup (id, row.validatedChunks) = some page)
      (hvalid : page.valid sha256 = true) : RowMove sha256 s id row
      { row with
        validatedChunks := row.validatedChunks + 1, version := row.version + 1
        stage := if complete then .validated else row.stage }
  | advanced {stage : MigrationStage} (hstage : 2 ≤ row.stage.index) (hnext : 2 ≤ stage.index) :
      RowMove sha256 s id row { row with stage, version := row.version + 1 }

/-- The store after an operation differs from the one before in one of these ways. -/
inductive LedgerMove (sha256 : String → String) (s s' : MigrationStore) : Prop where
  | stays (hmigrations : s'.migrations = s.migrations) (hchunks : s'.chunks = s.chunks)
      (haudits : s'.audits = s.audits) : LedgerMove sha256 s s'
  | created {id : String} {row : WorkflowMigration} {chunk : MigrationChunk}
      {entry : MigrationAudit}
      (hmigrations : s.migrations.create id row = some s'.migrations)
      (hchunks : s.chunks.create (id, 0) chunk = some s'.chunks)
      (haudits : s'.audits = s.audits ++ [entry]) (hentry : entry.isImport = false)
      (hcount : row.chunkCount = 1) (hrecords : row.recordCount = chunk.recordCount)
      (hdigest : row.chunksDigest =
        some (nextDigest sha256 digestStart 0 chunk.digest chunk.recordCount))
      (hsealed : row.sealedAt = none) (hstage : row.stage = .preview)
      (hvalidated : row.validatedChunks = 0) (himported : row.importedChunks = 0)
      (hnew : chunk.importedAt = none) : LedgerMove sha256 s s'
  | appended {id : String} {row : WorkflowMigration} {chunk : MigrationChunk}
      (hrow : s.migrations.lookup id = some row) (hsealed : row.sealedAt = none)
      (hnew : chunk.importedAt = none)
      (hchunks : s.chunks.create (id, row.chunkCount) chunk = some s'.chunks)
      (hmigrations : s'.migrations = s.migrations.update id fun found =>
        { found with
          chunkCount := found.chunkCount + 1
          recordCount := found.recordCount + chunk.recordCount
          chunksDigest := some (nextDigest sha256 (found.chunksDigest.getD digestStart)
            row.chunkCount chunk.digest chunk.recordCount)
          version := found.version + 1 })
      (haudits : s'.audits = s.audits) : LedgerMove sha256 s s'
  | updated {id : String} {row row' : WorkflowMigration}
      (hrow : s.migrations.lookup id = some row) (hmove : RowMove sha256 s id row row')
      (hrows : ∀ k, s'.migrations.lookup k =
        if k = id then some row' else s.migrations.lookup k) (hchunks : s'.chunks = s.chunks)
      (himports : ∀ k sequence, s'.imports k sequence = s.imports k sequence) :
      LedgerMove sha256 s s'
  | imported {id : String} {row : WorkflowMigration} {page : MigrationChunk} {now : ℕ}
      {complete : Bool} (hcomplete : complete = decide (row.importedChunks + 1 = row.chunkCount))
      (hrow : s.migrations.lookup id = some row) (hstage : row.stage = .validated)
      (hpage : s.chunks.lookup (id, row.importedChunks) = some page)
      (hmigrations : s'.migrations = s.migrations.update id fun found =>
        { found with
          importedChunks := found.importedChunks + 1, version := found.version + 1
          stage := if complete then .imported else found.stage })
      (hchunks : s'.chunks = s.chunks.update (id, row.importedChunks) fun page =>
        { page with importedAt := some now })
      (haudits : s'.audits = s.audits ++ [.imported id row.importedChunks complete]) :
      LedgerMove sha256 s s'

section

variable {s s' : MigrationStore} {call : WorkflowRuns.Call} {id : String}
  {row : WorkflowMigration}

lemma imports_append {entry : MigrationAudit} (haudits : s'.audits = s.audits ++ [entry])
    (hentry : entry.isImport = false) (k : String) (sequence : ℕ) :
    s'.imports k sequence = s.imports k sequence := by
  unfold MigrationStore.imports
  rw [haudits, List.countP_append]
  cases entry with
  | imported => cases hentry
  | _ => rfl

lemma imports_eq (haudits : s'.audits = s.audits) (k : String) (sequence : ℕ) :
    s'.imports k sequence = s.imports k sequence := by
  rw [MigrationStore.imports, haudits]
  rfl

lemma lookup_updated {f : WorkflowMigration → WorkflowMigration}
    (hrow : s.migrations.lookup id = some row) (k : String) :
    (s.migrations.update id f).lookup k =
      if k = id then some (f row) else s.migrations.lookup k := by
  rw [Table.lookup_update, hrow]
  rfl

lemma move_preview {enterpriseKey : String} {manifest : WorkflowMigrationManifest}
    (h : preview sha256 manifestJson s call enterpriseKey manifest id = .ok s') :
    LedgerMove sha256 s s' := by
  unfold preview at h
  split at h
  · split at h
    · cases h
    · cases h
      exact .stays rfl rfl rfl
  · split at h
    · cases h
    split at h
    · cases h
    split at h
    · cases h
    obtain ⟨⟨targets, tables⟩, -, h⟩ := bind_ok.mp h
    dsimp only at h
    split at h
    · rename_i migrations chunks hmigrations hchunks
      cases h
      exact .created hmigrations hchunks rfl rfl rfl rfl rfl rfl rfl rfl rfl rfl
    · cases h

lemma move_append {input : AppendInput} (hrow : s.migrations.lookup id = some row)
    (h : append sha256 s id row input = .ok s') : LedgerMove sha256 s s' := by
  unfold append at h
  split at h
  · cases h
    exact .stays rfl rfl rfl
  split at h
  · cases h
  rename_i hrefused
  simp only [Bool.or_eq_true, decide_eq_true_eq, not_or, not_not, Bool.not_eq_true,
    Option.isSome_eq_false_iff, Option.isNone_iff_eq_none] at hrefused
  obtain ⟨⟨⟨⟨⟨-, hsealed⟩, -⟩, hsequence⟩, -⟩, -⟩ := hrefused
  dsimp only at h
  split at h
  · cases h
  rename_i chunks hchunks
  cases h
  rw [hsequence] at hchunks
  refine .appended hrow hsealed rfl hchunks ?_ rfl
  dsimp only
  rw [hsequence]

lemma move_seal {input : SealInput} (hrow : s.migrations.lookup id = some row)
    (h : sealChunks sha256 s call id row input = .ok s') : LedgerMove sha256 s s' := by
  unfold sealChunks at h
  split at h
  · cases h
  rename_i hrefused
  cases h
  exact .updated hrow .sealed (lookup_updated hrow) rfl (imports_eq rfl)

lemma move_validate (hrow : s.migrations.lookup id = some row) (hsealed : row.sealedAt ≠ none)
    (hstage : row.stage = .preview) (h : validateChunk sha256 s id row = .ok s') :
    LedgerMove sha256 s s' := by
  unfold validateChunk at h
  split at h
  · cases h
  rename_i page hpage
  split at h
  · cases h
  rename_i hvalid
  rw [Bool.not_eq_true, Bool.not_eq_false'] at hvalid
  cases h
  exact .updated hrow (.validated rfl hsealed hstage hpage hvalid) (lookup_updated hrow) rfl
    (imports_append rfl rfl)

lemma move_import (hrow : s.migrations.lookup id = some row) (hstage : row.stage = .validated)
    (h : importChunk sha256 s call id row = .ok s') : LedgerMove sha256 s s' := by
  unfold importChunk at h
  split at h
  · cases h
  split at h
  · cases h
  split at h
  · cases h
  split at h
  · cases h
  rename_i page hpage
  obtain ⟨tables, -, h⟩ := bind_ok.mp h
  cases h
  exact .imported rfl hrow hstage hpage rfl rfl rfl

variable {stage : MigrationStage}

lemma move_handOff (hrow : s.migrations.lookup id = some row) (hstage : 2 ≤ row.stage.index)
    (hnext : 2 ≤ stage.index) (h : handOff s id row stage = .ok s') : LedgerMove sha256 s s' := by
  obtain ⟨⟨⟩, -, h⟩ := bind_ok.mp h
  cases h
  exact .updated hrow (.advanced hstage hnext) (lookup_updated hrow) rfl
    (imports_append rfl rfl)

lemma move_advance {input : AdvanceInput} (hrow : s.migrations.lookup id = some row)
    (h : advance sha256 s call id row input = .ok s') : LedgerMove sha256 s s' := by
  unfold advance at h
  split at h
  · cases h
  split at h
  · cases h
    exact .stays rfl rfl rfl
  split at h
  · cases h
  rename_i hexpected
  split at h
  · cases h
  rename_i hnext
  rw [not_not] at hnext
  simp only [Bool.or_eq_true, decide_eq_true_eq, not_or, not_not,
    Option.isNone_iff_eq_none] at hexpected
  cases hstage : input.stage with
  | preview =>
    rw [hstage] at hnext
    cases hnext
  | validated =>
    rw [hstage] at h hnext
    refine move_validate hrow hexpected.2 ?_ h
    cases hrowStage : row.stage <;> rw [hrowStage] at hnext <;> first | rfl | cases hnext
  | imported =>
    rw [hstage] at h hnext
    refine move_import hrow ?_ h
    cases hrowStage : row.stage <;> rw [hrowStage] at hnext <;> first | rfl | cases hnext
  | hostSwitched =>
    rw [hstage] at h hnext
    have hplace : (3 : ℕ) = row.stage.index + 1 := hnext
    exact move_handOff hrow (by omega) (by decide) h
  | verified =>
    rw [hstage] at h hnext
    have hplace : (4 : ℕ) = row.stage.index + 1 := hnext
    exact move_handOff hrow (by omega) (by decide) h

/-- **What an operation does to a ledger.** -/
lemma move_operation {workflowId : String} {op : MigrationOperation}
    (h : migrationOperation sha256 manifestJson s call workflowId op = .ok s') :
    LedgerMove sha256 s s' := by
  unfold migrationOperation at h
  split at h
  · cases h
  rename_i workflow _
  have hfound : ∀ {migrationId row},
      findMigration s workflowId workflow.enterpriseKey migrationId = .ok row →
        s.migrations.lookup migrationId = some row := by
    intro migrationId row h
    unfold findMigration at h
    split at h
    · cases h
    · rename_i found hrow
      cases h
      exact (Option.filter_eq_some_iff.mp hrow).1
  cases op with
  | preview manifest migrationId => exact move_preview h
  | append migrationId input =>
    obtain ⟨row, hrow, h⟩ := bind_ok.mp h
    exact move_append (hfound hrow) h
  | sealChunks migrationId input =>
    obtain ⟨row, hrow, h⟩ := bind_ok.mp h
    exact move_seal (hfound hrow) h
  | get migrationId =>
    obtain ⟨row, -, h⟩ := bind_ok.mp h
    cases h
    exact .stays rfl rfl rfl
  | advance migrationId input =>
    obtain ⟨row, hrow, h⟩ := bind_ok.mp h
    exact move_advance (hfound hrow) h

lemma move_step (s : MigrationStore) (op : Step) :
    LedgerMove sha256 s (step sha256 manifestJson s op) := by
  cases op with
  | elsewhere tables => exact .stays rfl rfl rfl
  | migration call workflowId op =>
    exact Runs.commit_induction (.stays rfl rfl rfl) fun s' h => move_operation h

/-! ### The invariant -/

/-- How many chunks are validated and imported at a stage. -/
def StageCounts (validated imported count : ℕ) : MigrationStage → Prop
  | .preview => validated < count ∧ imported = 0
  | .validated => validated = count ∧ imported < count
  | .imported | .hostSwitched | .verified => validated = count ∧ imported = count

lemma StageCounts.late {validated imported count : ℕ}
    (h : StageCounts validated imported count stage) (hstage : 2 ≤ stage.index) :
    validated = count ∧ imported = count := by
  cases stage with
  | preview | validated => exact absurd hstage (by decide)
  | imported | hostSwitched | verified => exact h

lemma stageCounts_of_late {validated imported count : ℕ}
    (h : validated = count ∧ imported = count) (hstage : 2 ≤ stage.index) :
    StageCounts validated imported count stage := by
  cases stage with
  | preview | validated => exact absurd hstage (by decide)
  | imported | hostSwitched | verified => exact h

/-- A migration goes through its stages with its chunks. -/
structure SoundMigration (sha256 : String → String) (s : MigrationStore) (id : String)
    (row : WorkflowMigration) : Prop where
  tells : ∃ chunks, Tells sha256 s id row chunks
  positive : 0 < row.chunkCount
  unsealed : row.sealedAt = none → row.stage = .preview ∧ row.validatedChunks = 0
  counts : StageCounts row.validatedChunks row.importedChunks row.chunkCount row.stage
  checked : ∀ sequence chunk, s.chunks.lookup (id, sequence) = some chunk →
    sequence < row.validatedChunks → chunk.valid sha256 = true
  marked : ∀ sequence chunk, s.chunks.lookup (id, sequence) = some chunk →
    (chunk.importedAt.isSome = true ↔ sequence < row.importedChunks)
  once : ∀ sequence, s.imports id sequence = if sequence < row.importedChunks then 1 else 0

structure SoundLedger (sha256 : String → String) (s : MigrationStore) : Prop where
  known : ∀ id row, s.migrations.lookup id = some row → SoundMigration sha256 s id row
  unknown : ∀ id, s.migrations.lookup id = none → ∀ sequence,
    s.chunks.lookup (id, sequence) = none ∧ s.imports id sequence = 0

lemma SoundMigration.at_stage {s : MigrationStore} {id : String} {row : WorkflowMigration}
    (h : SoundMigration sha256 s id row) (hstage : row.stage = stage) :
    StageCounts row.validatedChunks row.importedChunks row.chunkCount stage :=
  hstage ▸ h.counts

lemma SoundMigration.imported_after {s : MigrationStore} {id : String} {row : WorkflowMigration}
    (h : SoundMigration sha256 s id row) (himported : 0 < row.importedChunks) :
    row.sealedAt.isSome = true ∧ row.validatedChunks = row.chunkCount := by
  have hnotPreview : row.stage ≠ .preview := by
    intro hstage
    have hnone := (h.at_stage hstage).2
    omega
  constructor
  · by_contra hopen
    exact hnotPreview (h.unsealed (by simpa using hopen)).1
  · cases hstage : row.stage with
    | preview => exact absurd hstage hnotPreview
    | validated => exact (h.at_stage hstage).1
    | imported | hostSwitched | verified => exact (h.at_stage hstage).1

lemma SoundMigration.late_iff {s : MigrationStore} {id : String} {row : WorkflowMigration}
    (h : SoundMigration sha256 s id row) : MigrationStage.imported.index ≤ row.stage.index ↔
      ∀ sequence, sequence < row.chunkCount → sequence < row.importedChunks := by
  have hpositive := h.positive
  constructor
  · intro hlate sequence hless
    have hall := (h.counts.late hlate).2
    omega
  · intro hall
    have hlast := hall (row.chunkCount - 1) (by omega)
    cases hstage : row.stage with
    | preview =>
      have hnone := (h.at_stage hstage).2
      omega
    | validated =>
      have hmore := (h.at_stage hstage).2
      omega
    | imported | hostSwitched | verified => decide

lemma soundLedger_empty : SoundLedger sha256 {} where
  known id row h := by simp at h
  unknown id _ sequence := ⟨by simp, rfl⟩

/-! ### Counting imports -/

lemma imports_imported {place : ℕ} {complete : Bool}
    (haudits : s'.audits = s.audits ++ [.imported id place complete]) (k : String)
    (sequence : ℕ) :
    s'.imports k sequence = s.imports k sequence + if k = id ∧ sequence = place then 1 else 0 := by
  unfold MigrationStore.imports
  rw [haudits, List.countP_append, List.countP_singleton]
  refine congrArg _ (if_congr ?_ rfl rfl)
  rw [Bool.and_eq_true, decide_eq_true_eq, decide_eq_true_eq]
  constructor <;> rintro ⟨rfl, rfl⟩ <;> exact ⟨rfl, rfl⟩

variable {chunk : MigrationChunk}

lemma valid_of_content {chunk' : MigrationChunk} (h : chunk.content = chunk'.content) :
    chunk.valid sha256 = chunk'.valid sha256 := by
  simp only [MigrationChunk.content, Prod.mk.injEq] at h
  rw [MigrationChunk.valid, MigrationChunk.valid, h.1, h.2.1, h.2.2]

/-! ### Moves -/

lemma SoundMigration.congr (h : SoundMigration sha256 s id row)
    (hsame : ∀ sequence, s'.chunks.lookup (id, sequence) = s.chunks.lookup (id, sequence) ∧
      s'.imports id sequence = s.imports id sequence) : SoundMigration sha256 s' id row where
  tells := by
    obtain ⟨chunks, hlength, hstored, hrecords, hdigest⟩ := h.tells
    exact ⟨chunks, hlength, fun sequence => (hsame sequence).1 ▸ hstored sequence, hrecords,
      hdigest⟩
  positive := h.positive
  unsealed := h.unsealed
  counts := h.counts
  checked sequence chunk hchunk := h.checked sequence chunk ((hsame sequence).1 ▸ hchunk)
  marked sequence chunk hchunk := h.marked sequence chunk ((hsame sequence).1 ▸ hchunk)
  once sequence := (hsame sequence).2.trans (h.once sequence)

lemma SoundLedger.of_one (hs : SoundLedger sha256 s)
    (hrows : ∀ k, s'.migrations.lookup k = if k = id then some row else s.migrations.lookup k)
    (hothers : ∀ k, k ≠ id → ∀ sequence,
      s'.chunks.lookup (k, sequence) = s.chunks.lookup (k, sequence) ∧
        s'.imports k sequence = s.imports k sequence)
    (hsound : SoundMigration sha256 s' id row) : SoundLedger sha256 s' where
  known k found hfound := by
    rw [hrows] at hfound
    split_ifs at hfound with hk
    · cases hfound
      exact hk ▸ hsound
    · exact (hs.known k found hfound).congr (hothers k hk)
  unknown k hnone sequence := by
    rw [hrows] at hnone
    split_ifs at hnone with hk
    rw [(hothers k hk sequence).1, (hothers k hk sequence).2]
    exact hs.unknown k hnone sequence

lemma soundLedger_created (hs : SoundLedger sha256 s) {entry : MigrationAudit}
    (hmigrations : s.migrations.create id row = some s'.migrations)
    (hchunks : s.chunks.create (id, 0) chunk = some s'.chunks)
    (haudits : s'.audits = s.audits ++ [entry]) (hentry : entry.isImport = false)
    (hcount : row.chunkCount = 1) (hrecords : row.recordCount = chunk.recordCount)
    (hdigest : row.chunksDigest =
      some (nextDigest sha256 digestStart 0 chunk.digest chunk.recordCount))
    (hstage : row.stage = .preview) (hvalidated : row.validatedChunks = 0)
    (himported : row.importedChunks = 0) (hnew : chunk.importedAt = none) :
    SoundLedger sha256 s' := by
  have hstored := Table.lookup_create hchunks
  have himports := imports_append haudits hentry
  obtain hfresh := hs.unknown id (Table.create_fresh hmigrations)
  have hfirst : ∀ sequence found, s'.chunks.lookup (id, sequence) = some found →
      sequence = 0 ∧ found = chunk := by
    intro sequence found hfound
    rw [hstored] at hfound
    split_ifs at hfound with hkey
    · exact ⟨congrArg Prod.snd hkey, (Option.some.inj hfound).symm⟩
    · rw [(hfresh sequence).1] at hfound
      cases hfound
  refine hs.of_one (Table.lookup_create hmigrations) (fun k hk sequence =>
      ⟨(hstored _).trans (if_neg fun hkey => hk (congrArg Prod.fst hkey)), himports k sequence⟩) ?_
  refine ⟨⟨[chunk], hcount.symm, fun sequence => ?_, ?_, ?_⟩, ?_, fun _ => ⟨hstage, hvalidated⟩,
    ?_, fun sequence found hfound hlt => ?_, fun sequence found hfound => ?_, fun sequence => ?_⟩
  · cases sequence with
    | zero => rw [hstored, if_pos rfl]; rfl
    | succ sequence =>
      rw [hstored, if_neg (by simp), (hfresh _).1]
      rfl
  · rw [hrecords, totalRecords, totalRecords, Nat.add_zero]
  · rw [hdigest, foldDigest, foldDigest]
  · omega
  · rw [hstage]
    exact ⟨by omega, himported⟩
  · omega
  · rw [(hfirst sequence found hfound).2, hnew, himported]
    simp
  · rw [himports, (hfresh sequence).2, himported]
    simp

lemma soundLedger_appended (hs : SoundLedger sha256 s) (hrow : s.migrations.lookup id = some row)
    (hsealed : row.sealedAt = none) (hnew : chunk.importedAt = none)
    (hchunks : s.chunks.create (id, row.chunkCount) chunk = some s'.chunks)
    (hmigrations : s'.migrations = s.migrations.update id fun found =>
      { found with
        chunkCount := found.chunkCount + 1
        recordCount := found.recordCount + chunk.recordCount
        chunksDigest := some (nextDigest sha256 (found.chunksDigest.getD digestStart)
          row.chunkCount chunk.digest chunk.recordCount)
        version := found.version + 1 }) (haudits : s'.audits = s.audits) :
    SoundLedger sha256 s' := by
  have hold := hs.known id row hrow
  obtain ⟨hstage, hvalidated⟩ := hold.unsealed hsealed
  obtain ⟨-, himported⟩ := hold.at_stage hstage
  obtain ⟨chunks, hlength, hlisted, hrecords, hdigest⟩ := hold.tells
  have hstored := Table.lookup_create hchunks
  refine hs.of_one (hmigrations ▸ lookup_updated hrow) (fun k hk sequence =>
      ⟨(hstored _).trans (if_neg fun hkey => hk (congrArg Prod.fst hkey)),
        imports_eq haudits k sequence⟩) ?_
  refine ⟨⟨chunks ++ [chunk], ?_, fun sequence => ?_, ?_, ?_⟩, Nat.succ_pos _,
    fun _ => ⟨hstage, hvalidated⟩, ?_, fun sequence found _ hlt => ?_,
    fun sequence found hfound => ?_, fun sequence => ?_⟩
  · rw [List.length_append, hlength]
    rfl
  · rcases lt_trichotomy sequence chunks.length with hlt | heq | hgt
    · rw [hstored, if_neg fun h => absurd (congrArg Prod.snd h) (by rw [← hlength]; exact hlt.ne),
        hlisted, List.getElem?_append_left hlt]
    · rw [hstored, if_pos (by rw [heq, hlength]), heq, List.getElem?_append_right (le_refl _),
        Nat.sub_self]
      rfl
    · rw [hstored, if_neg fun h => absurd (congrArg Prod.snd h) (by rw [← hlength]; exact hgt.ne'),
        hlisted, List.getElem?_eq_none hgt.le,
        List.getElem?_eq_none (by rw [List.length_append, List.length_singleton]; omega)]
  · rw [totalRecords_append, ← hrecords]
  · rw [foldDigest_append, hdigest, Option.getD_some, Nat.zero_add, hlength]
  · show StageCounts row.validatedChunks row.importedChunks (row.chunkCount + 1) row.stage
    rw [hstage]
    exact ⟨by omega, himported⟩
  · replace hlt : sequence < row.validatedChunks := hlt
    omega
  · show found.importedAt.isSome = true ↔ sequence < row.importedChunks
    rw [hstored] at hfound
    split_ifs at hfound
    · obtain rfl := Option.some.inj hfound
      rw [hnew, himported]
      simp
    · exact hold.marked sequence found hfound
  · exact (imports_eq haudits id sequence).trans (hold.once sequence)

variable {row' : WorkflowMigration}

lemma SoundMigration.move (h : SoundMigration sha256 s id row)
    (hmove : RowMove sha256 s id row row') : SoundMigration sha256 s id row' := by
  obtain ⟨chunks, hlength, hlisted, hrecords, hdigest⟩ := h.tells
  cases hmove with
  | sealed =>
    exact ⟨⟨chunks, hlength, hlisted, hrecords, hdigest⟩, h.positive, nofun, h.counts, h.checked,
      h.marked, h.once⟩
  | @validated _ complete hcomplete hsealed hstage hpage hvalid =>
    obtain ⟨hlt, himported⟩ := h.at_stage hstage
    refine ⟨⟨chunks, hlength, hlisted, hrecords, hdigest⟩, h.positive,
      fun hopen => absurd hopen hsealed, ?_, fun sequence chunk hchunk hbefore => ?_, h.marked,
      h.once⟩
    · show StageCounts (row.validatedChunks + 1) row.importedChunks row.chunkCount
        (if complete then .validated else row.stage)
      cases complete with
      | true =>
        have hlast : row.validatedChunks + 1 = row.chunkCount := of_decide_eq_true hcomplete.symm
        exact ⟨hlast, by omega⟩
      | false =>
        have hmore : row.validatedChunks + 1 ≠ row.chunkCount := of_decide_eq_false hcomplete.symm
        rw [if_neg Bool.false_ne_true, hstage]
        exact ⟨by omega, himported⟩
    · rcases Nat.lt_succ_iff_lt_or_eq.mp hbefore with hless | rfl
      · exact h.checked sequence chunk hchunk hless
      · rw [hpage] at hchunk
        exact Option.some.inj hchunk ▸ hvalid
  | advanced hstage hnext =>
    refine ⟨⟨chunks, hlength, hlisted, hrecords, hdigest⟩, h.positive, fun hopen => ?_,
      stageCounts_of_late (h.counts.late hstage) hnext, h.checked, h.marked, h.once⟩
    rw [(h.unsealed hopen).1] at hstage
    exact absurd hstage (by decide)

lemma soundLedger_imported (hs : SoundLedger sha256 s) {now : ℕ} {complete : Bool}
    (hcomplete : complete = decide (row.importedChunks + 1 = row.chunkCount))
    (hrow : s.migrations.lookup id = some row) (hstage : row.stage = .validated)
    (hmigrations : s'.migrations = s.migrations.update id fun found =>
      { found with
        importedChunks := found.importedChunks + 1, version := found.version + 1
        stage := if complete then .imported else found.stage })
    (hchunks : s'.chunks = s.chunks.update (id, row.importedChunks) fun page =>
      { page with importedAt := some now })
    (haudits : s'.audits = s.audits ++ [.imported id row.importedChunks complete]) :
    SoundLedger sha256 s' := by
  have hold := hs.known id row hrow
  obtain ⟨hvalidated, hlt⟩ := hold.at_stage hstage
  obtain ⟨chunks, hlength, hlisted, hrecords, hdigest⟩ := hold.tells
  have hstored : ∀ key, s'.chunks.lookup key =
      if key = (id, row.importedChunks) then (s.chunks.lookup key).map fun page =>
        { page with importedAt := some now }
      else s.chunks.lookup key := by
    intro key
    rw [hchunks, Table.lookup_update]
    split_ifs with hkey
    · rw [hkey]
    · rfl
  have hkeeps : Table.Keeps MigrationChunk.content s.chunks s'.chunks :=
    hchunks ▸ Table.Keeps.update fun _ => rfl
  have himports := imports_imported haudits
  refine hs.of_one (hmigrations ▸ lookup_updated hrow) (fun k hk sequence =>
    ⟨(hstored _).trans (if_neg fun hkey => hk (congrArg Prod.fst hkey)), ?_⟩) ?_
  · rw [himports, if_neg fun h => hk h.1]
    rfl
  refine ⟨⟨chunks, hlength, fun sequence => (hkeeps _).trans (hlisted sequence), hrecords,
    hdigest⟩, hold.positive, fun hopen => ?_, ?_, fun sequence chunk hchunk hbefore => ?_,
    fun sequence chunk hchunk => ?_, fun sequence => ?_⟩
  · exact absurd (hstage.symm.trans (hold.unsealed hopen).1) (by decide)
  · show StageCounts row.validatedChunks (row.importedChunks + 1) row.chunkCount
      (if complete then .imported else row.stage)
    cases complete with
    | true =>
      have hlast : row.importedChunks + 1 = row.chunkCount := of_decide_eq_true hcomplete.symm
      exact ⟨hvalidated, hlast⟩
    | false =>
      have hmore : row.importedChunks + 1 ≠ row.chunkCount := of_decide_eq_false hcomplete.symm
      rw [if_neg Bool.false_ne_true, hstage]
      exact ⟨hvalidated, by omega⟩
  · obtain ⟨old, hfound, hcontent⟩ := hkeeps.back hchunk
    rw [← valid_of_content hcontent]
    exact hold.checked sequence old hfound hbefore
  · show chunk.importedAt.isSome = true ↔ sequence < row.importedChunks + 1
    rw [hstored] at hchunk
    split_ifs at hchunk with hkey
    · obtain ⟨old, -, rfl⟩ := Option.map_eq_some_iff.mp hchunk
      have hplace : sequence = row.importedChunks := congrArg Prod.snd hkey
      exact ⟨fun _ => by omega, fun _ => rfl⟩
    · have hplace : sequence ≠ row.importedChunks := fun h => hkey (by rw [h])
      rw [hold.marked sequence chunk hchunk]
      omega
  · show s'.imports id sequence = if sequence < row.importedChunks + 1 then 1 else 0
    rw [himports, hold.once]
    rcases lt_trichotomy sequence row.importedChunks with hless | heq | hgreater
    · rw [if_pos hless, if_neg fun h => hless.ne h.2, if_pos (by omega)]
    · rw [if_neg (by omega), if_pos ⟨rfl, heq⟩, if_pos (by omega)]
    · rw [if_neg (by omega), if_neg fun h => hgreater.ne' h.2, if_neg (by omega)]

lemma soundLedger_of_move (hs : SoundLedger sha256 s) (hmove : LedgerMove sha256 s s') :
    SoundLedger sha256 s' := by
  cases hmove with
  | stays hmigrations hchunks haudits =>
    have hsame : ∀ k sequence, s'.chunks.lookup (k, sequence) = s.chunks.lookup (k, sequence) ∧
        s'.imports k sequence = s.imports k sequence :=
      fun k sequence => ⟨by rw [hchunks], imports_eq haudits k sequence⟩
    refine ⟨fun k row hrow => (hs.known k row (hmigrations ▸ hrow)).congr (hsame k),
      fun k hnone sequence => ?_⟩
    rw [(hsame k sequence).1, (hsame k sequence).2]
    exact hs.unknown k (hmigrations ▸ hnone) sequence
  | created hmigrations hchunks haudits hentry hcount hrecords hdigest _ hstage hvalidated
      himported hnew =>
    exact soundLedger_created hs hmigrations hchunks haudits hentry hcount hrecords hdigest hstage
      hvalidated himported hnew
  | appended hrow hsealed hnew hchunks hmigrations haudits =>
    exact soundLedger_appended hs hrow hsealed hnew hchunks hmigrations haudits
  | updated hrow hmove hrows hchunks himports =>
    have hsame : ∀ k sequence, s'.chunks.lookup (k, sequence) = s.chunks.lookup (k, sequence) ∧
        s'.imports k sequence = s.imports k sequence :=
      fun k sequence => ⟨by rw [hchunks], himports k sequence⟩
    exact hs.of_one hrows (fun k _ => hsame k) (((hs.known _ _ hrow).move hmove).congr (hsame _))
  | imported hcomplete hrow hstage _ hmigrations hchunks haudits =>
    exact soundLedger_imported hs hcomplete hrow hstage hmigrations hchunks haudits

/-! ### After the seal -/

/-- Nothing that a seal is about changes with a row. -/
structure KeepsSeal (row row' : WorkflowMigration) : Prop where
  sealed : row.sealedAt.isSome = true → row'.sealedAt.isSome = true
  count : row'.chunkCount = row.chunkCount
  records : row'.recordCount = row.recordCount
  digest : row'.chunksDigest = row.chunksDigest

lemma RowMove.keepsSeal (h : RowMove sha256 s id row row') : KeepsSeal row row' := by
  cases h with
  | sealed => exact ⟨fun _ => rfl, rfl, rfl, rfl⟩
  | validated | advanced => exact ⟨fun h => h, rfl, rfl, rfl⟩

lemma sealedFor_of_same (hrow : s'.migrations.lookup id = some row)
    (hkeeps : ∀ sequence, (s'.chunks.lookup (id, sequence)).map (·.content) =
      (s.chunks.lookup (id, sequence)).map (·.content)) : SealedFor s s' id row :=
  fun hsealed => ⟨row, hrow, hsealed, rfl, rfl, rfl, hkeeps⟩

lemma sealedFor_updated {k : String} {found : WorkflowMigration}
    (hrows : ∀ k', s'.migrations.lookup k' = if k' = k then some row' else s.migrations.lookup k')
    (hfound : s.migrations.lookup k = some found) (hseal : KeepsSeal found row')
    (hkeeps : Table.Keeps MigrationChunk.content s.chunks s'.chunks)
    (hrow : s.migrations.lookup id = some row) : SealedFor s s' id row := by
  intro hsealed
  by_cases hk : id = k
  · subst hk
    obtain rfl := Option.some.inj (hfound.symm.trans hrow)
    exact ⟨row', (hrows id).trans (if_pos rfl), hseal.sealed hsealed, hseal.count, hseal.records,
      hseal.digest, fun sequence => hkeeps _⟩
  · exact ⟨row, ((hrows id).trans (if_neg hk)).trans hrow, hsealed, rfl, rfl, rfl,
      fun sequence => hkeeps _⟩

lemma LedgerMove.sealedFor (hmove : LedgerMove sha256 s s')
    (hrow : s.migrations.lookup id = some row) : SealedFor s s' id row := by
  cases hmove with
  | stays hmigrations hchunks _ =>
    exact sealedFor_of_same (hmigrations ▸ hrow) fun sequence => by rw [hchunks]
  | @created k _ _ _ hmigrations hchunks =>
    have hne : id ≠ k := by
      rintro rfl
      rw [Table.create_fresh hmigrations] at hrow
      cases hrow
    refine sealedFor_of_same (((Table.lookup_create hmigrations id).trans (if_neg hne)).trans hrow)
      fun sequence => ?_
    rw [Table.lookup_create hchunks, if_neg fun hkey => hne (congrArg Prod.fst hkey)]
  | @appended k _ _ hopened hsealed _ hchunks hmigrations =>
    by_cases hk : id = k
    · subst hk
      obtain rfl := Option.some.inj (hopened.symm.trans hrow)
      intro hclosed
      rw [hsealed] at hclosed
      cases hclosed
    · refine sealedFor_of_same ?_ fun sequence => ?_
      · rw [hmigrations, Table.lookup_update, if_neg hk, hrow]
      · rw [Table.lookup_create hchunks, if_neg fun hkey => hk (congrArg Prod.fst hkey)]
  | updated hfound hmove hrows hchunks =>
    exact sealedFor_updated hrows hfound hmove.keepsSeal (hchunks ▸ Table.Keeps.refl _ _) hrow
  | imported _ hfound _ _ hmigrations hchunks =>
    refine sealedFor_updated (hmigrations ▸ lookup_updated hfound) hfound ?_
      (hchunks ▸ Table.Keeps.update fun _ => rfl) hrow
    exact ⟨fun h => h, rfl, rfl, rfl⟩

/-! ### Runs -/

lemma sealedFor_run (later : List Step) (hrow : s.migrations.lookup id = some row) :
    SealedFor s (Runs.run (step sha256 manifestJson) s later) id row := by
  induction later generalizing s row with
  | nil => exact sealedFor_of_same hrow fun _ => rfl
  | cons op later ih =>
    intro hsealed
    obtain ⟨row₁, hrow₁, hsealed₁, hcount₁, hrecords₁, hdigest₁, hkeeps₁⟩ :=
      (@move_step sha256 manifestJson s op).sealedFor hrow hsealed
    obtain ⟨row₂, hrow₂, hsealed₂, hcount₂, hrecords₂, hdigest₂, hkeeps₂⟩ := ih hrow₁ hsealed₁
    exact ⟨row₂, hrow₂, hsealed₂, hcount₂.trans hcount₁, hrecords₂.trans hrecords₁,
      hdigest₂.trans hdigest₁, fun sequence => (hkeeps₂ sequence).trans (hkeeps₁ sequence)⟩

end

/-- **The upload ledger of a migration**: after any operations in any order, the row of a
migration says what its stored chunks are, in order from the first; once it is sealed it goes on
with the same chunks, whatever comes later; a chunk is imported only when the migration is
sealed and all its chunks are validated; no chunk is imported twice; and the migration is at the
stage of an import, or later, exactly when every chunk was imported. -/
theorem migration_ledger (steps : List Step) :
    let s := Runs.run (step sha256 manifestJson) {} steps
    ∀ id row, s.migrations.lookup id = some row →
      (∃ chunks, Tells sha256 s id row chunks) ∧
      (∀ later, SealedFor s (Runs.run (step sha256 manifestJson) s later) id row) ∧
      (∀ sequence, 0 < s.imports id sequence → row.sealedAt.isSome = true ∧
        row.validatedChunks = row.chunkCount ∧ ∀ place chunk,
          s.chunks.lookup (id, place) = some chunk → chunk.valid sha256 = true) ∧
      (∀ sequence, s.imports id sequence ≤ 1) ∧
      (∀ sequence chunk, s.chunks.lookup (id, sequence) = some chunk →
        (chunk.importedAt.isSome = true ↔ s.imports id sequence = 1)) ∧
      (MigrationStage.imported.index ≤ row.stage.index ↔
        ∀ sequence, sequence < row.chunkCount → s.imports id sequence = 1) := by
  intro s id row hrow
  have hs : SoundLedger sha256 s :=
    Runs.run_invariant' (fun s op h => soundLedger_of_move h (move_step s op)) steps
      soundLedger_empty
  have hsound := hs.known id row hrow
  obtain ⟨chunks, hlength, hlisted, hrecords, hdigest⟩ := hsound.tells
  refine ⟨⟨chunks, hlength, hlisted, hrecords, hdigest⟩, fun later => sealedFor_run later hrow,
    fun sequence himported => ?_, fun sequence => ?_, fun sequence chunk hchunk => ?_, ?_⟩
  · rw [hsound.once] at himported
    split_ifs at himported with hless
    · obtain ⟨hsealed, hvalidated⟩ := hsound.imported_after (by omega)
      refine ⟨hsealed, hvalidated, fun place chunk hchunk => ?_⟩
      have hplace := hlisted place
      rw [hchunk, Option.map_some, eq_comm, Option.map_eq_some_iff] at hplace
      obtain ⟨listed, hget, -⟩ := hplace
      have hbefore := (List.getElem?_eq_some_iff.mp hget).1
      exact hsound.checked place chunk hchunk (by omega)
    · omega
  · rw [hsound.once]
    split_ifs <;> omega
  · rw [hsound.marked sequence chunk hchunk, hsound.once]
    split_ifs with hless <;> simp [hless]
  · refine hsound.late_iff.trans (forall₂_congr fun sequence hless => ?_)
    rw [hsound.once]
    split_ifs with himported <;> simp [himported]

def quietChecks : WorkflowRuns.Checks where
  enabled := true
  launcherSupported _ := true
  supportsWorkflowPackageVersion _ := true
  storesValid _ := true
  valid _ _ := true
  readable _ := true
  scheduledWindow := ⟨"", ""⟩
  present _ := false
  confirmedActions _ := 0
  pendingActions _ := 0
  pending := ⟨[], 0, none⟩
  authorizations := true
  sameImpact := true

/-- A migration of one workflow that is previewed, sealed, validated and imported. -/
def importSteps : List Step :=
  let integration : EnterpriseIntegration := ⟨[], []⟩
  let configuration : WorkflowConfiguration := .dailyIngestion [] []
  let item : ManifestWorkflow := ⟨⟨"workflow", [], [], none⟩, configuration, []⟩
  let call : WorkflowRuns.Call := ⟨"admin", 0, quietChecks⟩
  [.elsewhere
    { integrations := AList.singleton "enterprise" ⟨0, integration⟩
      workflows := AList.singleton "workflow" ⟨{}, "enterprise", .dailyIngestion⟩ },
    .migration call "workflow" (.preview ⟨"snapshot", 0, integration, [item]⟩ "migration"),
    .migration call "workflow" (.sealChunks "migration" ⟨1, 1, 0, "digest"⟩),
    .migration call "workflow" (.advance "migration" ⟨"snapshot", 2, .validated, "digest"⟩),
    .migration call "workflow" (.advance "migration" ⟨"snapshot", 3, .imported, "digest"⟩)]

theorem migration_ledger_imported :
    let s := Runs.run (step (fun _ => "digest") fun _ => .null) {} importSteps
    ∃ row, s.migrations.lookup "migration" = some row ∧ row.chunkCount = 1 ∧
      ∀ sequence, sequence < row.chunkCount → s.imports "migration" sequence = 1 :=
  ⟨_, rfl, rfl, (migration_ledger importSteps "migration" _ rfl).2.2.2.2.2.mp (by decide)⟩

end WorkflowMigrations
end SmeDataCenter
