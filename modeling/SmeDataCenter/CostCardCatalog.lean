import SmeDataCenter.CostCardRows
import SmeDataCenter.EnterpriseNames

/-!
# The catalog of cost cards

An import groups the rows of a file into cards and publishes them: a card that is new to the
catalog is inserted, one whose content has changed takes the place of the old row, and an
archived one is restored. In a published catalog ids and identities are unique, and the texts of
a card have the lengths that the file was checked for.
-/

namespace SmeDataCenter
namespace CostCardCatalog

open Import ScriptText EnterpriseNames

inductive CostCardError where
  /-- The mode, the lease, the uploader, the batch or the ownership of an object. -/
  | notApplicable
  | invalidInput
  | baselineStale
  | versionUnsupported
  | objectNotPrepared
  | duplicateKey
  | notFound
  | accessDenied
  | manifestTooLarge
  | changed
  | limitInvalid
  | schemaUnsupported
  | metadataInvalid
  | invalidQuery
  | storeIdentityMissing
  | invalidUrl
  | invalidDate
  deriving DecidableEq

/-! ### Rows -/

def isLowerHex (c : Char) : Bool :=
  (0x30 ≤ c.toNat && c.toNat ≤ 0x39) || (0x61 ≤ c.toNat && c.toNat ≤ 0x66)

def IsHex (n : ℕ) (s : String) : Prop := s.toList.length = n ∧ s.toList.all isLowerHex = true

instance (n : ℕ) : DecidablePred (IsHex n) := fun s =>
  inferInstanceAs (Decidable (s.toList.length = n ∧ s.toList.all isLowerHex = true))

/-- What `createCostCardId` returns: `randomUUID().replaceAll("-", "")`. -/
abbrev CostCardId := { s : String // IsHex 32 s }

/-- `createHash("sha256").digest("hex")` -/
abbrev HexDigest := { s : String // IsHex 64 s }

/-- A text that is there, and has no more than so many code units. -/
def ValidText (limit : ℕ) (s : String) : Prop := s ≠ "" ∧ unitLength s ≤ limit

instance (limit : ℕ) : DecidablePred (ValidText limit) := fun s =>
  inferInstanceAs (Decidable (s ≠ "" ∧ unitLength s ≤ limit))

/-- A row of `cost_cards`. -/
structure CostCard where
  id : CostCardId
  orgId : String
  enterpriseKey : String
  enterpriseName : String
  sourceNamespace : String
  spuId : String
  skuId : String
  dishName : String
  specificationName : Option String
  baseCategoryName : Option String
  objectKey : String
  checksumSha256 : HexDigest
  byteSize : ℕ
  itemRowCount : ℕ
  csvSchemaVersion : ℕ
  contentHash : HexDigest
  canonicalizationVersion : ℕ
  sourceDocumentId : String
  importBatchId : String
  revision : ℕ
  archivedAt : Option ℕ
  deriving DecidableEq

/-- `uq_cost_cards_identity` -/
def CostCard.uniqueKey (card : CostCard) : String × String × String × String × String :=
  (card.orgId, card.enterpriseKey, card.sourceNamespace, card.spuId, card.skuId)

/-! ### Fields of a card -/

/-- The fields of the scope `card` that go into the catalog's texts. -/
structure CostCardFields where
  spu_id : String
  sku_id : String
  dish_name : String
  base_category_name : Option String
  specification_name : Option String
  spu : ValidText 64 spu_id
  sku : ValidText 64 sku_id
  dish : ValidText 512 dish_name
  specification : ∀ s, specification_name = some s → ValidText 255 s

def requiredText (limit : ℕ) : Option PayloadValue → Option { s : String // ValidText limit s }
  | some (.text s) => if h : ValidText limit s then some ⟨s, h⟩ else none
  | _ => none

def optionalText (limit : ℕ) :
    Option PayloadValue → Option (Option { s : String // ValidText limit s })
  | some .null => some none
  | value => (requiredText limit value).map some

/-- `card as unknown as CostCardFields` -/
def costCardFields (card : Payload) : Option CostCardFields := do
  let spu ← requiredText 64 (card.get "spu_id")
  let sku ← requiredText 64 (card.get "sku_id")
  let dish ← requiredText 512 (card.get "dish_name")
  let category ← optionalText 255 (card.get "base_category_name")
  let specification ← optionalText 255 (card.get "specification_name")
  return {
    spu_id := spu.1, sku_id := sku.1, dish_name := dish.1
    base_category_name := category.map (·.1)
    specification_name := specification.map (·.1)
    spu := spu.2, sku := sku.2, dish := dish.2
    specification := by
      intro s hs
      cases specification with
      | none => simp at hs
      | some text =>
        simp only [Option.map_some, Option.some.injEq] at hs
        exact hs ▸ text.2 }

/-! ### The import -/

-- the normal form of a well-formed text
variable (nfc : String → String)

/-- What the import has recorded. The reservation has compared the key with the name. -/
structure CostCardJob where
  orgId : String
  enterpriseKey : String
  enterpriseName : String
  sourceDocumentId : String
  importBatchId : String
  keyed : enterpriseKeyOf nfc (ofString enterpriseName) = some (ofString enterpriseKey)
  named : enterpriseName ≠ ""
  documented : sourceDocumentId ≠ ""
  batched : importBatchId ≠ ""

/-- A card with its file. -/
structure CostCardCsvExportEntry where
  identity : CostCardIdentity
  card : CostCardFields
  contentHash : HexDigest
  checksumSha256 : HexDigest
  byteSize : ℕ
  itemRowCount : ℕ

/-- What is written for a card: the hash of its canonical text, and its file. -/
structure CostCardFile where
  contentHash : HexDigest
  checksumSha256 : HexDigest
  byteSize : ℕ

def exportEntry (file : CanonicalCostCard → CostCardFile) (card : CanonicalCostCard) :
    Option CostCardCsvExportEntry :=
  (costCardFields card.card).map fun fields =>
    { identity := card.identity, card := fields
      contentHash := (file card).contentHash, checksumSha256 := (file card).checksumSha256
      byteSize := (file card).byteSize
      itemRowCount := (card.recipes.flatMap (·.items)).length }

/-- `exportCostCardCsv`; `none` when there is nothing valid to export. -/
def exportCostCardCsv (file : CanonicalCostCard → CostCardFile) (parsed : CostCardParseResult) :
    Option (List CostCardCsvExportEntry) :=
  if parsed.validationErrorCount ≠ 0 || parsed.cards.isEmpty then none
  else parsed.cards.mapM (exportEntry file)

def csvSchemaVersion : ℕ := 1

def canonicalizationVersion : ℕ := 1

inductive CostCardOperation where
  | inserted
  | updated
  | unchanged
  | restored
  deriving DecidableEq

def costCardOperation (current : Option CostCard) (hash : HexDigest) (version : ℕ) :
    Except CostCardError CostCardOperation :=
  if version ≠ canonicalizationVersion ||
      current.any fun card => card.canonicalizationVersion ≠ version then
    .error .versionUnsupported
  else .ok (match current with
    | none => .inserted
    | some card =>
      if card.archivedAt.isSome then .restored
      else if card.contentHash = hash then .unchanged
      else .updated)

structure PreparedCostCardCandidate where
  id : CostCardId
  identity : CostCardIdentity
  baseline : Option CostCard
  card : CostCardFields
  contentHash : HexDigest
  canonicalizationVersion : ℕ
  schemaVersion : ℕ
  objectKey : Option String
  checksumSha256 : HexDigest
  byteSize : ℕ
  itemRowCount : ℕ

/-- `readCostCardBaselines`: the row of an identity. -/
def baselineOf (catalog : List CostCard) (orgId : String) (identity : CostCardIdentity) :
    Option CostCard :=
  catalog.find? fun card =>
    card.uniqueKey = (orgId, identity.enterpriseKey, "meituan", identity.spuId, identity.skuId)

/-- A candidate, with the id and the object key that were made for it. -/
def prepareCandidate (catalog : List CostCard) (orgId : String) (newId : ℕ → CostCardId)
    (newKey : ℕ → String) (entry : CostCardCsvExportEntry × ℕ) :
    Except CostCardError PreparedCostCardCandidate := do
  let baseline := baselineOf catalog orgId entry.1.identity
  let operation ← costCardOperation baseline entry.1.contentHash canonicalizationVersion
  return {
    id := (baseline.map (·.id)).getD (newId entry.2)
    identity := entry.1.identity, baseline, card := entry.1.card
    contentHash := entry.1.contentHash, canonicalizationVersion, schemaVersion := csvSchemaVersion
    objectKey := if operation = .unchanged then none else some (newKey entry.2)
    checksumSha256 := entry.1.checksumSha256, byteSize := entry.1.byteSize
    itemRowCount := entry.1.itemRowCount }

/-- `prepareCostCardPublication`: the candidates in the order of their identities. The catalog is
read without a lock, and may have changed when they are published. -/
def prepareCostCardPublication (catalog : List CostCard) (orgId : String)
    (newId : ℕ → CostCardId) (newKey : ℕ → String) (entries : List CostCardCsvExportEntry) :
    Except CostCardError (List PreparedCostCardCandidate) :=
  (entries.insertionSort fun a b => stringLe a.identity.stringify b.identity.stringify).zipIdx.mapM
    (prepareCandidate catalog orgId newId newKey)

/-! ### Publication -/

/-- `costCardBaselineMatches`, of two rows. -/
def sameBaseline (a b : CostCard) : Bool :=
  a.id = b.id && a.revision = b.revision && a.contentHash = b.contentHash &&
    a.objectKey = b.objectKey && a.csvSchemaVersion = b.csvSchemaVersion &&
    a.canonicalizationVersion = b.canonicalizationVersion && a.archivedAt = b.archivedAt

def costCardBaselineMatches : Option CostCard → Option CostCard → Bool
  | none, none => true
  | some a, some b => sameBaseline a b
  | _, _ => false

inductive CostCardWrite where
  | insert (card : CostCard)
  | update (baseline card : CostCard)

variable {nfc} in
/-- The row of a candidate. -/
def publishedRow (job : CostCardJob nfc) (candidate : PreparedCostCardCandidate)
    (objectKey : String) : CostCard where
  id := candidate.id
  orgId := job.orgId
  enterpriseKey := candidate.identity.enterpriseKey
  enterpriseName := job.enterpriseName
  sourceNamespace := "meituan"
  spuId := candidate.identity.spuId
  skuId := candidate.identity.skuId
  dishName := candidate.card.dish_name
  specificationName := candidate.card.specification_name
  baseCategoryName := candidate.card.base_category_name
  objectKey
  checksumSha256 := candidate.checksumSha256
  byteSize := candidate.byteSize
  itemRowCount := candidate.itemRowCount
  csvSchemaVersion := candidate.schemaVersion
  contentHash := candidate.contentHash
  canonicalizationVersion := candidate.canonicalizationVersion
  sourceDocumentId := job.sourceDocumentId
  importBatchId := job.importBatchId
  revision := (candidate.baseline.map (·.revision)).getD 0 + 1
  archivedAt := none

variable {nfc} in
/-- What is written for a candidate, if anything. -/
def candidateWrite (job : CostCardJob nfc) (candidate : PreparedCostCardCandidate) :
    Except CostCardError (Option CostCardWrite) := do
  let operation ← costCardOperation candidate.baseline candidate.contentHash
    candidate.canonicalizationVersion
  if operation = .unchanged then return none
  else match candidate.objectKey with
    | none => .error .objectNotPrepared
    | some objectKey =>
      let card := publishedRow job candidate objectKey
      match candidate.baseline with
      | none => return some (.insert card)
      | some baseline => return some (.update baseline card)

/-- Plain INSERT: a key that is taken already is refused. Collations that take more texts for
equal only refuse more. -/
def insertCard (catalog : List CostCard) (card : CostCard) : Except CostCardError (List CostCard) :=
  if catalog.any fun other => other.id = card.id || other.uniqueKey = card.uniqueKey ||
      other.objectKey = card.objectKey then .error .duplicateKey
  else .ok (catalog ++ [card])

/-- The rows that an update is meant for: by id, identity and the values of the baseline. -/
def isTarget (baseline card row : CostCard) : Bool :=
  row.id = card.id && row.uniqueKey = card.uniqueKey && row.revision = baseline.revision &&
    row.contentHash = baseline.contentHash && row.objectKey = baseline.objectKey &&
    row.canonicalizationVersion = baseline.canonicalizationVersion &&
    row.archivedAt = baseline.archivedAt

/-- The mutable columns of a row. -/
def assignColumns (row card : CostCard) : CostCard :=
  { row with
    enterpriseName := card.enterpriseName, dishName := card.dishName
    specificationName := card.specificationName, baseCategoryName := card.baseCategoryName
    objectKey := card.objectKey, checksumSha256 := card.checksumSha256, byteSize := card.byteSize
    itemRowCount := card.itemRowCount, csvSchemaVersion := card.csvSchemaVersion
    contentHash := card.contentHash, canonicalizationVersion := card.canonicalizationVersion
    sourceDocumentId := card.sourceDocumentId, importBatchId := card.importBatchId
    revision := card.revision, archivedAt := none }

def updateCard (catalog : List CostCard) (update : CostCard × CostCard) :
    Except CostCardError (List CostCard) :=
  if catalog.any (isTarget update.1 update.2) then
    .ok (catalog.map fun row =>
      if isTarget update.1 update.2 row then assignColumns row update.2 else row)
  else .error .baselineStale

def insertOf : CostCardWrite → Option CostCard
  | .insert card => some card
  | .update _ _ => none

def updateOf : CostCardWrite → Option (CostCard × CostCard)
  | .insert _ => none
  | .update baseline card => some (baseline, card)

/-- The candidates do not fit together. -/
def candidatesInvalid (candidates : List PreparedCostCardCandidate) (inputItemRowCount : ℕ) :
    Bool :=
  candidates.isEmpty || !decide (candidates.map (·.identity)).Nodup ||
    !decide (candidates.map (·.id)).Nodup || !decide (candidates.filterMap (·.objectKey)).Nodup ||
    (candidates.any fun candidate =>
      candidates.head?.map (·.identity.enterpriseKey) ≠ some candidate.identity.enterpriseKey) ||
    (candidates.any fun candidate =>
      (candidate.baseline.any fun card => candidate.id ≠ card.id) ||
        candidate.card.spu_id ≠ candidate.identity.spuId ||
        candidate.card.sku_id ≠ candidate.identity.skuId) ||
    inputItemRowCount ≠ (candidates.map (·.itemRowCount)).foldl (· + ·) 0

variable {nfc} in
/-- `publishCostCards`; `applicable` is what the checks say that are not about the candidates. -/
def publishCostCards (catalog : List CostCard) (job : CostCardJob nfc) (applicable : Bool)
    (candidates : List PreparedCostCardCandidate) (inputItemRowCount : ℕ) :
    Except CostCardError (List CostCard) := do
  if !applicable then .error .notApplicable
  else if candidatesInvalid candidates inputItemRowCount then .error .invalidInput
  else if candidates.any fun candidate => !costCardBaselineMatches candidate.baseline
      (baselineOf catalog job.orgId candidate.identity) then .error .baselineStale
  else do
    let writes ← candidates.mapM (candidateWrite job)
    let inserted ← ((writes.filterMap id).filterMap insertOf).foldlM insertCard catalog
    ((writes.filterMap id).filterMap updateOf).foldlM updateCard inserted

/-- `archiveCostCard`, of an administrator's organization. -/
def archiveCostCard (catalog : List CostCard) (orgId : String) (costCardId : CostCardId)
    (now : ℕ) : Except CostCardError (List CostCard) :=
  if catalog.any fun card => card.id = costCardId && card.orgId = orgId then
    .ok (catalog.map fun card =>
      if card.id = costCardId && card.orgId = orgId && card.archivedAt.isNone then
        { card with archivedAt := some now, revision := card.revision + 1 }
      else card)
  else .error .notFound

variable {nfc} in
/-- An import, from the rows of its file to the catalog. Candidates are prepared from the catalog
as it was found before, `read`. -/
def importCostCards (read catalog : List CostCard) (job : CostCardJob nfc) (applicable : Bool)
    (rows : List StructuredImportRow) (file : CanonicalCostCard → CostCardFile)
    (newId : ℕ → CostCardId) (newKey : ℕ → String) : Except CostCardError (List CostCard) :=
  match groupCostCardRows rows job.enterpriseKey with
  | .error _ => .error .invalidInput
  | .ok parsed =>
    match exportCostCardCsv file parsed with
    | none => .error .invalidInput
    | some entries => do
      let candidates ← prepareCostCardPublication read job.orgId newId newKey entries
      publishCostCards catalog job applicable candidates parsed.inputItemRowCount

/-- One change of the catalog. -/
inductive CatalogStep : List CostCard → List CostCard → Prop where
  | imported {catalog catalog' : List CostCard} (read : List CostCard) (job : CostCardJob nfc)
      (applicable : Bool) (rows : List StructuredImportRow)
      (file : CanonicalCostCard → CostCardFile) (newId : ℕ → CostCardId) (newKey : ℕ → String)
      (h : importCostCards read catalog job applicable rows file newId newKey = .ok catalog') :
      CatalogStep catalog catalog'
  | archived {catalog catalog' : List CostCard} (orgId : String) (costCardId : CostCardId)
      (now : ℕ) (h : archiveCostCard catalog orgId costCardId now = .ok catalog') :
      CatalogStep catalog catalog'

/-- The catalogs that imports and archivings can lead to. -/
inductive Published : List CostCard → Prop where
  | empty : Published []
  | step {catalog catalog' : List CostCard} (h : Published catalog)
      (hstep : CatalogStep nfc catalog catalog') : Published catalog'

end CostCardCatalog
end SmeDataCenter
