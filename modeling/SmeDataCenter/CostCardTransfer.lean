import SmeDataCenter.CostCardManifests

/-!
# The launcher's check of a manifest

The launcher checks a manifest before it downloads anything: the form of every entry, that the
cards are distinct and match the selection, and the totals. It reads the selection anew, on the
names that the manifest shows.
-/

namespace SmeDataCenter
namespace CostCardCatalog

open ScriptText EnterpriseNames

/-! ### Remote values -/

/-- An entry as the launcher receives it. -/
structure RemoteEntry where
  costCardId : ScriptText
  revision : ScriptText
  enterpriseName : ScriptText
  sourceNamespace : ScriptText
  spuId : ScriptText
  skuId : ScriptText
  dishName : ScriptText
  specificationName : Option ScriptText
  schemaVersion : ℤ
  itemRowCount : ℤ
  byteSize : ℤ
  checksumSha256 : ScriptText
  sourceDocumentId : ScriptText
  importBatchId : ScriptText
  presignedDownloadUrl : ScriptText

/-- A manifest as the launcher receives it. A value of another shape is refused at once, and
`expiresAt` is the instant that its text names. -/
structure RemoteManifest where
  expiresAt : ℤ
  cardCount : ℤ
  totalItemRowCount : ℤ
  cards : List RemoteEntry

def remoteEntry (entry : CostCardManifestEntry) : RemoteEntry where
  costCardId := ofString entry.costCardId
  revision := ofString entry.revision
  enterpriseName := ofString entry.enterpriseName
  sourceNamespace := ofString entry.sourceNamespace
  spuId := ofString entry.spuId
  skuId := ofString entry.skuId
  dishName := ofString entry.dishName
  specificationName := entry.specificationName.map ofString
  schemaVersion := entry.schemaVersion
  itemRowCount := entry.itemRowCount
  byteSize := entry.byteSize
  checksumSha256 := ofString entry.checksumSha256
  sourceDocumentId := ofString entry.sourceDocumentId
  importBatchId := ofString entry.importBatchId
  presignedDownloadUrl := ofString entry.presignedDownloadUrl

/-- What the transport delivers. -/
def transport (manifest : CostCardManifest) : RemoteManifest where
  expiresAt := manifest.expiresAt
  cardCount := manifest.cardCount
  totalItemRowCount := manifest.totalItemRowCount
  cards := manifest.cards.map remoteEntry

/-! ### Schemas -/

def inRange (first last u : ℕ) : Bool := first ≤ u && u ≤ last

/-- `[A-Za-z0-9_-]` -/
def isIdUnit (u : UInt16) : Bool :=
  inRange 0x41 0x5A u.toNat || inRange 0x61 0x7A u.toNat || inRange 0x30 0x39 u.toNat ||
    u.toNat = 0x5F || u.toNat = 0x2D

def isDigitUnit (u : UInt16) : Bool := inRange 0x30 0x39 u.toNat

/-- `[a-f0-9]` -/
def isHexUnit (u : UInt16) : Bool := inRange 0x61 0x66 u.toNat || isDigitUnit u

/-- `/^[A-Za-z0-9_-]{1,128}$/` -/
def isCardId (text : ScriptText) : Bool :=
  1 ≤ text.length && text.length ≤ 128 && text.all isIdUnit

/-- `/^[1-9][0-9]*$/` -/
def isRevision : ScriptText → Bool
  | [] => false
  | u :: rest => inRange 0x31 0x39 u.toNat && rest.all isDigitUnit

/-- `/^[a-f0-9]{64}$/` -/
def isDigest (text : ScriptText) : Bool := text.length = 64 && text.all isHexUnit

/-- `z.string().min(1).max(limit)` -/
def isText (limit : ℕ) (text : ScriptText) : Bool := 1 ≤ text.length && text.length ≤ limit

/-- `z.number().int().min(0).max(Number.MAX_SAFE_INTEGER)` -/
def isSafeCount (n : ℤ) : Bool := 0 ≤ n && n ≤ maxSafeInteger

/-- `z.iso.datetime({ offset: true })`: the texts of the years 0 to 9999, which are those that
`toISOString` writes with four digits. -/
def isIsoDatetime (time : ℤ) : Bool := -62167219200000 ≤ time && time < 253402300800000

-- `new URL`, which decides what `z.url()` accepts
variable (parseUrl : String → Option (List (String × String)))

def entrySchema (entry : RemoteEntry) : Bool :=
  isCardId entry.costCardId && isRevision entry.revision && entry.enterpriseName ≠ [] &&
    entry.sourceNamespace = ofString "meituan" && isText 64 entry.spuId &&
    isText 64 entry.skuId && isText 512 entry.dishName &&
    entry.specificationName.all (isText 255) && entry.schemaVersion = csvSchemaVersion &&
    isSafeCount entry.itemRowCount && isSafeCount entry.byteSize &&
    isDigest entry.checksumSha256 && entry.sourceDocumentId ≠ [] && entry.importBatchId ≠ [] &&
    (parseUrl (stored entry.presignedDownloadUrl)).isSome

def manifestSchema (manifest : RemoteManifest) : Bool :=
  isIsoDatetime manifest.expiresAt && isSafeCount manifest.cardCount &&
    isSafeCount manifest.totalItemRowCount && manifest.cards.all (entrySchema parseUrl)

/-! ### Validation -/

/-- The limits are read as positive safe integers. -/
structure TransferLimits where
  partitionImportMaxPartitions : ℕ
  partitionDownloadMaxBytes : ℕ
  safeCards : partitionImportMaxPartitions ≤ maxSafeInteger
  safeBytes : partitionDownloadMaxBytes ≤ maxSafeInteger

-- the normal form of a well-formed text
variable (nfc : String → String)

/-- Do the names of enterprises have one key? `none` when a name has none, which throws. -/
def sameEnterprise (a b : ScriptText) : Option Bool := do
  let left ← enterpriseKeyOf nfc a
  let right ← enterpriseKeyOf nfc b
  return left = right

/-- The filters of a selection but the one for the enterprise. -/
def matchesFilters (entry : RemoteEntry) (selection : CostCardSelection) : Bool :=
  selection.costCardIds.all (·.contains entry.costCardId) &&
    selection.spuIds.all (·.contains entry.spuId) &&
    selection.skuIds.all (·.contains entry.skuId) &&
    selection.dishName.all (· = entry.dishName) &&
    selection.dishNameContains.all (includes entry.dishName) &&
    selection.specificationName.all (some · = entry.specificationName)

/-- `matchesSelection` -/
def matchesSelection (entry : RemoteEntry) (selection : CostCardSelection) : Bool :=
  (selection.enterpriseName.all fun name =>
    (sameEnterprise nfc name entry.enterpriseName).getD false) && matchesFilters entry selection

/-- `id.toLowerCase()`, of an id that the schema has accepted. -/
def lowerId (id : ScriptText) : ScriptText := id.map lowerUnit

/-- What tells cards apart: the key of the enterprise, the namespace, SPU and SKU. -/
abbrev CardIdentity := ScriptText × ScriptText × ScriptText × ScriptText

def entryIdentity (entry : RemoteEntry) : Option CardIdentity :=
  (enterpriseKeyOf nfc entry.enterpriseName).map fun key =>
    (key, entry.sourceNamespace, entry.spuId, entry.skuId)

structure ValidationState where
  ids : List ScriptText := []
  fileIds : List ScriptText := []
  identities : List CardIdentity := []
  rows : ℤ := 0
  bytes : ℤ := 0

/-- One entry; `none` when something is wrong with it. -/
def validateEntry (selection : CostCardSelection) (limits : TransferLimits)
    (state : ValidationState) (entry : RemoteEntry) : Option ValidationState := do
  let identity ← entryIdentity nfc entry
  if state.ids.contains entry.costCardId || state.fileIds.contains (lowerId entry.costCardId) ||
      state.identities.contains identity || !matchesSelection nfc entry selection then none
  else
    let rows := state.rows + entry.itemRowCount
    let bytes := state.bytes + entry.byteSize
    if maxSafeInteger < rows || maxSafeInteger < bytes ||
        limits.partitionDownloadMaxBytes < bytes then none
    else some {
      ids := entry.costCardId :: state.ids
      fileIds := lowerId entry.costCardId :: state.fileIds
      identities := identity :: state.identities, rows, bytes }

/-- `validateManifest`; `none` is "Invalid cost card manifest; retry the download." -/
def validateManifest (now : ℤ) (value : RemoteManifest) (selection : CostCardSelection)
    (limits : TransferLimits) : Option RemoteManifest := do
  if !manifestSchema parseUrl value then none
  else if value.cardCount ≠ value.cards.length ||
      limits.partitionImportMaxPartitions < value.cardCount || value.expiresAt ≤ now then none
  else do
    let state ← value.cards.foldlM (validateEntry nfc selection limits) {}
    if state.rows ≠ value.totalItemRowCount ||
        (selection.costCardIds.getD []).any fun id => !state.ids.contains id then none
    else some value

/-- The name of the file that a card is written to. -/
def fileName (entry : RemoteEntry) : ScriptText :=
  ofString "cost_card_" ++ entry.costCardId ++ ofString ".csv"

end CostCardCatalog
end SmeDataCenter
