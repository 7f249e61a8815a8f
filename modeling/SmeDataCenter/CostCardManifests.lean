import Mathlib.Algebra.GroupWithZero.Nat
import SmeDataCenter.CostCardSelections

/-!
# Manifests of cost cards

The server answers a selection with a manifest: the cards of a snapshot, a URL to download each
of them, and the time at which the first of the URLs expires. Presigning is outside of the
transactions, so a second snapshot has to show the same cards. Times are in milliseconds.
-/

namespace SmeDataCenter
namespace CostCardCatalog

open ScriptText EnterpriseNames

def maxSafeInteger : ℕ := 9007199254740991

def manifestMaxTtlSeconds : ℕ := 900

/-! ### Cards -/

structure CostCardManifestEntry where
  costCardId : String
  revision : String
  enterpriseName : String
  sourceNamespace : String
  spuId : String
  skuId : String
  dishName : String
  specificationName : Option String
  schemaVersion : ℕ
  itemRowCount : ℕ
  byteSize : ℕ
  checksumSha256 : String
  sourceDocumentId : String
  importBatchId : String
  presignedDownloadUrl : String
  deriving DecidableEq

/-- The fields of an entry without its URL, and the object it is for. -/
structure FixedCard where
  costCardId : String
  revision : String
  enterpriseName : String
  spuId : String
  skuId : String
  dishName : String
  specificationName : Option String
  schemaVersion : ℕ
  itemRowCount : ℕ
  byteSize : ℕ
  checksumSha256 : String
  sourceDocumentId : String
  importBatchId : String
  objectKey : String
  deriving DecidableEq

def safeCostCardInteger (value : ℕ) : Except CostCardError ℕ :=
  if maxSafeInteger < value then .error .metadataInvalid else .ok value

def fixedCard (card : CostCard) : Except CostCardError FixedCard :=
  if card.sourceNamespace ≠ "meituan" || card.csvSchemaVersion ≠ csvSchemaVersion then
    .error .schemaUnsupported
  else do
    let itemRowCount ← safeCostCardInteger card.itemRowCount
    let byteSize ← safeCostCardInteger card.byteSize
    return {
      costCardId := card.id.1, revision := toString card.revision
      enterpriseName := card.enterpriseName, spuId := card.spuId, skuId := card.skuId
      dishName := card.dishName, specificationName := card.specificationName
      schemaVersion := card.csvSchemaVersion, itemRowCount, byteSize
      checksumSha256 := card.checksumSha256.1, sourceDocumentId := card.sourceDocumentId
      importBatchId := card.importBatchId, objectKey := card.objectKey }

def fixedCards (snapshot : CostCardDirectorySnapshot) : Except CostCardError (List FixedCard) :=
  snapshot.cards.mapM fixedCard

def manifestEntry (card : FixedCard) (url : String) : CostCardManifestEntry where
  costCardId := card.costCardId
  revision := card.revision
  enterpriseName := card.enterpriseName
  sourceNamespace := "meituan"
  spuId := card.spuId
  skuId := card.skuId
  dishName := card.dishName
  specificationName := card.specificationName
  schemaVersion := card.schemaVersion
  itemRowCount := card.itemRowCount
  byteSize := card.byteSize
  checksumSha256 := card.checksumSha256
  sourceDocumentId := card.sourceDocumentId
  importBatchId := card.importBatchId
  presignedDownloadUrl := url

/-- `expiresAt` is kept as the instant that its text names. -/
structure CostCardManifest where
  expiresAt : ℤ
  cardCount : ℕ
  totalItemRowCount : ℕ
  cards : List CostCardManifestEntry
  deriving DecidableEq

/-! ### Expiry -/

/-- What the language's runtime and the storage answer. -/
structure ManifestServices where
  /-- The readings of the clock, in their order. -/
  now : ℕ → ℤ
  /-- The URLs that are presigned, in their order. -/
  downloadUrl : ℕ → String
  /-- `new URL(value).searchParams`; `none` when the URL is refused. -/
  parseUrl : String → Option (List (String × String))
  /-- `Date.parse`; `none` is `NaN`. -/
  parseDate : String → Option ℤ

def allDigits (s : String) : Bool := !s.toList.isEmpty && s.toList.all Text.isDigit

/-- `Number(digits)` -/
def digitsValue (s : String) : ℤ :=
  s.toList.foldl (fun n c => n * 10 + (c.toNat - '0'.toNat : ℕ)) 0

/-- The characters from one position up to another. -/
def slice (s : String) (first last : ℕ) : String :=
  String.ofList ((s.toList.drop first).take (last - first))

/-- `/^\d{8}T\d{6}Z$/` -/
def isCompactDate (s : String) : Bool :=
  s.toList.length = 16 && (s.toList.take 8).all Text.isDigit && s.toList[8]? = some 'T' &&
    ((s.toList.drop 9).take 6).all Text.isDigit && s.toList[15]? = some 'Z'

def expandedDate (date : String) : String :=
  slice date 0 4 ++ "-" ++ slice date 4 6 ++ "-" ++ slice date 6 8 ++ "T" ++ slice date 9 11 ++
    ":" ++ slice date 11 13 ++ ":" ++ slice date 13 15 ++ "Z"

/-- AWS-compatible signatures expose their actual signing instant. -/
def actualDownloadExpiry (services : ManifestServices) (value : String) :
    Except CostCardError (Option ℤ) :=
  match services.parseUrl value with
  | none => .error .invalidUrl
  | some params =>
    match (params.lookup "Expires").filter allDigits with
    | some absolute => .ok (some (digitsValue absolute * 1000))
    | none =>
      match (params.lookup "X-Amz-Date").filter isCompactDate,
          (params.lookup "X-Amz-Expires").filter allDigits with
      | some date, some seconds =>
        match services.parseDate (expandedDate date) with
        | none => .error .changed
        | some instant => .ok (some (instant + digitsValue seconds * 1000))
      | _, _ => .ok none

/-- A reading of the clock, rounded down to a second. -/
def secondOf (time : ℤ) : ℤ := time / 1000 * 1000

/-- The instants at which the URL of one card may have expired. -/
def cardExpiry (services : ManifestServices) (ttl : ℕ) (index : ℕ) :
    Except CostCardError (List ℤ) := do
  let actual ← actualDownloadExpiry services (services.downloadUrl index)
  return (secondOf (services.now (index + 1)) + ttl * 1000) :: actual.toList

/-- The instant up to which all URLs are good. -/
def earliest (first : ℤ) (times : List ℤ) : ℤ := times.foldl min first

/-- The largest instant that a `Date` has. -/
def maxDate : ℤ := 8640000000000000

/-! ### The service -/

structure CostCardServiceInput where
  maxCards : ℕ
  urlTtlSeconds : ℕ

def CostCardServiceInput.ttl (input : CostCardServiceInput) : ℕ :=
  min input.urlTtlSeconds manifestMaxTtlSeconds

/-- Errors of the second snapshot that mean that the cards have changed. -/
def changedError : CostCardError → CostCardError
  | .accessDenied => .changed
  | .manifestTooLarge => .changed
  | error => error

/-- `createCostCardManifest`, with the database as the first snapshot finds it and as the second
one does. -/
def createCostCardManifest (nfc : String → String) (services : ManifestServices)
    (input : CostCardServiceInput) (orgId : String) (raw : CostCardSelection)
    (before after : CostCardDirectory) : Except CostCardError CostCardManifest :=
  if input.ttl < 1 || input.maxCards < 1 then .error .limitInvalid
  else do
    let selection ← parseCostCardSelection raw
    let snapshot ← readSnapshot nfc before orgId selection input.maxCards
    let fixed ← fixedCards snapshot
    if input.maxCards < fixed.length then .error .manifestTooLarge
    else do
      let expiries ← (List.range fixed.length).mapM (cardExpiry services input.ttl)
      let expiresAt := earliest (secondOf (services.now 0) + input.ttl * 1000) expiries.flatten
      let current ← (readSnapshot nfc after orgId selection input.maxCards).mapError changedError
      let again ← fixedCards current
      if current.authorizationVersion ≠ snapshot.authorizationVersion || again ≠ fixed ||
          expiresAt ≤ services.now (fixed.length + 1) then .error .changed
      else if maxDate < expiresAt.natAbs then .error .invalidDate
      else do
        let totalItemRowCount ← safeCostCardInteger (fixed.map (·.itemRowCount)).sum
        return {
          expiresAt, cardCount := fixed.length, totalItemRowCount
          cards := fixed.zipIdx.map fun card => manifestEntry card.1 (services.downloadUrl card.2) }

end CostCardCatalog
end SmeDataCenter
