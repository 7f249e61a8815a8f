import SmeDataCenter.CalendarDates
import SmeDataCenter.StructuredQuery
import SmeDataCenter.WorkerTables

/-!
# The scope of a download

What a caller asks for, brought into one form: names are normalized and trimmed, lists are sorted
without repetitions. The fingerprint of a request is the hash of that form. `normalize` is the
normal form NFC of a text, and `hash` the digest of one.
-/

namespace SmeDataCenter

open StructuredQuery (scriptLength trimString)

/-- `JSON.stringify`: the fields of an object stay in their order. -/
def stringify : Json → String
  | .null => "null"
  | .bool b => if b then "true" else "false"
  | .num n => toString n
  | .str s => quote s
  | .arr items => "[" ++ String.intercalate "," (stringifyItems items) ++ "]"
  | .obj fields => "\x7b" ++ String.intercalate "," (stringifyFields fields) ++ "\x7d"
where
  stringifyItems : List Json → List String
    | [] => []
    | item :: items => stringify item :: stringifyItems items
  stringifyFields : List (String × Json) → List String
    | [] => []
    | (name, value) :: fields => (quote name ++ ":" ++ stringify value) :: stringifyFields fields

structure PartitionDownloadScope where
  dataset : String
  enterpriseKey : String
  enterpriseName : String
  startDate : String
  endDate : String
  storeNameContains : Option (List String) := none
  storeIds : Option (List String) := none

/-- `PARTITION_DATASETS` -/
def partitionDatasets : List String :=
  ["business", "dishes", "in_store_orders", "takeaway_orders"]

def isPartitionDataset (value : String) : Bool := partitionDatasets.contains value

/-- Does the text write a date, and write it as the date is written? -/
def isScopeDate (value : String) : Bool := (readIsoDate value.toList).isSome

/-- One search term of `parsePartitionStoreNameContains`. -/
def parseStoreNameTerm (normalize : String → String) (item : String) :
    Except WorkerError String :=
  let normalized := trimString (normalize item)
  if normalized = "" || 255 < scriptLength normalized then
    .error (.thrown "INVALID_PARTITION_STORE_NAME_FILTER")
  else .ok normalized

def parsePartitionStoreNameContains (normalize : String → String) :
    Option (List String) → Except WorkerError (Option (List String))
  | none => .ok none
  | some value => do
    if value.length < 1 || 20 < value.length then
      throw (.thrown "INVALID_PARTITION_STORE_NAME_FILTER")
    return some (← value.mapM (parseStoreNameTerm normalize))

/-- `[...new Set(values)].sort()` -/
def sortedSet (values : List String) : List String := sortStrings (distinct values)

def canonicalizePartitionDownloadScope (normalize : String → String)
    (scope : PartitionDownloadScope) : Except WorkerError PartitionDownloadScope := do
  if !isPartitionDataset scope.dataset || trimString scope.enterpriseKey = "" ||
      trimString scope.enterpriseName = "" || !isScopeDate scope.startDate ||
      !isScopeDate scope.endDate || !decide (stringLe scope.startDate scope.endDate) then
    throw (.thrown "INVALID_PARTITION_DOWNLOAD_SCOPE")
  let terms ← parsePartitionStoreNameContains normalize scope.storeNameContains
  if scope.storeIds.any fun ids => ids.isEmpty || 2000 < ids.length ||
      ids.any fun id => trimString id = "" || 255 < scriptLength id then
    throw (.thrown "INVALID_PARTITION_DOWNLOAD_SCOPE")
  return { scope with
    enterpriseKey := trimString (normalize scope.enterpriseKey)
    enterpriseName := trimString (normalize scope.enterpriseName)
    storeNameContains := terms.map sortedSet
    storeIds := scope.storeIds.map fun ids => sortedSet (ids.map fun id => trimString (normalize id)) }

def PartitionDownloadScope.json (scope : PartitionDownloadScope) : Json :=
  .ofFields [("dataset", some (.str scope.dataset)),
    ("enterpriseKey", some (.str scope.enterpriseKey)),
    ("enterpriseName", some (.str scope.enterpriseName)),
    ("startDate", some (.str scope.startDate)), ("endDate", some (.str scope.endDate)),
    ("storeNameContains", scope.storeNameContains.map .strings),
    ("storeIds", scope.storeIds.map .strings)]

def partitionDownloadFingerprint (hash : String → String) (scope : PartitionDownloadScope) :
    String :=
  hash (stringify scope.json)

def isIdempotencyKey (key : String) : Bool :=
  trimString key ≠ "" && scriptLength key ≤ 128 && key = trimString key

/-- A call of `prepare`. -/
structure PrepareCall where
  orgId : String
  requesterId : String
  scope : PartitionDownloadScope
  idempotencyKey : String

/-- What `prepare` checks before its transaction, and the fingerprint of the request. -/
def PrepareCall.fingerprint (normalize hash : String → String) (call : PrepareCall) :
    Except WorkerError String := do
  let scope ← canonicalizePartitionDownloadScope normalize call.scope
  if !isIdempotencyKey call.idempotencyKey then throw (.thrown "INVALID_IDEMPOTENCY_KEY")
  return partitionDownloadFingerprint hash scope

end SmeDataCenter
